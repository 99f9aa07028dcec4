import PathRouting.Proofs.Config
import PathRouting.Proofs.Path.Escaped
import PathRouting.Proofs.Pattern.Views
import PathRouting.Proofs.Route.Table

/-!
# Escapes do not change the route

A table tries its patterns on what is seen of a path.  A path that is seen the same has the same
route, and it is the same with some of its characters written as escapes.

## Main results

* `firstMatch_congr` — the first route that matches, when all routes match two paths alike.
* `Holds.findIn_congr` — paths that are seen the same have the same route.
* `find_of_escapesOne` — escaping a character does not change the route.
-/

namespace PathRouting.RouteTable

variable {α : Type} {path path' : Path}

/-- Two paths have the same first match if every route matches them alike. -/
theorem firstMatch_congr {routes : List (Route α)}
    (h : ∀ r ∈ routes, r.pattern.match? path = r.pattern.match? path') :
    firstMatch path routes = firstMatch path' routes := by
  induction routes with
  | nil => rfl
  | cons r rest ih =>
    obtain ⟨hr, hrest⟩ := List.forall_mem_cons.mp h
    rw [firstMatch, firstMatch, hr, ih hrest]

/-- Paths that are seen the same have the same route. -/
theorem Holds.findIn_congr {t : RouteTable α} {o : PatternOptions} {regs : List (Route α)}
    (h : t.Holds o regs)
    (hseen : path.elements.map PathElement.seen = path'.elements.map PathElement.seen) :
    (t.findIn path).1 = (t.findIn path').1 := by
  have hfirst : firstMatch path t.routes = firstMatch path' t.routes :=
    firstMatch_congr fun r hr => matchWith_of_seen hseen (h.parsed r (h.perm.mem_iff.mp hr)) true
  rw [findIn, findIn, hfirst]
  cases firstMatch path' t.routes <;> rfl

/-- **Escaping a character does not change the route.**  A path can still be read when one of its
characters, in the part to match of a segment, is written as the escapes of its bytes; it has
elements of the same kinds, with the same values and variables, and in every table the same route
with the same record. -/
theorem find_of_escapesOne {o : PatternOptions} {text text' : List Char}
    (ho : o.validate = .ok o) (hdecode : o.path.decodeSegments = true)
    (h : Path.parse text o.path = .ok path) (hescaped : path.EscapesOne text')
    (calls : List (List Char × α)) :
    (∃ path', Path.parse text' o.path = .ok path' ∧
      List.Forall₂ (fun e e' => e.isSeparator = e'.isSeparator ∧ e.value = e'.value ∧
        e.matrix = e'.matrix) path.elements path'.elements) ∧
    ∃ found, (((empty o).addAll calls).find text).1 = .ok found ∧
      (((empty o).addAll calls).find text').1 = .ok found := by
  obtain ⟨path', h', hseen⟩ := exists_parse_of_escapesOne (separator_ne_percent ho)
    (isHexDigit_separator ho) hdecode h hescaped
  have hholds : ((empty o).addAll calls).Holds o ((empty o).registered calls) :=
    (holds_empty o).addAll calls
  refine ⟨⟨path', h', PathElement.map_seen_inj.mp hseen⟩,
    (((empty o).addAll calls).findIn path).1, ?_, ?_⟩
  · rw [find, hholds.options, h]
  · rw [find, hholds.options, h', hholds.findIn_congr hseen]

/-- A character after another escape and before a variable, written as the escapes of its bytes. -/
theorem find_of_escapesOne_capture : ∃ path found,
    Path.parse "/b%2Fé;k=1/c".toList .http = .ok path ∧
    path.EscapesOne "/b%2F%C3%a9;k=1/c".toList ∧
    (((empty .default).addAll [("/{x}/c".toList, 7)]).find "/b%2Fé;k=1/c".toList).1
      = .ok found ∧
    (((empty .default).addAll [("/{x}/c".toList, 7)]).find "/b%2F%C3%a9;k=1/c".toList).1
      = .ok found ∧
    found.map (fun f => (f.route.handler, f.info))
      = some (7, ⟨[(['x'], "b/é".toList)], [(['x'], [(['k'], [['1']])])]⟩) := by
  let s : Segment := ⟨1, "b%2Fé;k=1".toList, "b/é".toList, [(['k'], [['1']])]⟩
  let after : List PathElement := [.separator 11 '/', .segment ⟨12, ['c'], ['c'], []⟩]
  let path : Path := .whole "/b%2Fé;k=1/c".toList ([.separator 0 '/'] ++ .segment s :: after) .http
  have hpath : Path.parse "/b%2Fé;k=1/c".toList .http = .ok path :=
    map_eq_ok.mpr ⟨_, by decide +kernel, rfl⟩
  have hescaped : path.EscapesOne "/b%2F%C3%a9;k=1/c".toList := by
    have helements : path.elements = [.separator 0 '/'] ++ .segment s :: after := rfl
    have hraw : s.raw = "b%2F".toList ++ 'é' :: ";k=1".toList := rfl
    have hbytes : Percent.Escapes (String.utf8EncodeChar 'é') "%C3%a9".toList :=
      .cons (by decide) (.cons (by decide) .nil)
    exact .intro helements hraw (by decide +kernel) (by decide) (by decide) rfl hbytes
  obtain ⟨-, found, hfound, hfound'⟩ := find_of_escapesOne (o := .default) rfl rfl hpath hescaped
    [("/{x}/c".toList, 7)]
  have hshown : (((empty .default).addAll [("/{x}/c".toList, 7)]).find
      "/b%2Fé;k=1/c".toList).1.toOption.map (·.map fun f => (f.route.handler, f.info))
      = some (some (7, ⟨[(['x'], "b/é".toList)], [(['x'], [(['k'], [['1']])])]⟩)) := by
    decide +kernel
  rw [hfound] at hshown
  exact ⟨path, found, hpath, hescaped, hfound, hfound', Option.some.inj hshown⟩

end PathRouting.RouteTable
