import PathRouting.Proofs.Pattern.Chain
import PathRouting.Proofs.Regex.Explore
import PathRouting.Proofs.Regex.Wrapped

/-!
# Constraints of captures

A capture that is a segment of its own may hold a regular expression.  It is compiled between the
two ends of a text, so that it has to match all of a segment.  That is how it works as long as the
constraint does not close the group that it is put into: a constraint such as `a)|(?:b` is malformed
alone, but not between the two ends, and there it comes apart into two halves that are anchored at
one end each.

## Main definitions

* `ElementKind.constraint?` — the constraint of a capture.
* `ElementKind.Compiled` — whether a constraint is what its regular expression was compiled from.

## Main results

* `compiled_of_parse` — the constraints of a pattern are compiled between the two ends of a text.
* `take?_of_constraint` — **a constraint is matched with all of a segment, unless it is malformed
  alone, and it is malformed alone exactly if it closes a group that it did not open**.
-/

namespace PathRouting

open Regex

variable {o : PatternOptions} {text : List Char} {p : Pattern}

/-! ### Compiled constraints -/

/-- The constraint of a capture, and the regular expression that was made of it. -/
def ElementKind.constraint? : ElementKind → Option (List Char × Regex)
  | capture _ constraint => constraint
  | _ => none

theorem ElementKind.eq_capture {k : ElementKind} {x : List Char × Regex}
    (h : k.constraint? = some x) : ∃ name, k = .capture name (some x) := by
  cases k with
  | capture name constraint =>
    obtain rfl : constraint = some x := h
    exact ⟨name, rfl⟩
  | _ => simp [ElementKind.constraint?] at h

/-- Whether the regular expression of a capture is its constraint between the two ends of a text. -/
def ElementKind.Compiled (o : PatternOptions) (k : ElementKind) : Prop :=
  ∀ name constraint re, k = .capture name (some (constraint, re)) →
    Regex.compile? (!o.caseSensitive) (constraintSource constraint) = some re

theorem compileAt_ok {position : Nat} {source : List Char} {re : Regex}
    (h : compileAt o position source = .ok re) :
    Regex.compile? (!o.caseSensitive) source = some re := by
  unfold compileAt at h
  split at h
  · next hcompile => rw [hcompile, Except.ok.inj h]
  · simp at h

theorem compiled_of_readSegment {names names' : List (List Char)} {position : Nat}
    {segment : List Char} {kind : ElementKind}
    (h : readSegment o names position segment = .ok (kind, names')) : kind.Compiled o := by
  intro name constraint re hkind
  subst hkind
  cases segmentRead_of_readSegment h with
  | constrained _ _ _ _ _ hcompiled => exact compileAt_ok hcompiled

theorem compiled_of_parse (h : Pattern.parse o text = .ok p) :
    ∀ e ∈ p.elements, e.kind.Compiled o := by
  intro e he
  have hfrom := fromToken_of_parse h e.kind (List.mem_map_of_mem he)
  generalize e.kind = k at hfrom
  cases hfrom with
  | single hread => exact compiled_of_readSegment hread
  | _ => simp [ElementKind.Compiled]

/-! ### Matching -/

theorem read?_of_compile? {ignoreCase : Bool} {source : List Char} {re : Regex}
    (h : Regex.compile? ignoreCase source = some re) :
    ∃ item, read? (baseFlags ignoreCase) source = some item ∧ re.expr = item.expr := by
  obtain ⟨expr, hparse, rfl⟩ := Option.map_eq_some_iff.mp h
  obtain ⟨item, hread, hfits⟩ := Option.bind_eq_some_iff.mp hparse
  split at hfits
  · exact ⟨item, hread, (Option.some.inj hfits).symm⟩
  · simp at hfits

/-- A capture takes a segment that is not empty and satisfies the constraint. -/
theorem isSome_take?_capture (q : Query) (s : Segment) (name constraint : List Char) (re : Regex) :
    (q.take? s (.capture name (some (constraint, re)))).isSome = true ↔
      s.value ≠ [] ∧ re.isMatch s.value = true := by
  simp [Query.take?]

/-- **A constraint is matched with all of a segment.**  The one exception is a constraint that
closes a group that it did not open: these are the constraints of patterns that are malformed
alone. -/
theorem take?_of_constraint (h : Pattern.parse o text = .ok p) {name constraint : List Char}
    {re : Regex} (hcapture : .capture name (some (constraint, re)) ∈ p.kinds) :
    (read? (baseFlags (!o.caseSensitive)) constraint = none ↔
        (Reader.start (baseFlags (!o.caseSensitive))).Strays constraint) ∧
      ∀ item, read? (baseFlags (!o.caseSensitive)) constraint = some item →
        ∀ (q : Query) (s : Segment),
          (q.take? s (.capture name (some (constraint, re)))).isSome = true ↔
            s.value ≠ [] ∧ item.expr.Spans s.value := by
  obtain ⟨e, he, hkind⟩ := List.mem_map.mp hcapture
  obtain ⟨whole, hwhole, hexpr⟩ := read?_of_compile? (compiled_of_parse h e he _ _ _ hkind)
  obtain ⟨hstrays, hinner⟩ := read?_enclosed rfl hwhole
  refine ⟨hstrays, fun item hitem q s => ?_⟩
  have hmatch : re.isMatch s.value = true ↔ item.expr.Spans s.value := by
    rw [Regex.isMatch, Regex.match?, hexpr, hinner item hitem]
    exact search_anchored item.expr s.value
  rw [isSome_take?_capture, hmatch]

/-- A constraint with alternatives on the top level. -/
theorem take?_of_constraint_alternatives : ∃ p re item,
    Pattern.parse .default "/{n:[0-9]+|ab}".toList = .ok p ∧
      .capture ['n'] (some ("[0-9]+|ab".toList, re)) ∈ p.kinds ∧
      read? (baseFlags false) "[0-9]+|ab".toList = some item ∧
      ∀ (q : Query) (s : Segment),
        (q.take? s (.capture ['n'] (some ("[0-9]+|ab".toList, re)))).isSome = true ↔
          s.value ≠ [] ∧ item.expr.Spans s.value := by
  have hread : (Pattern.parse .default "/{n:[0-9]+|ab}".toList).toOption.bind (fun p =>
      p.kinds[1]?.bind fun k => k.constraint?.map fun x => (k.names, x.1))
      = some ([['n']], "[0-9]+|ab".toList) := by decide +kernel
  have hitem : (read? (baseFlags false) "[0-9]+|ab".toList).isSome = true := by decide +kernel
  obtain ⟨p, hp, hfound⟩ := Option.bind_eq_some_iff.mp hread
  rw [toOption_eq_some] at hp
  obtain ⟨k, hk, hcapture⟩ := Option.bind_eq_some_iff.mp hfound
  obtain ⟨⟨constraint, re⟩, hconstraint, heq⟩ := Option.map_eq_some_iff.mp hcapture
  obtain ⟨hnames, rfl⟩ := Prod.mk.inj heq
  obtain ⟨name, rfl⟩ := ElementKind.eq_capture hconstraint
  obtain rfl : name = ['n'] := List.singleton_inj.mp hnames
  obtain ⟨item, hitem⟩ := Option.isSome_iff_exists.mp hitem
  have hmem := List.mem_of_getElem? hk
  exact ⟨p, re, item, hp, hmem, hitem, (take?_of_constraint hp hmem).2 item hitem⟩

/-- A constraint that closes the group that it is put into.  It is malformed alone, and what is left
of it outside is anchored at one end only. -/
theorem take?_of_strays : ∃ p re,
    Pattern.parse .default "/{x:a)|(?:b}".toList = .ok p ∧
      .capture ['x'] (some ("a)|(?:b".toList, re)) ∈ p.kinds ∧
      Regex.compile? false "a)|(?:b".toList = none ∧
      ∀ q : Query, (q.take? ⟨1, "azzz".toList, "azzz".toList, []⟩
        (.capture ['x'] (some ("a)|(?:b".toList, re)))).isSome = true := by
  have hread : (Pattern.parse .default "/{x:a)|(?:b}".toList).toOption.bind (fun p =>
      p.kinds[1]?.bind fun k =>
        k.constraint?.map fun x => (k.names, x.1, x.2.isMatch "azzz".toList))
      = some ([['x']], "a)|(?:b".toList, true) := by decide +kernel
  have hnone : Regex.compile? false "a)|(?:b".toList = none := by decide +kernel
  obtain ⟨p, hp, hfound⟩ := Option.bind_eq_some_iff.mp hread
  rw [toOption_eq_some] at hp
  obtain ⟨k, hk, hcapture⟩ := Option.bind_eq_some_iff.mp hfound
  obtain ⟨⟨constraint, re⟩, hconstraint, heq⟩ := Option.map_eq_some_iff.mp hcapture
  simp only [Prod.mk.injEq] at heq
  obtain ⟨hnames, rfl, hmatch⟩ := heq
  obtain ⟨name, rfl⟩ := ElementKind.eq_capture hconstraint
  obtain rfl : name = ['x'] := List.singleton_inj.mp hnames
  exact ⟨p, re, hp, List.mem_of_getElem? hk, hnone,
    fun q => (isSome_take?_capture q _ _ _ re).mpr ⟨by simp, hmatch⟩⟩

end PathRouting
