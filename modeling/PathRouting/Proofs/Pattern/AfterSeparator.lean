import PathRouting.Proofs.Config
import PathRouting.Proofs.Pattern.Written

/-!
# Texts after a separator

A text that ends with the separator leaves no segment open, so whatever text is put after it is cut
on its own.  The elements are placed on their own as well, unless the first token of that text is
one that takes in the separator before it: a `**` that is all of the text, or a capture of the rest.

## Main definitions

* `Outline.StandsAlone` — whether the first of some tokens leaves the separator before it alone.

## Main results

* `contentsFrom_append_last` — the tokens of a text put after one that ends with the separator.
* `read_append_last` — reading such a text goes on from the elements before it.
* `placeAll_of_standsAlone` — tokens that leave the separator alone are placed on their own.
* `kinds_append_last` — the elements of both texts.
* `parse_segments_last` — the elements with a `**` and a separator more.
-/

namespace PathRouting

/-! ### Cutting -/

section Tokens

variable {separator c : Char} {b next : Braces} {s : List Char}

/-- Only a closing brace closes a brace. -/
theorem depth_le_of_step (hc : c ≠ '}') (h : b.step c = .ok next) : b.depth ≤ next.depth := by
  unfold Braces.step at h
  split at h
  · rw [← Except.ok.inj h]
  split at h
  · rw [← Except.ok.inj h]
  split at h
  · split at h
    · next hdepth => omega
    · split at h
      · rw [← Except.ok.inj h]
        exact Nat.le_succ _
      · simp at h
  split at h
  · rw [← Except.ok.inj h]
  · rw [← Except.ok.inj h]

/-- **A text put after one that ends with the separator** is cut on its own. -/
theorem contentsFrom_append_last (hopen : separator ≠ '{') (hclose : separator ≠ '}')
    (hb : b.Settled) {cs : List (Option (List Char))}
    (hs : contentsFrom separator b (s ++ [separator]) = some cs) :
    (∃ before, cs = before ++ [none]) ∧ ∀ t, contentsFrom separator b (s ++ separator :: t)
      = (contentsFrom separator .outside t).map (cs ++ ·) := by
  induction s generalizing b cs with
  | nil =>
    -- the separator closes no brace, and none is left open
    obtain ⟨next, rest, hstep, hrest, -⟩ := contentsFrom_cons_eq_some.mp hs
    obtain ⟨hdepth, -⟩ := contentsFrom_nil_eq_some.mp hrest
    have hle := depth_le_of_step hclose hstep
    obtain rfl := hb (by omega)
    rw [List.nil_append, contentsFrom_separator hopen hclose] at hs
    obtain rfl : [none] = cs := Option.some.inj hs
    exact ⟨⟨[], rfl⟩, fun t => contentsFrom_separator hopen hclose t⟩
  | cons c s ih =>
    obtain ⟨next, rest, hstep, hrest, rfl⟩ := contentsFrom_cons_eq_some.mp hs
    obtain ⟨⟨before, rfl⟩, happend⟩ := ih (hb.step hstep) hrest
    refine ⟨?_, fun t => ?_⟩
    · split
      · exact ⟨none :: before, rfl⟩
      · exact ⟨consContent c before, consContent_append c before []⟩
    · rw [List.cons_append, contentsFrom, hstep]
      simp only [toOption_ok, Option.bind_some, happend, Option.map_map]
      congr 1
      funext later
      simp only [Function.comp_apply, List.append_assoc, List.singleton_append,
        consContent_append]
      split <;> simp only [List.cons_append, List.append_assoc, List.nil_append]

/-- A `**` is one token. -/
theorem contentsFrom_segments (h : separator ≠ '*') :
    contentsFrom separator .outside ['*', '*'] = some [some ['*', '*']] := by
  simp [contentsFrom, Braces.step, Braces.outside, Braces.cutsAt, consContent, h.symm]

/-- The tokens of a text hold all of its characters. -/
theorem flatMap_of_contentsFrom {cs : List (Option (List Char))}
    (h : contentsFrom separator b s = some cs) : cs.flatMap (·.getD [separator]) = s := by
  rw [← content_tokensFrom separator b 0 s, Option.map_eq_some_iff] at h
  obtain ⟨ts, hts, rfl⟩ := h
  have htext : ∀ t : Token, t.content.getD [separator] = t.text separator := by
    intro t
    cases t <;> rfl
  rw [List.flatMap_map, ← flatMap_text_tokensFrom (toOption_eq_some.mp hts)]
  simp only [htext]

end Tokens

/-! ### Placing -/

namespace Outline

variable {o : PatternOptions} {first l l' : Outline} {isLast : Bool}

/-- A separator that comes last is the latest element. -/
theorem head_of_placeAll {before : List (Option (List Char))}
    (h : l.placeAll o (before ++ [none]) = some l') : l'.kinds.head? = some .separator := by
  induction before generalizing l with
  | nil =>
    obtain ⟨l₁, hplace, hrest⟩ := Option.bind_eq_some_iff.mp h
    obtain rfl := Option.some.inj hrest
    rw [place, Option.ite_none_left_eq_some] at hplace
    rw [← Option.some.inj hplace.2]
    rfl
  | cons t before ih =>
    obtain ⟨l₁, -, hrest⟩ := Option.bind_eq_some_iff.mp h
    exact ih hrest

/-- **Reading goes on after a text that ends with the separator**, or after nothing, from the
elements of that text. -/
theorem read_append_last (ho : o.validate = .ok o) {text : List Char} (h : read o text = some l)
    (hlast : text = [] ∨ text.getLast? = some o.separator) :
    (text = [] → l = empty) ∧ (text ≠ [] → l.kinds.head? = some .separator) ∧
      ∀ later, read o (text ++ later)
        = (contentsFrom o.separator .outside later).bind (l.placeAll o) := by
  obtain ⟨hopen, hclose, -⟩ := separator_ne ho
  rcases hlast with rfl | hlast
  · obtain rfl : empty = l := Option.some.inj h
    exact ⟨fun _ => rfl, fun hne => absurd rfl hne, fun later => rfl⟩
  · obtain ⟨s, rfl⟩ := List.getLast?_eq_some_iff.mp hlast
    obtain ⟨cs, hcs, hplace⟩ := Option.bind_eq_some_iff.mp h
    obtain ⟨⟨before, rfl⟩, happend⟩ := contentsFrom_append_last hopen hclose settled_outside hcs
    have hhead := head_of_placeAll hplace
    refine ⟨fun hnil => by simp at hnil, fun _ => hhead, fun later => ?_⟩
    rw [read, List.append_assoc, List.singleton_append, happend]
    rcases contentsFrom o.separator .outside later with _ | ts
    · rfl
    · exact placeAll_append_of_head hplace (by simp [hhead]) ts

/-- Whether the first of some tokens leaves the separator before it alone: it is not a `**` that
comes last, and it does not start like a capture of the rest. -/
def StandsAlone (ts : List (Option (List Char))) : Prop :=
  ∀ s rest, ts = some s :: rest → (s = ['*', '*'] → rest ≠ []) ∧ ¬['{', '*'] <+: s

/-- A text other than `**` that does not start like a capture of the rest leaves the separator
before it alone. -/
theorem standsAlone_of_contents {separator : Char} {text : List Char}
    {ts : List (Option (List Char))} (hts : contentsFrom separator .outside text = some ts)
    (hsegments : text ≠ ['*', '*']) (hrest : ¬['{', '*'] <+: text) : StandsAlone ts := by
  rintro s rest rfl
  have htext := flatMap_of_contentsFrom hts
  rw [List.flatMap_cons, Option.getD_some] at htext
  refine ⟨?_, fun hs => hrest (htext ▸ hs.trans (List.prefix_append s _))⟩
  rintro rfl rfl
  exact hsegments htext.symm

/-- A segment that leaves the separator before it alone is placed on its own. -/
theorem place_of_standsAlone (hfirst : first.isClosed = false) {s : List Char}
    (hsegments : isLast = true → s ≠ ['*', '*']) (hrest : ¬['{', '*'] <+: s) :
    first.place o isLast (some s) = (empty.place o isLast (some s)).bind (ontoApart? first) := by
  have hempty : empty.isClosed = false := rfl
  rw [place, place, hfirst, hempty]
  simp only [Bool.false_eq_true, if_false]
  split
  · next hs =>
    have hlast : isLast = false := Bool.eq_false_iff.mpr fun hlast => hsegments hlast hs
    rw [hlast]
    exact (ontoApart?_eq_some (l := empty.push .segments) (by simp [push, empty])).symm
  · split
    · next offset hfound =>
      -- past the first character there is no capture of the rest
      have hoffset : offset ≠ 0 := by
        rintro rfl
        obtain ⟨t, rfl⟩ := findRest_eq_zero hfound
        exact hrest ⟨t, rfl⟩
      have hfault : (readRestName 0 offset s).toOption = none := by
        rw [readRestName, if_pos (.inl hoffset)]
        rfl
      rw [hfault]
      rfl
    · exact map_readSegment_onto (l := empty) (by simp [empty]) s

/-- **Tokens that leave the separator before them alone** are placed on their own, if they give none
of the names before them. -/
theorem placeAll_of_standsAlone (hfirst : first.isClosed = false)
    {ts : List (Option (List Char))} (hts : StandsAlone ts) :
    first.placeAll o ts = (empty.placeAll o ts).bind (ontoApart? first) := by
  rcases ts with _ | ⟨_ | s, rest⟩
  · exact (ontoApart?_eq_some (l := empty) (by simp [empty])).symm
  · exact placeAll_onto (l := empty) hfirst (by simp [empty]) (.inr (by simp))
  · obtain ⟨hsegments, hrest⟩ := hts s rest rfl
    have hplace : first.place o rest.isEmpty (some s)
        = (empty.place o rest.isEmpty (some s)).bind (ontoApart? first) :=
      place_of_standsAlone hfirst (fun hlast hs => hsegments hs (List.isEmpty_iff.mp hlast)) hrest
    rw [placeAll, placeAll, hplace]
    exact bind_placeAll_onto fun l hl hapart =>
      placeAll_onto hfirst hapart (.inl (kinds_ne_nil_of_place hl))

end Outline

/-! ### Patterns -/

section Patterns

variable {o : PatternOptions} {text later : List Char} {p p₁ : Pattern}

/-- A text that is empty or ends with the separator ends with that element, if any. -/
theorem getLast?_of_parse (ho : o.validate = .ok o) (h : Pattern.parse o text = .ok p)
    (hlast : text = [] ∨ text.getLast? = some o.separator) :
    ∀ k ∈ p.kinds.getLast?, k = .separator := by
  intro k hk
  obtain ⟨hempty, hhead, -⟩ := Outline.read_append_last ho (read_of_parse h) hlast
  rw [← List.head?_reverse] at hk
  by_cases htext : text = []
  · have hnil : p.kinds.reverse = [] := congrArg Outline.kinds (hempty htext)
    simp [hnil] at hk
  · exact Option.some.inj (hk.symm.trans (hhead htext))

theorem isClosed_of_parse (ho : o.validate = .ok o) (h : Pattern.parse o text = .ok p)
    (hlast : text = [] ∨ text.getLast? = some o.separator) :
    Outline.isClosed ⟨p.kinds.reverse, p.names.reverse⟩ = false := by
  refine Outline.isClosed_of_head fun k hk => ?_
  rw [List.head?_reverse] at hk
  rw [getLast?_of_parse ho h hlast k hk]
  rfl

/-- **A text that leaves the separator before it alone** is read after one that ends with the
separator, or after nothing, as it is read on its own. -/
theorem kinds_append_last (ho : o.validate = .ok o) (h : Pattern.parse o text = .ok p)
    (hlast : text = [] ∨ text.getLast? = some o.separator) (hsegments : later ≠ ['*', '*'])
    (hrest : ¬['{', '*'] <+: later) (h₁ : Pattern.parse o (text ++ later) = .ok p₁) :
    ∃ p', Pattern.parse o later = .ok p' ∧ p₁.kinds = p.kinds ++ p'.kinds := by
  obtain ⟨-, -, hread⟩ := Outline.read_append_last ho (read_of_parse h) hlast
  have hread₁ := read_of_parse h₁
  rw [hread, Option.bind_eq_some_iff] at hread₁
  obtain ⟨ts, hts, hplace⟩ := hread₁
  rw [Outline.placeAll_of_standsAlone (isClosed_of_parse ho h hlast)
    (Outline.standsAlone_of_contents hts hsegments hrest)] at hplace
  obtain ⟨l, hl, honto⟩ := Option.bind_eq_some_iff.mp hplace
  rw [Outline.ontoApart?_eq, Option.ite_none_right_eq_some] at honto
  obtain ⟨p', hp', hkinds', -⟩ := parse_of_read (Option.bind_eq_some_iff.mpr ⟨ts, hts, hl⟩)
  have hkinds := congrArg (fun l : Outline => l.kinds.reverse) (Option.some.inj honto.2)
  exact ⟨p', hp', by simpa [Outline.onto, hkinds'] using hkinds.symm⟩

/-- A `**` and a separator put after a text that ends with the separator, or after nothing. -/
theorem parse_segments_last (ho : o.validate = .ok o) (h : Pattern.parse o text = .ok p)
    (hlast : text = [] ∨ text.getLast? = some o.separator) :
    ∃ p', Pattern.parse o (text ++ ['*', '*', o.separator]) = .ok p' ∧
      p'.kinds = p.kinds ++ [.segments, .separator] := by
  obtain ⟨hopen, hclose, hstar⟩ := separator_ne ho
  obtain ⟨-, -, hread⟩ := Outline.read_append_last ho (read_of_parse h) hlast
  have hcontents : contentsFrom o.separator .outside ['*', '*', o.separator]
      = some [some ['*', '*'], none] := by
    have happend := contentsFrom_append hopen hclose settled_outside (contentsFrom_segments hstar) []
    rw [contentsFrom_separator hopen hclose] at happend
    exact happend
  have hplace : Outline.place o false ⟨p.kinds.reverse, p.names.reverse⟩ (some ['*', '*'])
      = some ⟨.segments :: p.kinds.reverse, p.names.reverse⟩ := by
    rw [Outline.place, isClosed_of_parse ho h hlast]
    rfl
  have hread' : Outline.read o (text ++ ['*', '*', o.separator])
      = some ⟨.separator :: .segments :: p.kinds.reverse, p.names.reverse⟩ := by
    rw [hread, hcontents]
    show (Outline.place o false _ _).bind _ = _
    rw [hplace]
    rfl
  obtain ⟨p', hp', hkinds, -⟩ := parse_of_read hread'
  exact ⟨p', hp', by simpa using hkinds⟩

end Patterns

end PathRouting
