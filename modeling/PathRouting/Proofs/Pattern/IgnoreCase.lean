import PathRouting.Proofs.Pattern.Widened
import PathRouting.Proofs.Pattern.WithCase
import PathRouting.Proofs.Search.Wider

/-!
# Patterns without regard to case

A pattern that disregards case matches whatever the same text matches where case makes a difference:
literal text is compared in lowercase, text with `?` character by character in lowercase, and the
characters of a mixed segment with all that fold to the same one, and all of these find every
character the same as itself.  Only the room for mixed segments can be too small where case is
disregarded, since a cased character is a set of several then.

## Main results

* `widens_withCase` — each element takes more without regard to case.
* `parse_withCase`, `isMatch_withCase` — which texts are patterns, and which paths match.
-/

namespace PathRouting

open Regex

variable {o : PatternOptions} {text : List Char} {p : Pattern} {k : ElementKind}

/-! ### Elements -/

/-- A part stands for more without regard to case. -/
theorem Part.Takes.ignoreCase {part : Part} {v : List Char} (h : part.Takes false v) :
    part.Takes true v := by
  cases part with
  | char c =>
    obtain ⟨d, rfl, hd⟩ := h
    obtain rfl : d = c := CharSet.contains_exactly.mp hd
    exact ⟨d, rfl, contains_variants_self true d⟩
  | _ => exact h

theorem Splits.ignoreCase {parts : List Part} {v : List Char} (h : Splits false parts v) :
    Splits true parts v := by
  obtain ⟨vs, hvs, hv⟩ := h
  exact ⟨vs, hvs.imp fun _ _ => Part.Takes.ignoreCase, hv⟩

/-- **Each element takes more without regard to case.** -/
theorem widens_withCase {q : Query} (hq : q.extract = false) (k : ElementKind) :
    q.Widens (k.withCase true) (k.withCase false) := by
  cases k with
  | literal t b =>
    refine .inr ⟨rfl, rfl, fun s hs => ?_⟩
    simp only [ElementKind.withCase, Query.take?] at hs ⊢
    have heq : t = s.value := by simpa [textMatches] using hs
    simp [textMatches, heq]
  | singleChars t b =>
    refine .inr ⟨rfl, rfl, fun s hs => ?_⟩
    simp only [ElementKind.withCase, Query.take?] at hs ⊢
    have hchars : charsMatch true t s.value = true := by simpa using hs
    have hlower : charsMatch false t s.value = true := by
      rw [charsMatch_iff] at hchars ⊢
      refine hchars.imp fun a b hab => ?_
      simp only [charMatches, Bool.not_true, Bool.false_and, Bool.or_false] at hab
      rw [charMatches, hab, Bool.true_or]
    rw [if_pos hlower]
    rfl
  | mixed t pieces re =>
    refine .inr ⟨rfl, rfl, fun s hs => ?_⟩
    simp only [ElementKind.withCase, Query.take?, hq, Bool.false_eq_true, if_false] at hs ⊢
    have hmatch : Regex.isMatch ⟨re.source, mixedExpr false (partsOf pieces)⟩ s.value = true := by
      simpa using hs
    rw [if_pos ((isMatch_mixedExpr rfl).mpr ((isMatch_mixedExpr rfl).mp hmatch).ignoreCase)]
    rfl
  | _ => exact .inl rfl

/-- A mixed segment has an open part. -/
theorem exists_isOpen {pieces : List Piece} (h : pieces.any Piece.isOpen = true) :
    ∃ part ∈ partsOf pieces, part.isOpen = true := by
  induction pieces with
  | nil => simp at h
  | cons piece pieces ih =>
    cases piece with
    | literal t =>
      obtain ⟨part, hpart, hopen⟩ := ih h
      exact ⟨part, List.mem_append_right _ hpart, hopen⟩
    | star => exact ⟨.star, List.mem_cons_self, rfl⟩
    | question =>
      obtain ⟨part, hpart, hopen⟩ := ih h
      exact ⟨part, List.mem_cons_of_mem _ hpart, hopen⟩
    | capture name constraint => exact ⟨.capture name, List.mem_cons_self, rfl⟩

/-! ### Patterns -/

/-- A text without constraints has one reading, that is a pattern in each way that it fits. -/
theorem exists_reading (hplain : isUnconstrained o.separator text = true) :
    (∀ b p, Pattern.parse (o.withCase b) text ≠ .ok p) ∨
    ∃ l : Outline, ∀ b,
      ((∃ p, Pattern.parse (o.withCase b) text = .ok p) ↔ l.fits b = true) ∧
      ∀ p, Pattern.parse (o.withCase b) text = .ok p →
        p.kinds = l.kinds.reverse.map (ElementKind.withCase b) := by
  obtain ⟨r, hr⟩ := read_withCase hplain
  cases r with
  | none =>
    refine .inl fun b p hp => ?_
    simpa [hr b] using read_of_parse hp
  | some l =>
    refine .inr ⟨l, fun b => ?_⟩
    have hread : Outline.read (o.withCase b) text = l.withCase? b := hr b
    have hkinds (p : Pattern) (hp : Pattern.parse (o.withCase b) text = .ok p) :
        l.fits b = true ∧ p.kinds = l.kinds.reverse.map (ElementKind.withCase b) := by
      have hsome := hread.symm.trans (read_of_parse hp)
      rw [Outline.withCase?, Option.ite_none_right_eq_some, Outline.withCase,
        Option.some.injEq, Outline.mk.injEq] at hsome
      exact ⟨hsome.1, by rw [List.map_reverse, hsome.2.1, List.reverse_reverse]⟩
    refine ⟨⟨?_, fun hfits => ?_⟩, fun p hp => (hkinds p hp).2⟩
    · rintro ⟨p, hp⟩
      exact (hkinds p hp).1
    · rw [Outline.withCase?, if_pos hfits] at hread
      obtain ⟨p, hp, -⟩ := parse_of_read hread
      exact ⟨p, hp⟩

/-- Elements fit without regard to case when their mixed segments do. -/
theorem Outline.fits_false {l : Outline} : l.fits false = true ↔ ∀ t pieces re,
    .mixed t pieces re ∈ l.kinds.map (ElementKind.withCase true) →
      (mixedExpr true (partsOf pieces)).fits = true := by
  simp only [Outline.fits, List.all_eq_true, List.mem_map]
  constructor
  · rintro hfits t pieces re ⟨k, hk, hmixed⟩
    cases k with
    | mixed t' pieces' re' =>
      obtain ⟨-, rfl, -⟩ := ElementKind.mixed.inj hmixed
      exact hfits _ hk
    | _ => simp [ElementKind.withCase] at hmixed
  · intro hfits k hk
    cases k with
    | mixed t pieces re => exact hfits t pieces _ ⟨_, hk, rfl⟩
    | _ => rfl

/-- Elements with and without regard to case can match the empty path alike. -/
theorem canMatchEmpty_withCase {q : Pattern} {kinds : List ElementKind}
    (hp : p.kinds = kinds.map (ElementKind.withCase true))
    (hq : q.kinds = kinds.map (ElementKind.withCase false)) : p.canMatchEmpty = q.canMatchEmpty := by
  rw [Pattern.canMatchEmpty, Pattern.canMatchEmpty, hp, hq]
  cases kinds with
  | nil => rfl
  | cons k kinds =>
    have hempty : (kinds.map (ElementKind.withCase true)).isEmpty
        = (kinds.map (ElementKind.withCase false)).isEmpty := by simp
    simp only [List.map_cons, hempty]
    cases k <;> rfl

/-- Elements without regard to case match whatever they match with regard to it. -/
theorem isMatch_of_kinds {q : Pattern} {kinds : List ElementKind} {path : Path}
    (hp : Pattern.parse (o.withCase true) text = .ok p)
    (hq : Pattern.parse (o.withCase false) text = .ok q)
    (hpkinds : p.kinds = kinds.map (ElementKind.withCase true))
    (hqkinds : q.kinds = kinds.map (ElementKind.withCase false))
    (hmatch : p.isMatch path = true) : q.isMatch path = true := by
  have hquery : p.query path false false = q.query path false false := by
    rw [Pattern.query, Pattern.query, (text_of_parse hp).2, (text_of_parse hq).2]
    rfl
  have helements : List.Forall₂ (fun e e' => (q.query path false false).Widens e.kind e'.kind)
      p.elements q.elements := by
    have hkinds : List.Forall₂ (q.query path false false).Widens p.kinds q.kinds := by
      rw [hpkinds, hqkinds, List.forall₂_map_left_iff, List.forall₂_map_right_iff,
        List.forall₂_same]
      exact fun k _ => widens_withCase rfl k
    rwa [Pattern.kinds, Pattern.kinds, List.forall₂_map_left_iff,
      List.forall₂_map_right_iff] at hkinds
  by_cases hnil : p.elements = []
  · have hnil' : q.elements = [] := by
      rw [hnil, List.forall₂_nil_left_iff] at helements
      exact helements
    rw [isMatch_of_elements_nil hnil, (text_of_parse hp).2] at hmatch
    rwa [isMatch_of_elements_nil hnil', (text_of_parse hq).2]
  · have hnil' : q.elements ≠ [] := by
      rintro heq
      rw [heq, List.forall₂_nil_right_iff] at helements
      exact hnil helements
    rw [Pattern.isMatch, matchWith_eq hp hnil, canMatchEmpty_withCase hpkinds hqkinds,
      hquery] at hmatch
    rw [Pattern.isMatch, matchWith_eq hq hnil']
    split at hmatch
    · simp at hmatch
    · next hempty =>
      rw [Option.isSome_map] at hmatch
      rw [if_neg hempty, Option.isSome_map]
      exact isSome_search_of_widens helements hmatch

/-- What is a pattern without regard to case is one with regard to it. -/
theorem exists_parse_caseSensitive {q : Pattern} (hplain : isUnconstrained o.separator text = true)
    (hq : Pattern.parse (o.withCase false) text = .ok q) :
    ∃ p, Pattern.parse (o.withCase true) text = .ok p := by
  rcases exists_reading hplain with hnone | ⟨l, hl⟩
  · exact absurd hq (hnone false q)
  have hfits : l.fits false = true := (hl false).1.mp ⟨q, hq⟩
  have hkinds := (hl false).2 q hq
  refine (hl true).1.mpr ?_
  rw [Outline.fits, List.all_eq_true] at hfits ⊢
  intro k hk
  cases k with
  | mixed t pieces re =>
    have hread := readWith_of_parse hq (ElementKind.withCase false (.mixed t pieces re)) (by
      rw [hkinds, List.map_reverse, List.mem_reverse]
      exact List.mem_map_of_mem hk)
    exact fits_caseSensitive (exists_isOpen hread) (hfits _ hk)
  | _ => rfl

/-- **Disregarding case only widens**, but for the room for mixed segments.  A text without
constraints is a pattern without regard to case when it is one with regard to it and the expressions
of its mixed segments fit without regard to case, and then it matches every path that it matches with
regard to case. -/
theorem isMatch_withCase (hplain : isUnconstrained o.separator text = true) :
    ((∃ q, Pattern.parse (o.withCase false) text = .ok q) ↔
      ∃ p, Pattern.parse (o.withCase true) text = .ok p ∧ ∀ t pieces re,
        .mixed t pieces re ∈ p.kinds → (mixedExpr true (partsOf pieces)).fits = true) ∧
    ∀ p q, Pattern.parse (o.withCase true) text = .ok p →
      Pattern.parse (o.withCase false) text = .ok q →
      ∀ path, p.isMatch path = true → q.isMatch path = true := by
  rcases exists_reading hplain with hnone | ⟨l, hl⟩
  · exact ⟨⟨fun ⟨q, hq⟩ => absurd hq (hnone false q), fun ⟨p, hp, _⟩ => absurd hp (hnone true p)⟩,
      fun p q hp => absurd hp (hnone true p)⟩
  have hmixed {p : Pattern} (hp : Pattern.parse (o.withCase true) text = .ok p) :
      l.fits false = true ↔ ∀ t pieces re, .mixed t pieces re ∈ p.kinds →
        (mixedExpr true (partsOf pieces)).fits = true := by
    rw [Outline.fits_false, (hl true).2 p hp]
    simp only [List.map_reverse, List.mem_reverse]
  refine ⟨⟨fun ⟨q, hq⟩ => ?_, fun ⟨p, hp, hfits⟩ => (hl false).1.mpr ((hmixed hp).mpr hfits)⟩,
    fun p q hp hq path hmatch => ?_⟩
  · obtain ⟨p, hp⟩ := exists_parse_caseSensitive hplain hq
    exact ⟨p, hp, (hmixed hp).mp ((hl false).1.mp ⟨q, hq⟩)⟩
  · exact isMatch_of_kinds hp hq ((hl true).2 p hp) ((hl false).2 q hq) hmatch

/-- `A*` matches `Abc` with regard to case, and so it does without. -/
theorem isMatch_withCase_star : isUnconstrained '/' ['A', '*'] = true ∧
    ∃ q path, Pattern.parse (PatternOptions.default.withCase false) ['A', '*'] = .ok q ∧
      Path.parse ['A', 'b', 'c'] .http = .ok path ∧ q.isMatch path = true := by
  have hplain : isUnconstrained '/' ['A', '*'] = true := by decide +kernel
  obtain ⟨hparse, hmatch⟩ := isMatch_withCase (o := .default) hplain
  have hp : Pattern.parse (PatternOptions.default.withCase true) ['A', '*'] = .ok _ := rfl
  have hpath : Path.parse ['A', 'b', 'c'] .http = .ok _ := rfl
  obtain ⟨q, hq⟩ := hparse.mpr ⟨_, hp, fun t pieces re hmixed => by
    obtain ⟨-, rfl, -⟩ := ElementKind.mixed.inj (List.mem_singleton.mp hmixed)
    decide +kernel⟩
  exact ⟨hplain, q, _, hq, hpath, hmatch _ q hp hq _ (by decide +kernel)⟩

/-- A text may be a pattern with regard to case and too large without. -/
theorem not_parse_ignoreCase : ∃ text, isUnconstrained '/' text = true ∧
    (∃ p, Pattern.parse (PatternOptions.default.withCase true) text = .ok p) ∧
    ¬∃ q, Pattern.parse (PatternOptions.default.withCase false) text = .ok q := by
  obtain ⟨text, hplain, hsep, hcolon, hne, hfits, hlong⟩ := exists_tooLong
  refine ⟨text ++ ['*'], isUnconstrained_of_not_mem (by simpa using hcolon) _, ?_, ?_⟩
  · exact (parse_star (o := PatternOptions.default.withCase true) rfl hplain hsep hne).1.mp hfits
  · rw [← (parse_star (o := PatternOptions.default.withCase false) rfl hplain hsep hne).1]
    exact Bool.eq_false_iff.mp hlong

end PathRouting
