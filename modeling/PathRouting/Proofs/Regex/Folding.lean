import Mathlib.Data.List.Chain
import PathRouting.Regex.CharSet

/-!
# Folding and lowercase

A regular expression disregards case by folding, and a comparison of texts by lowercase.  The two
come from different tables.  Still, characters of the same lowercase form fold to the same, and so
each of them stands for the other in a regular expression, except for the dotted `İ` and for 28
capitals whose small letters the table of foldings does not know.

## Main definitions

* `fold` — what a code point folds to.
* `unfolded` — the capitals that do not fold to their lowercase forms.

## Main results

* `CharSet.contains_caseless_of_fold` — a set without case has what folds to the same as a member.
* `fold_lowercase` — a character folds to what its lowercase form folds to.
* `fold_eq_of_lowercase` — characters of the same lowercase form fold to the same.
-/

namespace PathRouting.Regex

open Text

variable {shifts : List Shift} {s t : Shift} {n : Nat} {m : Nat × Nat}

/-! ### Shifts in order -/

/-- Whether a shift moves what comes before all that another one moves. -/
structure Precedes (s t : Shift) : Prop where
  /-- The first one moves something. -/
  left : s.first ≤ s.last
  /-- Nothing of the second one comes earlier. -/
  apart : s.last < t.first
  /-- The second one moves something. -/
  right : t.first ≤ t.last

instance (s t : Shift) : Decidable (Precedes s t) :=
  decidable_of_iff (s.first ≤ s.last ∧ s.last < t.first ∧ t.first ≤ t.last)
    ⟨fun ⟨h, h', h''⟩ => ⟨h, h', h''⟩, fun ⟨h, h', h''⟩ => ⟨h, h', h''⟩⟩

instance : Trans Precedes Precedes Precedes :=
  ⟨fun h h' => ⟨h.left, Nat.lt_trans (Nat.lt_of_lt_of_le h.apart h.right) h'.apart, h'.right⟩⟩

theorem contains_span : s.contains n = true ↔
    s.first ≤ n ∧ n ≤ s.last ∧ (n - s.first) % s.step = 0 := by
  simp [Span.contains, and_assoc]

/-- The moves of a shift are its members with their images. -/
theorem mem_moves (h : s.first ≤ s.last) :
    m ∈ CharSet.moves s ↔ s.contains m.1 = true ∧ m.2 = s.target + (m.1 - s.first) := by
  rw [contains_span, CharSet.moves, List.mem_map]
  constructor
  · rintro ⟨i, hi, rfl⟩
    have hle : i * s.step ≤ s.last - s.first :=
      Nat.le_trans (Nat.mul_le_mul_right _ (Nat.le_of_lt_succ (List.mem_range.mp hi)))
        (Nat.div_mul_le_self ..)
    simp only [Nat.add_sub_cancel_left, Nat.mul_mod_left, and_true]
    omega
  · rintro ⟨⟨hfirst, hlast, hstep⟩, himage⟩
    have hmul : (m.1 - s.first) / s.step * s.step = m.1 - s.first :=
      Nat.div_mul_cancel (Nat.dvd_of_mod_eq_zero hstep)
    refine ⟨(m.1 - s.first) / s.step, List.mem_range.mpr (Nat.lt_succ_of_le ?_), ?_⟩
    · exact Nat.div_le_div_right (by omega)
    · refine Prod.ext ?_ ?_
      · show s.first + _ = _
        omega
      · show s.target + _ = _
        omega

/-- A mapping leaves a code point alone or moves it with a shift that holds it. -/
theorem apply_cases (shifts : List Shift) (n : Nat) : Shifts.apply shifts n = n ∨
    ∃ s ∈ shifts, s.contains n = true ∧ Shifts.apply shifts n = s.target + (n - s.first) := by
  induction shifts with
  | nil => exact .inl rfl
  | cons s shifts ih =>
    rw [Shifts.apply_cons]
    split
    · exact .inl rfl
    split
    · next hs => exact .inr ⟨s, List.mem_cons_self, hs, rfl⟩
    · obtain h | ⟨t, ht, h⟩ := ih
      · exact .inl h
      · exact .inr ⟨t, List.mem_cons_of_mem s ht, h⟩

/-- Among shifts in order the one that holds a code point moves it. -/
theorem apply_of_contains (h : shifts.Pairwise Precedes) (hs : s ∈ shifts)
    (hn : s.contains n = true) : Shifts.apply shifts n = s.target + (n - s.first) := by
  have hmember := contains_span.mp hn
  induction shifts with
  | nil => simp at hs
  | cons t shifts ih =>
    obtain ⟨ht, hshifts⟩ := List.pairwise_cons.mp h
    rw [Shifts.apply_cons]
    rcases List.mem_cons.mp hs with rfl | hs
    · rw [if_neg (Nat.not_lt.mpr hmember.1), if_pos hn]
    · have hprecedes := ht s hs
      have hleft := hprecedes.left
      have hapart := hprecedes.apart
      have hnot : ¬t.contains n = true := by
        rw [contains_span]
        omega
      rw [if_neg (by omega), if_neg hnot, ih hshifts hs]

/-! ### Folding -/

/-- The code point that a code point folds to. -/
def fold (n : Nat) : Nat := Shifts.apply Table.folding n

theorem pairwise_folding : Table.folding.Pairwise Precedes :=
  List.isChain_iff_pairwise.mp (by decide +kernel)

/-- Whether a shift leaves alone what another one yields. -/
def sparesImages (s t : Shift) : Bool :=
  t.last < s.target || s.target + (s.last - s.first) < t.first
    || (CharSet.moves s).all fun m => !t.contains m.2

theorem contains_of_sparesImages (h : sparesImages s t = true) (hn : s.contains n = true) :
    t.contains (s.target + (n - s.first)) = false := by
  obtain ⟨hfirst, hlast, -⟩ := contains_span.mp hn
  simp only [sparesImages, Bool.or_eq_true, decide_eq_true_eq, List.all_eq_true,
    Bool.not_eq_true'] at h
  rcases h with (h | h) | h
  · refine Bool.eq_false_iff.mpr (mt contains_span.mp ?_)
    omega
  · refine Bool.eq_false_iff.mpr (mt contains_span.mp ?_)
    omega
  · exact h (n, s.target + (n - s.first)) ((mem_moves (by omega)).mpr ⟨hn, rfl⟩)

theorem sparesImages_folding :
    (Table.folding.all fun s => Table.folding.all (sparesImages s)) = true := by
  decide +kernel

/-- What a code point folds to does not fold further. -/
theorem fold_fold (n : Nat) : fold (fold n) = fold n := by
  rcases apply_cases Table.folding n with h | ⟨s, hs, hn, h⟩
  · have hsame : fold n = n := h
    rw [hsame, hsame]
  · have hspares : ∀ t ∈ Table.folding, t.contains (fold n) = false := fun t ht => by
      have hst := List.all_eq_true.mp (List.all_eq_true.mp sparesImages_folding s hs) t ht
      rw [fold, h]
      exact contains_of_sparesImages hst hn
    rcases apply_cases Table.folding (fold n) with h' | ⟨t, ht, hcontains, -⟩
    · exact h'
    · simp [hspares t ht] at hcontains

namespace CharSet

variable {a : CharSet}

/-- Whether a code point is one of a set. -/
def has (a : CharSet) (n : Nat) : Bool := a.ranges.any (·.contains n)

theorem meets_of_has {first last : Nat} (h : a.has n = true) (hfirst : first ≤ n)
    (hlast : n ≤ last) : a.meets first last = true := by
  obtain ⟨r, hr, hn⟩ := List.any_eq_true.mp h
  simp only [CodeRange.contains, Bool.and_eq_true, decide_eq_true_eq] at hn
  refine List.any_eq_true.mpr ⟨r, hr, ?_⟩
  simp only [Bool.and_eq_true, decide_eq_true_eq]
  omega

/-- The set of some code points has all of them. -/
theorem has_ofCodes {codes : List Nat} (h : n ∈ codes) : (ofCodes codes).has n = true := by
  refine any_ofSorted ?_
  rw [any_foldr_insertRange, Bool.or_eq_true]
  exact .inl (List.any_eq_true.mpr ⟨_, List.mem_map_of_mem h, by simp [CodeRange.contains]⟩)

/-- A code point that folds to another one is found near a set with either of them. -/
theorem mem_foldingsNear (hne : fold n ≠ n) (h : a.has n = true ∨ a.has (fold n) = true) :
    (n, fold n) ∈ foldingsNear a := by
  obtain ⟨s, hs, hn, hfold⟩ := (apply_cases Table.folding n).resolve_left hne
  obtain ⟨hfirst, hlast, -⟩ := contains_span.mp hn
  have himage : fold n = s.target + (n - s.first) := hfold
  refine List.mem_flatMap.mpr ⟨s, List.mem_filter.mpr ⟨hs, ?_⟩, ?_⟩
  · rw [Bool.or_eq_true]
    exact h.imp (fun h => meets_of_has h hfirst hlast)
      (fun h => meets_of_has h (by omega) (by omega))
  · exact (mem_moves (by omega)).mpr ⟨hn, himage⟩

/-- **Without regard to case a set has what folds to the same as one of its members.** -/
theorem contains_caseless_of_fold {c d : Char} (h : a.contains c = true)
    (hfold : fold c.toNat = fold d.toNat) : (caseless a).contains d = true := by
  by_cases heq : d = c
  · exact heq ▸ contains_caseless h
  rw [← Char.toNat_inj] at heq
  unfold caseless
  extract_lets folded targets sources
  have htarget : targets.has (fold d.toNat) = true := by
    have hmem : ∃ n, (n, fold d.toNat) ∈ folded := by
      by_cases hself : fold c.toNat = c.toNat
      · -- the member is what the other one folds to
        refine ⟨d.toNat, List.mem_filter.mpr ⟨mem_foldingsNear (by omega) (.inr ?_), ?_⟩⟩
        · rwa [← hfold, hself]
        · rw [Bool.or_eq_true]
          refine .inr ?_
          rwa [← hfold, hself]
      · refine ⟨c.toNat, hfold ▸ List.mem_filter.mpr ⟨mem_foldingsNear hself (.inl h), ?_⟩⟩
        rw [Bool.or_eq_true]
        exact .inl h
    obtain ⟨n, hn⟩ := hmem
    exact has_ofCodes (List.mem_map_of_mem hn)
  refine contains_union_right ?_ a
  by_cases hself : fold d.toNat = d.toNat
  · rw [hself] at htarget
    exact contains_union_left htarget _
  · refine contains_union_right ?_ targets
    have hmem : (d.toNat, fold d.toNat) ∈ sources :=
      List.mem_filter.mpr ⟨mem_foldingsNear hself (.inr htarget), htarget⟩
    exact has_ofCodes (List.mem_map_of_mem hmem)

end CharSet

/-! ### Lowercase -/

/-- The capitals that do not fold to what their lowercase forms fold to. -/
def unfolded : List Span :=
  [⟨0x130, 0x130, 1⟩, ⟨0xA7CE, 0xA7CE, 1⟩, ⟨0xA7D2, 0xA7D4, 2⟩, ⟨0x16EA0, 0x16EB8, 1⟩]

/-- Whether a character folds to what its lowercase form folds to. -/
def foldsLowercase (c : Char) : Bool := !Spans.contains unfolded c.toNat

/-- Whether what a shift moves folds to what its images fold to, or is one of the capitals that do
not. -/
def keepsFold (s : Shift) : Bool :=
  Table.folding.contains s
    || (CharSet.moves s).all fun m => Spans.contains unfolded m.1 || fold m.1 == fold m.2

theorem keepsFold_lowercase : Table.lowercase.all keepsFold = true := by
  decide +kernel

/-- A code point folds to what its lowercase form folds to. -/
theorem fold_lowercase (h : Spans.contains unfolded n = false) :
    fold (Shifts.apply Table.lowercase n) = fold n := by
  rcases apply_cases Table.lowercase n with heq | ⟨s, hs, hn, heq⟩
  · rw [heq]
  · have hkeeps := List.all_eq_true.mp keepsFold_lowercase s hs
    rw [keepsFold, Bool.or_eq_true] at hkeeps
    obtain ⟨hfirst, hlast, -⟩ := contains_span.mp hn
    rw [heq]
    rcases hkeeps with hfolding | hmoves
    · have hfold := apply_of_contains pairwise_folding (List.contains_iff_mem.mp hfolding) hn
      have himage : fold n = s.target + (n - s.first) := hfold
      rw [← himage, fold_fold]
    · have hmove := List.all_eq_true.mp hmoves (n, s.target + (n - s.first))
        ((mem_moves (by omega)).mpr ⟨hn, rfl⟩)
      rw [h, Bool.false_or, beq_iff_eq] at hmove
      exact hmove.symm

/-- Whether the images of a shift are characters. -/
def yieldsChars (s : Shift) : Bool :=
  s.target + (s.last - s.first) < 0xD800
    || (0xDFFF < s.target && s.target + (s.last - s.first) < 0x110000)

theorem yieldsChars_lowercase : Table.lowercase.all yieldsChars = true := by
  decide +kernel

/-- The lowercase form of a character is a character. -/
theorem toNat_charOf_lowercase (c : Char) :
    (charOf (Shifts.apply Table.lowercase c.toNat)).toNat
      = Shifts.apply Table.lowercase c.toNat := by
  rcases apply_cases Table.lowercase c.toNat with heq | ⟨s, hs, hn, heq⟩
  · rw [heq, charOf_toNat]
  · have hyields := List.all_eq_true.mp yieldsChars_lowercase s hs
    obtain ⟨hfirst, hlast, -⟩ := contains_span.mp hn
    simp only [yieldsChars, Bool.or_eq_true, Bool.and_eq_true, decide_eq_true_eq] at hyields
    have hvalid : (Shifts.apply Table.lowercase c.toNat).isValidChar := by
      rw [heq, Nat.isValidChar]
      omega
    rw [charOf, Char.ofNat, dif_pos hvalid]
    rfl

/-- The dotted `İ` alone has a lowercase form of two characters. -/
theorem lowercase_of_ne {c : Char} (h : c ≠ 'İ') :
    lowercase c = [charOf (Shifts.apply Table.lowercase c.toNat)] := if_neg h

/-- **Characters of the same lowercase form fold to the same.** -/
theorem fold_eq_of_lowercase {c d : Char} (hc : foldsLowercase c = true)
    (hd : foldsLowercase d = true) (h : lowercase c = lowercase d) :
    fold c.toNat = fold d.toNat := by
  have hdotted : ∀ c, foldsLowercase c = true → c ≠ 'İ' := by
    rintro c hc rfl
    exact absurd hc (by decide)
  rw [lowercase_of_ne (hdotted c hc), lowercase_of_ne (hdotted d hd), List.cons.injEq] at h
  have hcode := congrArg Char.toNat h.1
  rw [toNat_charOf_lowercase, toNat_charOf_lowercase] at hcode
  rw [foldsLowercase, Bool.not_eq_true'] at hc hd
  rw [← fold_lowercase hc, ← fold_lowercase hd, hcode]

end PathRouting.Regex
