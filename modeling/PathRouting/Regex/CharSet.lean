import PathRouting.Text.Case

/-!
# Sets of characters

A set of characters is kept as its ranges, in increasing order and with a gap after each, so that
a set has one form however it was put together.

## Main definitions

* `CodeRange`, `CharSet` — a range of code points, and a set.
* `CharSet.contains` — membership.
* `CharSet.union`, `CharSet.compl`, `CharSet.inter`, … — the algebra of sets.
* `CharSet.caseless` — closure under change of case.
* `CharSet.single?` — the only member of a set, if it has just one.
-/

namespace PathRouting.Regex

open Text

/-- The code points from `first` to `last`. -/
structure CodeRange where
  /-- The least one. -/
  first : Nat
  /-- The greatest one. -/
  last : Nat
  deriving DecidableEq, Repr

/-- Whether a code point lies in the range. -/
def CodeRange.contains (r : CodeRange) (n : Nat) : Bool := r.first ≤ n && n ≤ r.last

/-- The ranges that a span consists of. -/
def CodeRange.ofSpan (s : Span) : List CodeRange :=
  if s.step ≤ 1 then [⟨s.first, s.last⟩]
  else (List.range ((s.last - s.first) / s.step + 1)).map fun i =>
    ⟨s.first + i * s.step, s.first + i * s.step⟩

/-- A set of characters. -/
structure CharSet where
  /-- The ranges of its members. -/
  ranges : List CodeRange
  deriving Repr

namespace CharSet

/-- Sets that are the same object need not be compared range by range. -/
instance : DecidableEq CharSet := fun a b =>
  withPtrEqDecEq a b fun _ =>
    decidable_of_iff (a.ranges = b.ranges) ⟨fun h => congrArg mk h, fun h => h ▸ rfl⟩

/-- Whether a character belongs to a set. -/
def contains (s : CharSet) (c : Char) : Bool := s.ranges.any (·.contains c.toNat)

/-- No character. -/
def none : CharSet := ⟨[]⟩

/-- The greatest code point. -/
def maxCode : Nat := 0x10FFFF

/-- All characters. -/
def any : CharSet := ⟨[⟨0, maxCode⟩]⟩

/-- The characters from `first` to `last`. -/
def range (first last : Char) : CharSet := ⟨[⟨first.toNat, last.toNat⟩]⟩

/-- One character. -/
def exactly (c : Char) : CharSet := range c c

/-- The only member of a set, if it has just one. -/
def single? (s : CharSet) : Option Char :=
  match s.ranges with
  | [r] => if r.first = r.last then some (charOf r.first) else Option.none
  | _ => Option.none

/-! ### Algebra -/

/-- Ranges in increasing order, where those that overlap or touch become one; `r` is the range
in front of them. -/
def coalesceFrom (r : CodeRange) : List CodeRange → List CodeRange
  | [] => [r]
  | s :: rest =>
    if s.first ≤ r.last + 1 then
      coalesceFrom ⟨Nat.min r.first s.first, Nat.max r.last s.last⟩ rest
    else r :: coalesceFrom s rest

/-- The set of some ranges in the order of their least members. -/
def ofSorted : List CodeRange → CharSet
  | [] => none
  | r :: rest => ⟨coalesceFrom r rest⟩

/-- The set of some spans in increasing order. -/
def ofSpans (spans : List Span) : CharSet := ofSorted (spans.flatMap CodeRange.ofSpan)

/-- A range put where it belongs among ranges in the order of their least members. -/
def insertRange (r : CodeRange) : List CodeRange → List CodeRange
  | [] => [r]
  | s :: rest => if r.first ≤ s.first then r :: s :: rest else s :: insertRange r rest

/-- The set of some ranges. -/
def ofRanges (ranges : List CodeRange) : CharSet := ofSorted (ranges.foldr insertRange [])

/-- The members of either set. -/
def union (a b : CharSet) : CharSet := ofSorted (a.ranges.foldr insertRange b.ranges)

/-- The code point of the next character; surrogates are none. -/
def succCode (n : Nat) : Nat := if n = 0xD7FF then 0xE000 else n + 1

/-- The code point of the character before. -/
def predCode (n : Nat) : Nat := if n = 0xE000 then 0xD7FF else n - 1

/-- The ranges between ranges, from `next` on. -/
def gapsFrom (next : Nat) : List CodeRange → List CodeRange
  | [] => if next ≤ maxCode then [⟨next, maxCode⟩] else []
  | r :: rest =>
    if next < r.first then ⟨next, predCode r.first⟩ :: gapsFrom (succCode r.last) rest
    else gapsFrom (succCode r.last) rest

/-- All other characters. -/
def compl (a : CharSet) : CharSet := ⟨gapsFrom 0 a.ranges⟩

/-- The members of both sets. -/
def inter (a b : CharSet) : CharSet := compl (union (compl a) (compl b))

/-- The members of the first set that the second one does not have. -/
def diff (a b : CharSet) : CharSet := inter a (compl b)

/-- The members of exactly one of two sets. -/
def symmDiff (a b : CharSet) : CharSet := union (diff a b) (diff b a)

/-- The members of any set of a list. -/
def unions (sets : List CharSet) : CharSet := sets.foldr union none

/-- The set, or its complement. -/
def complIf (negated : Bool) (a : CharSet) : CharSet := if negated then compl a else a

/-! ### Case -/

/-- Whether a set has a code point from `first` to `last`. -/
def meets (a : CharSet) (first last : Nat) : Bool :=
  a.ranges.any fun r => r.first ≤ last && first ≤ r.last

/-- The code points that a shift moves, each with its image. -/
def moves (s : Shift) : List (Nat × Nat) :=
  (List.range ((s.last - s.first) / s.step + 1)).map fun i =>
    (s.first + i * s.step, s.target + i * s.step)

/-- The foldings of characters that lie near the members of a set, or that fold to such. -/
def foldingsNear (a : CharSet) : List (Nat × Nat) :=
  (Table.folding.filter fun s =>
    a.meets s.first s.last || a.meets s.target (s.target + (s.last - s.first))).flatMap moves

/-- The set of some code points. -/
def ofCodes (codes : List Nat) : CharSet := ofRanges (codes.map fun n => ⟨n, n⟩)

/-- The characters that differ from a member in case at most: what members fold to, and all that
folds to the same. -/
def caseless (a : CharSet) : CharSet :=
  let folded := (foldingsNear a).filter fun p => a.meets p.1 p.1 || a.meets p.2 p.2
  let targets := ofCodes (folded.map (·.2))
  let sources := (foldingsNear targets).filter fun p => targets.meets p.2 p.2
  union a (union targets (ofCodes (sources.map (·.1))))

/-! ### Membership -/

@[simp] theorem contains_none (c : Char) : none.contains c = false := rfl

@[simp] theorem contains_any (c : Char) : any.contains c = true := by
  have h := c.valid
  simp only [UInt32.isValidChar, Nat.isValidChar] at h
  have hle : c.toNat ≤ maxCode := by
    show c.val.toNat ≤ 0x10FFFF
    omega
  simp [any, contains, CodeRange.contains, hle]

theorem contains_range {a b c : Char} : (range a b).contains c = true ↔ a ≤ c ∧ c ≤ b := by
  simp only [range, contains, CodeRange.contains, List.any_cons, List.any_nil, Bool.or_false,
    Bool.and_eq_true, decide_eq_true_eq, Char.le_def, UInt32.le_iff_toNat_le]
  rfl

theorem contains_exactly {c d : Char} : (exactly c).contains d = true ↔ d = c := by
  rw [exactly, contains_range]
  exact ⟨fun ⟨h₁, h₂⟩ => Char.le_antisymm h₂ h₁, fun h => h ▸ ⟨Char.le_refl _, Char.le_refl _⟩⟩

/-- Joining ranges that touch loses no code point. -/
theorem any_coalesceFrom {n : Nat} {r : CodeRange} {rest : List CodeRange}
    (h : (r :: rest).any (·.contains n) = true) :
    (coalesceFrom r rest).any (·.contains n) = true := by
  induction rest generalizing r with
  | nil => exact h
  | cons s rest ih =>
    rw [coalesceFrom]
    split
    · refine ih ?_
      simp only [List.any_cons, CodeRange.contains, Bool.or_eq_true, Bool.and_eq_true,
        decide_eq_true_eq] at h ⊢
      rcases h with h | h | h
      · exact Or.inl ⟨Nat.le_trans (Nat.min_le_left ..) h.1, Nat.le_trans h.2 (Nat.le_max_left ..)⟩
      · exact Or.inl ⟨Nat.le_trans (Nat.min_le_right ..) h.1,
          Nat.le_trans h.2 (Nat.le_max_right ..)⟩
      · exact Or.inr h
    · rw [List.any_cons, Bool.or_eq_true] at h ⊢
      exact h.imp id fun h => ih h

theorem any_ofSorted {n : Nat} {ranges : List CodeRange} (h : ranges.any (·.contains n) = true) :
    (ofSorted ranges).ranges.any (·.contains n) = true :=
  match ranges, h with
  | _ :: _, h => any_coalesceFrom h

theorem any_insertRange (p : CodeRange → Bool) (r : CodeRange) (ranges : List CodeRange) :
    (insertRange r ranges).any p = (p r || ranges.any p) := by
  induction ranges with
  | nil => rfl
  | cons s rest ih =>
    rw [insertRange]
    split
    · rfl
    · rw [List.any_cons, ih, List.any_cons, Bool.or_left_comm]

theorem any_foldr_insertRange (p : CodeRange → Bool) (as bs : List CodeRange) :
    (as.foldr insertRange bs).any p = (as.any p || bs.any p) := by
  induction as with
  | nil => rfl
  | cons a as ih => rw [List.foldr_cons, any_insertRange, ih, List.any_cons, Bool.or_assoc]

/-- A union has the members of its first set. -/
theorem contains_union_left {a : CharSet} {c : Char} (h : a.contains c = true) (b : CharSet) :
    (union a b).contains c = true := by
  refine any_ofSorted ?_
  rw [any_foldr_insertRange, Bool.or_eq_true]
  exact Or.inl h

/-- A union has the members of its second set. -/
theorem contains_union_right {b : CharSet} {c : Char} (h : b.contains c = true) (a : CharSet) :
    (union a b).contains c = true := by
  refine any_ofSorted ?_
  rw [any_foldr_insertRange, Bool.or_eq_true]
  exact Or.inr h

/-- Disregarding case only adds members. -/
theorem contains_caseless {a : CharSet} {c : Char} (h : a.contains c = true) :
    (caseless a).contains c = true :=
  contains_union_left h _

end CharSet

end PathRouting.Regex
