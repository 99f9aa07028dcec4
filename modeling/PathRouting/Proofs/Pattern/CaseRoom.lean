import Mathlib.Algebra.Order.BigOperators.Group.List
import PathRouting.Proofs.Pattern.Splits
import PathRouting.Proofs.Regex.SetRoom

/-!
# The room for a mixed segment with and without regard to case

A mixed segment that fits where case is disregarded fits where case makes a difference too.  What it
takes at most there, read in either direction, is no more than what it takes at least here, read
backward: a character by itself takes less than a set with it, and the dot takes less when it is read
forward.

## Main definitions

* `Part.slack` — a number of bytes that a part takes less.

## Main results

* `least_mixedExpr`, `most_mixedExpr` — the bounds for a mixed segment by those for its parts.
* `most_forward_part`, `most_backward_part` — the two bounds for a part compared.
* `fits_caseSensitive` — a mixed segment that fits without regard to case fits with regard to it.
* `fits_chars_star`, `not_fits_chars` — how much literal text there is room for.
-/

namespace PathRouting

open Regex Text

variable {parts : List Part} {ignoreCase : Bool}

/-! ### Bounds add up -/

theorem adds_least (d : Direction) : Expr.Adds fun e => (e.growth d).least where
  literal s t := by
    show 32 * byteLength (s ++ t) + 0 = 32 * byteLength s + 0 + (32 * byteLength t + 0)
    rw [byteLength_append]
    omega
  seq a b := by
    cases d with
    | forward => rfl
    | backward => exact Nat.add_comm _ _

theorem adds_most (d : Direction) : Expr.Adds fun e => (e.growth d).most where
  literal s t := by
    show 32 * byteLength (s ++ t) + 0 = 32 * byteLength s + 0 + (32 * byteLength t + 0)
    rw [byteLength_append]
    omega
  seq a b := by
    cases d with
    | forward => rfl
    | backward => exact Nat.add_comm _ _

/-- The expression for a part is no row. -/
theorem parts_expr (part : Part) (groups : Nat) :
    (part.expr ignoreCase groups).parts = [part.expr ignoreCase groups] := by
  cases part with
  | char c =>
    rw [Part.expr, Flags.charExpr]
    split
    · rfl
    · rw [Expr.ofSet]
      split <;> rfl
  | _ => rfl

theorem parts_exprsOf (groups : Nat) : ∀ e ∈ exprsOf ignoreCase groups parts, e.parts = [e] := by
  induction parts generalizing groups with
  | nil => simp [exprsOf]
  | cons part parts ih => exact List.forall_mem_cons.mpr ⟨parts_expr part groups, ih _⟩

/-- What a mixed segment is a row of. -/
def rowOf (ignoreCase : Bool) (parts : List Part) : List Expr :=
  .look .textStart :: exprsOf ignoreCase 0 parts ++ [.look .textEnd]

theorem parts_rowOf (ignoreCase : Bool) (parts : List Part) :
    ∀ e ∈ rowOf ignoreCase parts, e.parts = [e] := by
  rw [rowOf, List.cons_append]
  refine List.forall_mem_cons.mpr ⟨rfl, List.forall_mem_append.mpr ⟨parts_exprsOf 0, ?_⟩⟩
  exact List.forall_mem_singleton.mpr rfl

/-- A measure of a mixed segment is that of its two ends and of its parts. -/
theorem measure_mixedExpr {measure : Expr → Nat} (h : Expr.Adds measure) (ignoreCase : Bool)
    (parts : List Part) :
    measure (mixedExpr ignoreCase parts) = measure (.look .textStart)
      + ((exprsOf ignoreCase 0 parts).map measure).sum + measure (.look .textEnd) := by
  have hsum := h.sequence (by simp [rowOf]) (parts_rowOf ignoreCase parts)
  rw [mixedExpr]
  refine hsum.trans ?_
  simp [rowOf, Nat.add_assoc]

/-! ### Ends -/

theorem mergeLiterals_concat_look (l : Look) (es : List Expr) :
    Expr.mergeLiterals (es ++ [.look l]) = Expr.mergeLiterals es ++ [.look l] := by
  induction es with
  | nil => rfl
  | cons e es ih =>
    cases e with
    | literal s =>
      rw [List.cons_append, Expr.mergeLiterals, ih, Expr.mergeLiterals]
      rcases Expr.mergeLiterals es with _ | ⟨e, more⟩
      · rfl
      · cases e <;> rfl
    | _ => exact congrArg (_ :: ·) ih

theorem endsAnchored_row (es : List Expr) :
    (Expr.row (es ++ [.look .textEnd])).endsAnchored = true := by
  induction es with
  | nil => rfl
  | cons e es ih =>
    have hrow : Expr.row (e :: es ++ [.look .textEnd])
        = .seq e (Expr.row (es ++ [.look .textEnd])) := by cases es <;> rfl
    rw [hrow, Expr.endsAnchored, ih, Bool.true_or]

/-- A mixed segment is a row of its start and what is after it. -/
theorem mixedExpr_eq_row (ignoreCase : Bool) (parts : List Part) : mixedExpr ignoreCase parts
    = .row (.look .textStart ::
        Expr.mergeLiterals (exprsOf ignoreCase 0 parts ++ [.look .textEnd])) :=
  Expr.sequence_eq_row (parts_rowOf ignoreCase parts)

/-- A mixed segment is matched between the two ends. -/
theorem isAnchored_mixedExpr (d : Direction) : (mixedExpr ignoreCase parts).isAnchored d = true := by
  rw [mixedExpr_eq_row, mergeLiterals_concat_look]
  cases d with
  | forward =>
    rcases Expr.mergeLiterals (exprsOf ignoreCase 0 parts) with _ | ⟨e, es⟩ <;> rfl
  | backward => exact endsAnchored_row (_ :: _)

/-- The automaton for a mixed segment starts at the start of what it reads. -/
theorem automaton_mixedExpr (d : Direction) : (mixedExpr ignoreCase parts).automaton d
    = .both (.of 1 0) (.both (d.group ((mixedExpr ignoreCase parts).growth d)) (.of 1 0)) := by
  show Growth.both (if _ then _ else _) _ = _
  rw [if_pos (isAnchored_mixedExpr d)]

/-! ### The whole segment -/

/-- What a mixed segment takes at least, read backward. -/
theorem least_mixedExpr : ((mixedExpr ignoreCase parts).automaton .backward).least
    = 128 + ((exprsOf ignoreCase 0 parts).map fun e => (e.growth .backward).least).sum := by
  have hmeasure := measure_mixedExpr (adds_least .backward) ignoreCase parts
  have hends (l : Look) : ((Expr.look l).growth .backward).least = 32 := rfl
  rw [hends, hends] at hmeasure
  rw [automaton_mixedExpr]
  show 32 + (((mixedExpr ignoreCase parts).growth .backward).least + 32) = _
  omega

/-- What a mixed segment takes at most.  Read forward, it is a group. -/
theorem most_mixedExpr (d : Direction) : ((mixedExpr ignoreCase parts).automaton d).most
    ≤ (match d with | .forward => 192 | .backward => 128)
      + ((exprsOf ignoreCase 0 parts).map fun e => (e.growth d).most).sum := by
  have hmeasure := measure_mixedExpr (adds_most d) ignoreCase parts
  have hends (l : Look) : ((Expr.look l).growth d).most = 32 := rfl
  rw [hends, hends] at hmeasure
  rw [automaton_mixedExpr]
  cases d with
  | forward =>
    show 32 + ((32 + (((mixedExpr ignoreCase parts).growth .forward).most + 32)) + 32) ≤ 192 + _
    omega
  | backward =>
    show 32 + (((mixedExpr ignoreCase parts).growth .backward).most + 32) ≤ 128 + _
    omega

/-! ### Parts -/

/-- Whether a character is a set of several where case is disregarded. -/
def isCased (c : Char) : Bool := (baseFlags true).charExpr c != .literal [c]

/-- A number of bytes that a part takes less where case makes a difference. -/
def Part.slack : Part → Nat
  | char c => if isCased c then 40 else 0
  | _ => 44

/-- A cased character is a set with it. -/
theorem charExpr_of_isCased {c : Char} (h : isCased c = true) :
    (baseFlags true).charExpr c = .set (variants true c) :=
  (ofSet_cases (contains_variants_self true c)).resolve_left fun ⟨hliteral, _⟩ =>
    bne_iff_ne.mp h hliteral

theorem charExpr_of_not_isCased {c : Char} (h : isCased c = false) :
    (baseFlags true).charExpr c = .literal [c] := by
  simpa [isCased] using h

/-- **A part takes less, read forward, where case makes a difference.** -/
theorem most_forward_part (part : Part) (groups : Nat) :
    ((part.expr false groups).growth .forward).most + part.slack
      ≤ ((part.expr true groups).growth .backward).least := by
  have hopen : (CharSet.growth .forward .any).most + 44 ≤ (CharSet.growth .backward .any).least ∧
      (anyText.growth .forward).most + 108 ≤ (anyText.growth .backward).least := by decide +kernel
  cases part with
  | char c =>
    show ((Expr.literal [c]).growth .forward).most + (if isCased c then 40 else 0)
      ≤ (((baseFlags true).charExpr c).growth .backward).least
    cases hcased : isCased c with
    | true =>
      rw [charExpr_of_isCased hcased]
      exact CharSet.le_least (contains_variants_self true c)
    | false =>
      rw [charExpr_of_not_isCased hcased]
      exact Nat.le_refl _
  | question => exact hopen.1
  | star => exact Nat.le_trans (Nat.add_le_add_left (by decide) _) hopen.2
  | capture name =>
    -- a group takes two states more, but only when it is read forward
    show 32 + ((anyText.growth .forward).most + 32) + 44 ≤ (anyText.growth .backward).least
    omega

theorem most_backward_part (part : Part) (groups : Nat) :
    ((part.expr false groups).growth .backward).most
      ≤ ((part.expr true groups).growth .backward).least := by
  have hopen : (CharSet.growth .backward .any).most ≤ (CharSet.growth .backward .any).least ∧
      (anyText.growth .backward).most ≤ (anyText.growth .backward).least := by decide +kernel
  cases part with
  | char c =>
    show ((Expr.literal [c]).growth .backward).most
      ≤ (((baseFlags true).charExpr c).growth .backward).least
    cases hcased : isCased c with
    | true =>
      rw [charExpr_of_isCased hcased]
      exact Nat.le_trans (Nat.le_add_right _ 40)
        (CharSet.le_least (contains_variants_self true c))
    | false =>
      rw [charExpr_of_not_isCased hcased]
      exact Nat.le_refl _
  | question => exact hopen.1
  | star => exact hopen.2
  | capture name => exact hopen.2

/-! ### Comparison -/

theorem sum_most_forward (parts : List Part) (groups : Nat) :
    ((exprsOf false groups parts).map fun e => (e.growth .forward).most).sum
        + (parts.map Part.slack).sum
      ≤ ((exprsOf true groups parts).map fun e => (e.growth .backward).least).sum := by
  induction parts generalizing groups with
  | nil => exact Nat.le_refl _
  | cons part parts ih =>
    have hpart := most_forward_part part groups
    have hparts := ih (groups + part.names.length)
    simp only [exprsOf, List.map_cons, List.sum_cons]
    omega

theorem sum_most_backward (parts : List Part) (groups : Nat) :
    ((exprsOf false groups parts).map fun e => (e.growth .backward).most).sum
      ≤ ((exprsOf true groups parts).map fun e => (e.growth .backward).least).sum := by
  induction parts generalizing groups with
  | nil => exact Nat.le_refl _
  | cons part parts ih =>
    have hpart := most_backward_part part groups
    have hparts := ih (groups + part.names.length)
    simp only [exprsOf, List.map_cons, List.sum_cons]
    omega

/-- Without cased characters the expressions are the same. -/
theorem exprsOf_eq (h : ∀ c, .char c ∈ parts → isCased c = false) (groups : Nat) :
    exprsOf true groups parts = exprsOf false groups parts := by
  induction parts generalizing groups with
  | nil => rfl
  | cons part parts ih =>
    have hpart : part.expr true groups = part.expr false groups := by
      cases part with
      | char c => exact charExpr_of_not_isCased (h c List.mem_cons_self)
      | _ => rfl
    rw [exprsOf, exprsOf, hpart, ih fun c hc => h c (List.mem_cons_of_mem _ hc)]

/-- **A mixed segment that fits without regard to case fits with regard to it.** -/
theorem fits_caseSensitive (hopen : ∃ part ∈ parts, part.isOpen = true)
    (h : (mixedExpr true parts).fits = true) : (mixedExpr false parts).fits = true := by
  by_cases hcased : ∃ c, .char c ∈ parts ∧ isCased c = true
  · obtain ⟨c, hc, hcased⟩ := hcased
    obtain ⟨part, hpart, hopen⟩ := hopen
    -- the cased character and the open part make up for the group around the whole
    have hslack : 84 ≤ (parts.map Part.slack).sum := by
      have hsub : [Part.char c, part].Subperm parts := by
        refine List.subperm_of_subset ?_ ?_
        · refine List.nodup_cons.mpr ⟨?_, List.nodup_singleton part⟩
          rw [List.mem_singleton]
          rintro rfl
          simp [Part.isOpen] at hopen
        · simp [hc, hpart]
      have hchar : (Part.char c).slack = 40 := if_pos hcased
      have hother : part.slack = 44 := by
        cases part <;> first | rfl | simp [Part.isOpen] at hopen
      obtain ⟨two, hperm, hsublist⟩ := hsub
      have hsum : (two.map Part.slack).sum ≤ (parts.map Part.slack).sum :=
        (hsublist.map _).sum_le_sum (by simp)
      rw [(hperm.map _).sum_eq] at hsum
      simpa [hchar, hother] using hsum
    have hleast := Expr.least_of_fits h
    rw [least_mixedExpr] at hleast
    refine Expr.fits_of_most fun d => Nat.le_trans (most_mixedExpr d) ?_
    cases d with
    | forward =>
      have hsum := sum_most_forward parts 0
      dsimp only
      omega
    | backward =>
      have hsum := sum_most_backward parts 0
      dsimp only
      omega
  · have hnone : ∀ c, .char c ∈ parts → isCased c = false := fun c hc => by
      by_contra htrue
      exact hcased ⟨c, hc, by simpa using htrue⟩
    have heq : mixedExpr true parts = mixedExpr false parts := by
      rw [mixedExpr, mixedExpr, exprsOf_eq hnone]
    rwa [← heq]

/-! ### Literal text -/

/-- The expressions for literal text are those for its characters. -/
theorem exprsOf_chars (text : List Char) (groups : Nat) :
    exprsOf ignoreCase groups (text.map .char ++ parts)
      = text.map (baseFlags ignoreCase).charExpr ++ exprsOf ignoreCase groups parts := by
  induction text with
  | nil => rfl
  | cons c text ih => exact congrArg (_ :: ·) ih

/-- Where case makes a difference there is room for a lot of literal text before a `*`. -/
theorem fits_chars_star {text : List Char}
    (h : 32 * byteLength text + 1196 ≤ Footprint.limit) :
    (mixedExpr false (text.map .char ++ [.star])).fits = true := by
  have hstar (d : Direction) : (anyText.growth d).most ≤ 1004 := by
    cases d <;> decide +kernel
  have htext (d : Direction) : ((text.map (baseFlags false).charExpr).map
      fun e => (e.growth d).most).sum = 32 * byteLength text := by
    clear h
    induction text with
    | nil => rfl
    | cons c text ih =>
      rw [List.map_cons, List.map_cons, List.sum_cons, ih]
      show 32 * byteLength [c] + 0 + _ = 32 * byteLength ([c] ++ text)
      rw [byteLength_append]
      omega
  refine Expr.fits_of_most fun d => Nat.le_trans (most_mixedExpr d) ?_
  have hd := hstar d
  rw [exprsOf_chars, List.map_append, List.sum_append, htext]
  show _ + (_ + ((anyText.growth d).most + 0)) ≤ _
  cases d <;> dsimp only <;> omega

/-- Where case is disregarded there is less, the more the sets for its characters take. -/
theorem not_fits_chars {text : List Char} (size : Nat)
    (hsize : ∀ c ∈ text, size ≤ (((baseFlags true).charExpr c).growth .backward).least)
    (h : Footprint.limit < text.length * size) :
    (mixedExpr true (text.map .char ++ parts)).fits = false := by
  refine Bool.eq_false_iff.mpr fun hfits => Nat.not_lt_of_le (Expr.least_of_fits hfits) ?_
  have htext : text.length * size ≤ ((text.map (baseFlags true).charExpr).map
      fun e => (e.growth .backward).least).sum := by
    have hsum := List.card_nsmul_le_sum ((text.map (baseFlags true).charExpr).map
      fun e => (e.growth .backward).least) size (by simpa using hsize)
    simpa using hsum
  rw [least_mixedExpr, exprsOf_chars, List.map_append, List.sum_append]
  omega

end PathRouting
