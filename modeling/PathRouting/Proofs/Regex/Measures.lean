import Mathlib.Algebra.GroupWithZero.Nat
import PathRouting.Regex.Basic

/-!
# Measures of expressions

Putting expressions in a row flattens it and merges literals.  A measure that literals do not count
for and that two expressions in a row combine is not changed by that.  The number of groups is such
a measure, and so is the number of places for any one character.  A measure that counts literals too
adds up in a row when it adds up in them.

## Main definitions

* `Expr.Combines` — a measure that a row combines.
* `Expr.Adds` — a measure that adds up in a row, and in literals.
* `Expr.dots` — the number of places for any one character.

## Main results

* `Expr.Combines.sequence`, `Expr.Adds.sequence` — the measure of a row.
-/

namespace PathRouting.Regex

namespace Expr

variable {α : Type} {op : α → α → α} {unit : α} {measure : Expr → α}

/-- A measure that literals do not count for and that two expressions in a row combine. -/
structure Combines (op : α → α → α) (unit : α) (measure : Expr → α) : Prop where
  /-- The empty text does not count. -/
  empty : measure empty = unit
  /-- Literals do not count. -/
  literal : ∀ t, measure (literal t) = unit
  /-- Two expressions in a row are combined. -/
  seq : ∀ a b, measure (seq a b) = op (measure a) (measure b)

namespace Combines

section Rows

variable [Std.LawfulIdentity op unit]

theorem row (h : Combines op unit measure) (es : List Expr) :
    measure (Expr.row es) = (es.map measure).foldr op unit := by
  have hright : ∀ a, op a unit = a := Std.LawfulRightIdentity.right_id
  induction es with
  | nil => exact h.empty
  | cons e es ih =>
    cases es with
    | nil => exact (hright (measure e)).symm
    | cons e' es =>
      rw [List.map_cons, List.foldr_cons, ← ih]
      exact h.seq e _

theorem mergeLiterals (h : Combines op unit measure) (es : List Expr) :
    ((Expr.mergeLiterals es).map measure).foldr op unit = (es.map measure).foldr op unit := by
  have hleft : ∀ a, op unit a = a := Std.LawfulLeftIdentity.left_id
  induction es with
  | nil => rfl
  | cons e es ih =>
    rw [List.map_cons, List.foldr_cons, ← ih]
    cases e with
    | literal s =>
      rw [Expr.mergeLiterals]
      split
      · next t more hmerged => simp [hmerged, h.literal, hleft]
      · rfl
    | _ => rfl

variable [Std.Associative op]

theorem append (measure : Expr → α) (es es' : List Expr) :
    ((es ++ es').map measure).foldr op unit
      = op ((es.map measure).foldr op unit) ((es'.map measure).foldr op unit) := by
  have hleft : ∀ a, op unit a = a := Std.LawfulLeftIdentity.left_id
  calc ((es ++ es').map measure).foldr op unit
      = (es.map measure).foldr op ((es'.map measure).foldr op unit) := by
        rw [List.map_append, List.foldr_append]
    _ = (es.map measure).foldr op (op unit ((es'.map measure).foldr op unit)) := by rw [hleft]
    _ = op ((es.map measure).foldr op unit) ((es'.map measure).foldr op unit) := List.foldr_assoc

theorem parts (h : Combines op unit measure) (e : Expr) :
    (e.parts.map measure).foldr op unit = measure e := by
  have hright : ∀ a, op a unit = a := Std.LawfulRightIdentity.right_id
  induction e with
  | empty => exact h.empty.symm
  | seq a b iha ihb => rw [Expr.parts, append, iha, ihb, h.seq]
  | _ => exact hright _

/-- **The measure of a row** combines those of what is in it. -/
theorem sequence (h : Combines op unit measure) (es : List Expr) :
    measure (Expr.sequence es) = (es.map measure).foldr op unit := by
  rw [Expr.sequence, h.row, h.mergeLiterals]
  induction es with
  | nil => rfl
  | cons e es ih => rw [List.flatMap_cons, append, h.parts, ih, List.map_cons, List.foldr_cons]

end Rows

end Combines

/-! ### Measures that count literals -/

/-- A measure that adds up in a row, and in literals. -/
structure Adds (measure : Expr → Nat) : Prop where
  /-- Literals put together are added. -/
  literal : ∀ s t, measure (literal (s ++ t)) = measure (literal s) + measure (literal t)
  /-- Two expressions in a row are added. -/
  seq : ∀ a b, measure (seq a b) = measure a + measure b

/-- Expressions that are no rows themselves are put in a row as they are. -/
theorem sequence_eq_row {es : List Expr} (h : ∀ e ∈ es, e.parts = [e]) :
    Expr.sequence es = Expr.row (Expr.mergeLiterals es) := by
  have hflat : es.flatMap Expr.parts = es := by
    induction es with
    | nil => rfl
    | cons e es ih =>
      obtain ⟨he, hes⟩ := List.forall_mem_cons.mp h
      rw [List.flatMap_cons, he, ih hes]
      rfl
  rw [Expr.sequence, hflat]

namespace Adds

variable {measure : Expr → Nat} {es : List Expr}

theorem row (h : Adds measure) (hne : es ≠ []) : measure (Expr.row es) = (es.map measure).sum := by
  induction es with
  | nil => exact absurd rfl hne
  | cons e es ih =>
    cases es with
    | nil => simp
    | cons e' es =>
      rw [List.map_cons, List.sum_cons, ← ih (List.cons_ne_nil e' es)]
      exact h.seq e _

theorem mergeLiterals (h : Adds measure) (es : List Expr) :
    ((Expr.mergeLiterals es).map measure).sum = (es.map measure).sum := by
  induction es with
  | nil => rfl
  | cons e es ih =>
    rw [List.map_cons, List.sum_cons, ← ih]
    cases e with
    | literal s =>
      rw [Expr.mergeLiterals]
      split
      · next t more hmerged => simp [hmerged, h.literal, Nat.add_assoc]
      · rfl
    | _ => rfl

theorem mergeLiterals_ne_nil (hne : es ≠ []) : Expr.mergeLiterals es ≠ [] := by
  cases es with
  | nil => exact absurd rfl hne
  | cons e es =>
    cases e with
    | literal s =>
      rw [Expr.mergeLiterals]
      split <;> simp
    | _ => simp [Expr.mergeLiterals]

/-- **The measure of a row** of expressions that are no rows themselves. -/
theorem sequence (h : Adds measure) (hne : es ≠ []) (hparts : ∀ e ∈ es, e.parts = [e]) :
    measure (Expr.sequence es) = (es.map measure).sum := by
  rw [sequence_eq_row hparts, h.row (mergeLiterals_ne_nil hne), h.mergeLiterals]

end Adds

/-- Groups are numbered through a row. -/
theorem combines_groupCount : Combines max 0 groupCount :=
  ⟨rfl, fun _ => rfl, fun _ _ => rfl⟩

/-- The number of places for any one character in an expression without alternatives, apart from
those that are repeated a given number of times. -/
def dots : Expr → Nat
  | set s => if s = .any then 1 else 0
  | group _ e => e.dots
  | seq a b => a.dots + b.dots
  | iter e 0 none _ => e.dots
  | _ => 0

theorem combines_dots : Combines (· + ·) 0 dots := ⟨rfl, fun _ => rfl, fun _ _ => rfl⟩

end Expr

end PathRouting.Regex
