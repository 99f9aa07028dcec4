import PathRouting.Regex.Basic

/-!
# What regular expressions match

A regular expression matches stretches of a text, each between two places.  Which stretches those
are is said here by the form of the expression, without a search and without preferences among ways
to match.

## Main definitions

* `Times` — a relation so many times in a row.
* `Expr.Matches` — whether an expression matches the stretch between two places.
* `Expr.Spans` — whether an expression matches the whole of a text.

## Main results

* `matches_sequence` — expressions in a row match stretches in a row.
* `matches_anchored` — an expression between the two ends of a text matches all of it.
-/

namespace PathRouting.Regex

/-- A relation between places so many times in a row. -/
def Times (r : Place → Place → Prop) : Nat → Place → Place → Prop
  | 0, p, q => p = q
  | n + 1, p, q => ∃ m, r p m ∧ Times r n m q

/-- Whether a number of rounds is allowed: at least `min`, and, if there is a `max`, at most that
unless more have to be made. -/
def Allowed (min : Nat) (max : Option Nat) (n : Nat) : Prop :=
  min ≤ n ∧ ∀ m ∈ max, n ≤ m ∨ n = min

/-- Whether an expression matches the stretch between two places. -/
def Expr.Matches : Expr → Place → Place → Prop
  | empty, p, q => p = q
  | literal t, p, q => p.skip? t = some q
  | set s, p, q => p.step? s.contains = some q
  | look l, p, q => p = q ∧ l.holds p.before p.after = true
  | group _ e, p, q => e.Matches p q
  | seq a b, p, q => ∃ m, a.Matches p m ∧ b.Matches m q
  | alt a b, p, q => a.Matches p q ∨ b.Matches p q
  | iter e min max _, p, q => ∃ n, Allowed min max n ∧ Times e.Matches n p q

/-- Whether an expression matches the whole of a text. -/
def Expr.Spans (e : Expr) (input : List Char) : Prop :=
  ∃ q, e.Matches (.start input) q ∧ q.rest = []

/-! ### Rounds -/

section Allowed

variable {min n : Nat} {max : Option Nat}

/-- A round that has to be made leaves one less to make. -/
theorem allowed_succ : Allowed (min + 1) max (n + 1) ↔ Allowed min (max.map (· - 1)) n := by
  cases max with
  | none => simp [Allowed]
  | some m =>
    simp only [Allowed, Option.map_some, Option.mem_some_iff, forall_eq']
    omega

theorem not_allowed_zero : ¬Allowed (min + 1) max 0 := fun h => Nat.not_succ_le_zero _ h.1

theorem allowed_none : Allowed 0 none n := ⟨Nat.zero_le n, by simp⟩

theorem allowed_some_zero : Allowed 0 (some 0) n ↔ n = 0 := by
  simp [Allowed]

theorem allowed_zero : Allowed 0 max 0 := ⟨Nat.le_refl 0, fun _ _ => .inr rfl⟩

/-- A round that need not be made leaves one less that may be made. -/
theorem allowed_some_succ {m : Nat} : Allowed 0 (some (m + 1)) (n + 1) ↔ Allowed 0 (some m) n := by
  simp only [Allowed, Option.mem_some_iff, forall_eq']
  omega

end Allowed

/-! ### Expressions in a row -/

/-- Whether expressions in a row match the stretch between two places. -/
def RowMatches : List Expr → Place → Place → Prop
  | [], p, q => p = q
  | e :: es, p, q => ∃ m, e.Matches p m ∧ RowMatches es m q

theorem rowMatches_append {es es' : List Expr} {p q : Place} :
    RowMatches (es ++ es') p q ↔ ∃ m, RowMatches es p m ∧ RowMatches es' m q := by
  induction es generalizing p with
  | nil => simp [RowMatches]
  | cons e es ih =>
    simp only [List.cons_append, RowMatches, ih]
    constructor
    · rintro ⟨m, hm, n, hn, hq⟩
      exact ⟨n, ⟨m, hm, hn⟩, hq⟩
    · rintro ⟨n, ⟨m, hm, hn⟩, hq⟩
      exact ⟨m, hm, n, hn, hq⟩

/-- A text is skipped by skipping its parts. -/
theorem Place.skip?_append (s t : List Char) (p : Place) :
    p.skip? (s ++ t) = (p.skip? s).bind (Place.skip? t) := by
  induction s generalizing p with
  | nil => rfl
  | cons c s ih =>
    rw [List.cons_append, skip?, skip?, Option.bind_assoc]
    congr 1
    funext p'
    exact ih p'

/-- What an expression is a row of matches the same. -/
theorem rowMatches_parts (e : Expr) {p q : Place} : RowMatches e.parts p q ↔ e.Matches p q := by
  induction e generalizing p q with
  | empty => rfl
  | seq a b iha ihb => simp only [Expr.parts, rowMatches_append, iha, ihb, Expr.Matches]
  | _ => simp [Expr.parts, RowMatches]

theorem rowMatches_flatMap_parts (es : List Expr) {p q : Place} :
    RowMatches (es.flatMap Expr.parts) p q ↔ RowMatches es p q := by
  induction es generalizing p with
  | nil => rfl
  | cons e es ih =>
    rw [List.flatMap_cons, rowMatches_append]
    simp only [rowMatches_parts, ih, RowMatches]

/-- Literals put together match the same. -/
theorem rowMatches_mergeLiterals (es : List Expr) {p q : Place} :
    RowMatches (Expr.mergeLiterals es) p q ↔ RowMatches es p q := by
  induction es generalizing p with
  | nil => rfl
  | cons e es ih =>
    have hcons : RowMatches (e :: Expr.mergeLiterals es) p q ↔ RowMatches (e :: es) p q := by
      simp only [RowMatches, ih]
    cases e with
    | literal s =>
      rw [Expr.mergeLiterals]
      split
      · next t more hmerged =>
        rw [← hcons, hmerged]
        simp only [RowMatches, Expr.Matches, Place.skip?_append, Option.bind_eq_some_iff]
        constructor
        · rintro ⟨m, ⟨n, hn, hm⟩, hq⟩
          exact ⟨n, hn, m, hm, hq⟩
        · rintro ⟨n, hn, m, hm, hq⟩
          exact ⟨m, ⟨n, hn, hm⟩, hq⟩
      · exact hcons
    | _ => exact hcons

theorem matches_row (es : List Expr) {p q : Place} :
    (Expr.row es).Matches p q ↔ RowMatches es p q := by
  induction es generalizing p with
  | nil => rfl
  | cons e es ih =>
    cases es with
    | nil => simp [RowMatches]
    | cons e' es => simp only [Expr.row, Expr.Matches, ih, RowMatches]

/-- **Expressions put in a row match stretches in a row.** -/
theorem matches_sequence (es : List Expr) {p q : Place} :
    (Expr.sequence es).Matches p q ↔ RowMatches es p q := by
  rw [Expr.sequence, matches_row, rowMatches_mergeLiterals, rowMatches_flatMap_parts]

/-- An expression between the two ends of a text matches from the start to the end. -/
theorem matches_anchored (e : Expr) {p q : Place} :
    (Expr.sequence [.look .textStart, e, .look .textEnd]).Matches p q ↔
      p.before = none ∧ e.Matches p q ∧ q.rest = [] := by
  simp only [matches_sequence, RowMatches, Expr.Matches, Look.holds, Option.isNone_iff_eq_none,
    Place.after, List.head?_eq_none_iff]
  constructor
  · rintro ⟨m, ⟨rfl, hstart⟩, n, he, k, ⟨rfl, hend⟩, rfl⟩
    exact ⟨hstart, he, hend⟩
  · rintro ⟨hstart, he, hend⟩
    exact ⟨p, ⟨rfl, hstart⟩, q, he, q, ⟨rfl, hend⟩, rfl⟩

end PathRouting.Regex
