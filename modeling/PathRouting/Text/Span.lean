/-!
# Spans of code points

A property of characters is stored as a list of spans in increasing order.  A span may take
only every second code point, as the capital letters do where they alternate with the small
ones.

## Main definitions

* `Span`, `Span.contains` — a stretch of code points and its members.
* `Spans.contains` — membership in an ordered list of spans.
* `Shift`, `Shifts.apply` — a mapping that moves whole spans.
-/

namespace PathRouting.Text

/-- The code points `first`, `first + step`, … up to `last`. -/
structure Span where
  /-- The least member. -/
  first : Nat
  /-- The greatest member. -/
  last : Nat
  /-- The distance of two neighbours. -/
  step : Nat
  deriving DecidableEq, Repr

/-- Whether `n` is one of the code points of the span. -/
def Span.contains (s : Span) (n : Nat) : Bool :=
  s.first ≤ n && n ≤ s.last && (n - s.first) % s.step == 0

/-- Whether `n` lies in one of the spans; the search ends at the first span beyond `n`. -/
def Spans.contains : List Span → Nat → Bool
  | [], _ => false
  | s :: rest, n => if n < s.first then false else s.contains n || Spans.contains rest n

@[simp] theorem Spans.contains_nil (n : Nat) : Spans.contains [] n = false := rfl

/-- A span of code points all moved by the same distance, the first of them to `target`. -/
structure Shift extends Span where
  /-- The image of the least member. -/
  target : Nat
  deriving DecidableEq, Repr

/-- The image of `n`, or `n` itself when no span holds it; the spans are in increasing order. -/
def Shifts.apply : List Shift → Nat → Nat
  | [], n => n
  | s :: rest, n =>
    if n < s.first then n
    else if s.contains n then s.target + (n - s.first) else Shifts.apply rest n

@[simp] theorem Shifts.apply_nil (n : Nat) : Shifts.apply [] n = n := rfl

theorem Shifts.apply_cons (s : Shift) (rest : List Shift) (n : Nat) :
    Shifts.apply (s :: rest) n
      = if n < s.first then n
        else if s.contains n then s.target + (n - s.first) else Shifts.apply rest n := rfl

end PathRouting.Text
