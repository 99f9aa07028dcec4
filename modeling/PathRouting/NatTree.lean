/-!
# Values by number

A finite mapping from numbers to values.  The value of zero is at the root, those of the odd
numbers `2 n + 1` and of the even ones `2 n + 2` are below it at `n`; so a number of `b` bits is
at most `b` steps away.

## Main definitions

* `NatTree` — the mappings.
* `NatTree.get?`, `NatTree.insert` — the value of a number, and the mapping with another one.
-/

namespace PathRouting

/-- A mapping from some numbers to values. -/
inductive NatTree (α : Type)
  /-- No number has a value. -/
  | empty
  /-- The value of zero, those of the odd numbers, and those of the even ones above zero. -/
  | node (here : Option α) (odd even : NatTree α)
  deriving Repr

namespace NatTree

variable {α : Type}

/-- The value of a number. -/
def get? : NatTree α → Nat → Option α
  | empty, _ => none
  | node here _ _, 0 => here
  | node _ odd even, n + 1 => if n % 2 = 0 then odd.get? (n / 2) else even.get? (n / 2)

/-- The mapping with the value `a` for `n`; the first number bounds the steps to it. -/
def insertWithin (a : α) : Nat → Nat → NatTree α → NatTree α
  | _, 0, empty => node (some a) empty empty
  | _, 0, node _ odd even => node (some a) odd even
  | 0, _ + 1, t => t
  | fuel + 1, n + 1, empty =>
    if n % 2 = 0 then node none (insertWithin a fuel (n / 2) empty) empty
    else node none empty (insertWithin a fuel (n / 2) empty)
  | fuel + 1, n + 1, node here odd even =>
    if n % 2 = 0 then node here (insertWithin a fuel (n / 2) odd) even
    else node here odd (insertWithin a fuel (n / 2) even)

/-- The mapping with the value `a` for `n`. -/
def insert (t : NatTree α) (n : Nat) (a : α) : NatTree α := insertWithin a n n t

@[simp] theorem get?_empty (n : Nat) : (empty : NatTree α).get? n = none := rfl

theorem get?_insertWithin {a : α} {fuel n m : Nat} (h : n ≤ fuel) (t : NatTree α) :
    (insertWithin a fuel n t).get? m = if m = n then some a else t.get? m := by
  induction fuel generalizing n m t with
  | zero =>
    obtain rfl : n = 0 := by omega
    cases t <;> cases m <;> simp [insertWithin, get?]
  | succ fuel ih =>
    cases n with
    | zero => cases t <;> cases m <;> simp [insertWithin, get?]
    | succ n =>
      have hn : n / 2 ≤ fuel := by omega
      cases t <;> cases m <;> simp only [insertWithin] <;> split <;> simp only [get?, ih hn] <;>
        grind

/-- The number just given a value has it, and all others keep theirs. -/
theorem get?_insert (t : NatTree α) (n m : Nat) (a : α) :
    (t.insert n a).get? m = if m = n then some a else t.get? m :=
  get?_insertWithin (Nat.le_refl n) t

end NatTree

end PathRouting
