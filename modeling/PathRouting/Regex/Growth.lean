import PathRouting.NatTree
import PathRouting.Regex.ByteRow

/-!
# The growth of automata

The room that an automaton over bytes takes is counted without building it.  It may be ten
mebibytes, and counting stops where it is more.

Most of what makes an automaton grow adds the same number of states wherever it stands.  A set of
characters does not: among the states for one set, those that lead to the same places in the same
way are made once only, as far as a memory with one entry in each slot finds them again, and
where the entries go depends on the numbers of the states made before.

## Main definitions

* `Footprint` — a number of states and of bytes beside them.
* `Draft`, `Draft.state` — an automaton that grows, and a state made or found again.
* `Growth`, `Growth.run?` — what something adds to an automaton, and the footprint after it.
-/

namespace PathRouting.Regex

open Text

/-- The room that an automaton takes. -/
structure Footprint where
  /-- The number of its states. -/
  states : Nat
  /-- The bytes it takes beside those of its states. -/
  extra : Nat
  deriving DecidableEq, Repr

namespace Footprint

/-- The number of bytes in all. -/
def bytes (f : Footprint) : Nat := 32 * f.states + f.extra

/-- The greatest number of bytes. -/
def limit : Nat := 10 * 1024 * 1024

/-- The footprint, unless it is too large. -/
def within? (f : Footprint) : Option Footprint := if f.bytes ≤ limit then some f else none

theorem within?_eq_some_iff {f g : Footprint} : f.within? = some g ↔ f = g ∧ f.bytes ≤ limit := by
  rw [within?]
  split
  · next h => simp [h]
  · next h => simp [h]

/-- Two footprints together. -/
def plus (f g : Footprint) : Footprint := ⟨f.states + g.states, f.extra + g.extra⟩

end Footprint

/-! ### States that are made once -/

/-- A memory of states by what they are: each slot has the key and the number of one state, and a
new entry replaces an older one. -/
abbrev StateMemory := NatTree (List UInt64 × Nat)

/-- The slot of a key among a number of slots: the remainder of its FNV-1a hash. -/
def slotOf (slots : Nat) (key : List UInt64) : Nat :=
  (key.foldl (fun h x => (h ^^^ x) * 1099511628211) 14695981039346656037).toNat % slots

/-- An automaton that grows, and the states that can be used again. -/
structure Draft where
  /-- The room taken so far. -/
  footprint : Footprint
  /-- The states made for the set at hand. -/
  memory : StateMemory

namespace Draft

/-- The slots of the memory for states that start a tree of bytes. -/
def treeSlots : Nat := 10000

/-- The slots of the memory for states that read one byte backward. -/
def backSlots : Nat := 1000

/-- The state for a key, made with `extra` bytes beside it unless it is remembered. -/
def state (d : Draft) (slots : Nat) (key : List UInt64) (extra : Nat) : Nat × Draft :=
  let slot := slotOf slots key
  let made : Nat × Draft :=
    (d.footprint.states,
      ⟨d.footprint.plus ⟨1, extra⟩, d.memory.insert slot (key, d.footprint.states)⟩)
  match d.memory.get? slot with
  | some (known, id) => if known = key then (id, d) else made
  | none => made

/-- The state that a tree of bytes starts from. -/
def startOf (d : Draft) (ways : List UInt64 × Nat) : Nat × Draft :=
  d.state treeSlots ways.1 (8 * ways.2)

/-- The ways on from the state of a tree, as a key and how many they are, after the states that
they lead to were made; `final` is the state after the character. -/
def ways (final : Nat) : ByteTree → Draft → (List UInt64 × Nat) × Draft
  | .accept, d => (([], 0), d)
  | .done, d => (([], 0), d)
  | .way range child more, d =>
    let (target, d) := match child with
      | .accept => (final, d)
      | child =>
        let (inner, d) := ways final child d
        d.startOf inner
    let ((key, count), d) := ways final more d
    ((range.first.toUInt64 :: range.last.toUInt64 :: target.toUInt64 :: key, count + 1), d)

/-- A row read backward, from the state after the character. -/
def backRow (final : Nat) (row : ByteRow) (d : Draft) : Draft :=
  (row.foldl (fun (next, d) range =>
    Draft.state d backSlots [next.toUInt64, range.first.toUInt64, range.last.toUInt64] 0)
    (final, d)).2

end Draft

/-! ### Growth -/

/-- What something adds to an automaton. -/
inductive Growth
  /-- Some states and bytes. -/
  | fixed (size : Footprint)
  /-- The states for a set that is read forward. -/
  | tree (t : ByteTree)
  /-- The states for a set that is read backward. -/
  | rows (bytes : List ByteRow)
  /-- One after the other. -/
  | both (first second : Growth)
  /-- The same several times. -/
  | times (n : Nat) (body : Growth)

namespace Growth

/-- A step repeated, for as long as it succeeds. -/
def repeatStep (step : Footprint → Option Footprint) : Nat → Footprint → Option Footprint
  | 0, f => some f
  | n + 1, f =>
    match step f with
    | some f => repeatStep step n f
    | none => none

/-- The footprint after a growth, unless it is too large. -/
def run? : Growth → Footprint → Option Footprint
  | fixed size, f => (f.plus size).within?
  | tree t, f =>
    let (start, d) := Draft.ways f.states t ⟨f.plus ⟨1, 0⟩, .empty⟩
    (d.startOf start).2.footprint.within?
  | rows bytes, f =>
    let d : Draft := ⟨f.plus ⟨2, 4 * bytes.length⟩, .empty⟩
    (bytes.foldl (fun d row => d.backRow (f.states + 1) row) d).footprint.within?
  | both a b, f => (a.run? f).bind b.run?
  | times n body, f => repeatStep body.run? n f

/-- Some states, and some bytes beside them. -/
def of (states extra : Nat) : Growth := fixed ⟨states, extra⟩

@[simp] theorem run?_both (a b : Growth) (f : Footprint) :
    (both a b).run? f = (a.run? f).bind b.run? := rfl

@[simp] theorem run?_of (states extra : Nat) (f : Footprint) :
    (of states extra).run? f = (f.plus ⟨states, extra⟩).within? := rfl

end Growth

end PathRouting.Regex
