import PathRouting.NatTree
import PathRouting.Regex.Expr

/-!
# What a search has met

A search is always left with a list of tasks.  The lists that it met are kept by the place where
they were met and by a number that most other lists there do not have.

## Main definitions

* `Task` — something left to do.
* `marks` — the number of a list of tasks.
* `Seen`, `Seen.has`, `Seen.add` — the lists met so far.
-/

namespace PathRouting.Regex

/-- Something a search has still to do. -/
inductive Task
  /-- Match an expression. -/
  | run (e : Expr)
  /-- Repeat an expression once more or stop repeating it. -/
  | loop (e : Expr) (greedy : Bool)
  /-- Record where a group ends. -/
  | close (index : Nat)
  deriving DecidableEq, Repr

/-- How often an expression goes on to the right, in a row or among alternatives. -/
def Expr.rightDepth : Expr → Nat
  | seq _ b => b.rightDepth + 1
  | alt _ b => b.rightDepth + 1
  | _ => 0

/-- A number for an expression that tells its outermost form. -/
def Expr.mark : Expr → Nat
  | empty => 0
  | literal t => 1 + 8 * t.length
  | set _ => 2
  | look _ => 3
  | group index _ => 4 + index
  | seq _ b => 5 + 2 * b.rightDepth
  | alt _ b => 6 + 2 * b.rightDepth
  | iter _ min max _ => 7 + 3 * min + 5 * max.getD 0

/-- A number for tasks, by which those that were met are found again. -/
def Task.mark : Task → Nat
  | run e => 3 * e.mark
  | loop e _ => 3 * e.mark + 1
  | close index => 3 * index + 2

/-- A number below 8191 for a list of tasks. -/
def marks (tasks : List Task) : Nat := tasks.foldl (fun n t => (257 * n + t.mark) % 8191) 0

/-- The tasks met so far, for every number of characters left, by their marks. -/
abbrev Seen := Array (NatTree (List (List Task)))

namespace Seen

/-- Nothing met yet, for texts of up to `length` characters. -/
def none (length : Nat) : Seen := Array.replicate (length + 1) .empty

/-- The tasks of one mark that were met with `left` characters left. -/
def marked (seen : Seen) (left mark : Nat) : List (List Task) :=
  ((seen.getD left .empty).get? mark).getD []

/-- Whether the tasks were met with `left` characters left. -/
def has (seen : Seen) (left : Nat) (tasks : List Task) : Bool :=
  (seen.marked left (marks tasks)).contains tasks

/-- The tasks added to those met with `left` characters left. -/
def add (seen : Seen) (left : Nat) (tasks : List Task) : Seen :=
  let mark := marks tasks
  let same := tasks :: seen.marked left mark
  seen.modify left (·.insert mark same)

theorem size_add (seen : Seen) (left : Nat) (tasks : List Task) :
    (seen.add left tasks).size = seen.size := by
  simp [add]

/-- Where tasks were added, those of their mark are one more. -/
theorem marked_add {seen : Seen} {left : Nat} (h : left < seen.size) (tasks : List Task)
    (m mark : Nat) :
    (seen.add left tasks).marked m mark
      = if m = left ∧ mark = marks tasks then tasks :: seen.marked m mark
        else seen.marked m mark := by
  by_cases hm : m = left
  · subst hm
    have hget (f : NatTree (List (List Task)) → NatTree (List (List Task))) :
        (Array.modify seen m f).getD m .empty = f (Array.getD seen m .empty) := by
      rw [Array.getD_eq_getD_getElem?, Array.getD_eq_getD_getElem?, Array.getElem?_modify,
        if_pos rfl, Array.getElem?_eq_getElem h]
      rfl
    by_cases hmark : mark = marks tasks <;>
      simp [add, marked, hget, NatTree.get?_insert, hmark]
  · simp [add, marked, Array.getD_eq_getD_getElem?, Array.getElem?_modify, hm, Ne.symm hm]

/-- What was met after an addition is what was met before it and what was added. -/
theorem has_add {seen : Seen} {left : Nat} (h : left < seen.size) (tasks : List Task) (m : Nat)
    (others : List Task) :
    (seen.add left tasks).has m others = true
      ↔ seen.has m others = true ∨ (m = left ∧ others = tasks) := by
  simp only [has, marked_add h, List.contains_iff_mem]
  split
  · next hm =>
    rw [List.mem_cons]
    exact ⟨fun h => h.symm.imp id fun h => ⟨hm.1, h⟩, fun h => h.symm.imp (·.2) id⟩
  · next hm =>
    refine ⟨Or.inl, fun h => h.elim id fun he => absurd ⟨he.1, ?_⟩ hm⟩
    rw [he.2]

end Seen

end PathRouting.Regex
