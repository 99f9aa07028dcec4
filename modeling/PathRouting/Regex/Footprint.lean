import PathRouting.Regex.Simplify
import PathRouting.Regex.WordTree

/-!
# The room an expression takes

An expression is matched by automata over bytes, one that reads forward and one that reads
backward, and neither of them may take more room than there is.

## Main definitions

* `Direction` — forward or backward.
* `Growth.ofBranches`, `Growth.ofIter`, … — the growth for each kind of expression.
* `Expr.growth`, `Expr.automaton` — the growth of an expression, alone and as a whole automaton.
* `Expr.fits` — whether an expression takes no more room than it may.
-/

namespace PathRouting.Regex

open Text

/-! ### Kinds of expressions -/

/-- The way an automaton reads. -/
inductive Direction
  /-- From the start of the text. -/
  | forward
  /-- From the end of the text. -/
  | backward
  deriving DecidableEq, Repr

/-- The growth for one character of a set. -/
def CharSet.growth (d : Direction) (s : CharSet) : Growth :=
  if s.isAscii then .of 2 (8 * s.ranges.length)
  else match d with
    | .forward => .tree (.ofRows s.rows)
    | .backward => .rows s.rows

/-- The growth for two expressions in a row. -/
def Direction.row (d : Direction) (first second : Growth) : Growth :=
  match d with
  | .forward => .both first second
  | .backward => .both second first

/-- The growth for a group.  What groups matched is only recorded forward. -/
def Direction.group (d : Direction) (body : Growth) : Growth :=
  match d with
  | .forward => .both (.of 1 0) (.both body (.of 1 0))
  | .backward => body

namespace Growth

/-- The growth for alternatives. -/
def ofBranches : List Growth → Growth
  | [] => of 1 0
  | [g] => g
  | g :: h :: rest =>
    rest.foldl (fun all g => both all (both g (of 0 4))) (both (both g h) (of 2 8))

/-- The growth for a repetition of what has the growth `body`, and never matches the empty text
if `consumes` holds. -/
def ofIter (body : Growth) (consumes : Bool) (min : Nat) (max : Option Nat) : Growth :=
  match min, max with
  | 0, none =>
    if consumes then both (of 1 0) (both body (of 0 8)) else both body (of 3 16)
  | min, none => both (times min body) (of 1 8)
  | 0, some 1 => both (of 1 0) (both body (of 1 8))
  | min, some max =>
    let front := if min = 0 then of 1 0 else times min body
    if min = max then front
    else both (both front (of 1 0)) (times (max - min) (both (of 1 0) (both body (of 0 8))))

end Growth

/-- The texts of alternatives that are all literals. -/
def Expr.words? (e : Expr) : Option (List (List Char)) :=
  e.branches.mapM fun
    | .literal t => some t
    | _ => none

/-- The growth for alternative texts. -/
def wordsGrowth (d : Direction) (texts : List (List Char)) : Growth :=
  let words := texts.map fun t =>
    match d with
    | .forward => utf8 t
    | .backward => (utf8 t).reverse
  .fixed (Footprint.plus ⟨1, 0⟩
    (WordTree.size ((words.map List.length).foldl Nat.max 0 + 1) words))

/-! ### Expressions -/

namespace Expr

/-- The growth for an expression whose alternatives have the given growths. -/
def assemble (d : Direction) (e : Expr) (branches : List Growth) : Growth :=
  match e.words? with
  | some (t :: u :: rest) => wordsGrowth d (t :: u :: rest)
  | _ => Growth.ofBranches branches

/-- The growths of the alternatives of an expression. -/
def branchGrowths (d : Direction) : Expr → List Growth
  | empty => [.of 1 0]
  | literal t => [.of (byteLength t) 0]
  | set s => [s.growth d]
  | look _ => [.of 1 0]
  | group _ e => [d.group (assemble d e (branchGrowths d e))]
  | seq a b => [d.row (assemble d a (branchGrowths d a)) (assemble d b (branchGrowths d b))]
  | alt a b => branchGrowths d a ++ branchGrowths d b
  | iter e min max _ => [.ofIter (assemble d e (branchGrowths d e)) e.consumes min max]

/-- The growth of an expression. -/
def growth (d : Direction) (e : Expr) : Growth := assemble d e (branchGrowths d e)

/-- Whether matches lie where an automaton starts to read. -/
def isAnchored (d : Direction) (e : Expr) : Bool :=
  match d with
  | .forward => e.startsAnchored
  | .backward => e.endsAnchored

/-- The growth of the whole automaton for an expression: states to skip what comes before a
match, the expression as a group, and the state of success. -/
def automaton (d : Direction) (e : Expr) : Growth :=
  let start := if e.isAnchored d then Growth.of 1 0 else .of 3 16
  .both start (.both (d.group (e.growth d)) (.of 1 0))

/-- Whether an expression takes no more room than it may, read in either direction. -/
def fits (e : Expr) : Bool :=
  ((e.automaton .forward).run? ⟨0, 0⟩).isSome && ((e.automaton .backward).run? ⟨0, 0⟩).isSome

end Expr

end PathRouting.Regex
