import PathRouting.Regex.ClassName

/-!
# Regular expressions

The syntax trees of regular expressions, with case, line and word modes already resolved into
the sets and assertions they hold.

## Main definitions

* `Look`, `Look.holds` — assertions about a position, and when they hold there.
* `Expr` — the trees.
* `Expr.isEmptyOnly`, `Expr.consumes` — whether a tree matches nothing but the empty text, and
  whether all it matches is longer.
* `Expr.startsAnchored`, `Expr.endsAnchored` — whether matches lie at the ends of the text.
* `Expr.groupCount` — the number of groups that take part in a match.
* `Expr.weight` — how large a tree is in a search.
-/

namespace PathRouting.Regex

open Text

/-- What an assertion about words says of the characters around a position. -/
inductive Boundary
  /-- Exactly one of them is part of a word. -/
  | either
  /-- Both are, or neither is. -/
  | neither
  /-- A word starts. -/
  | start
  /-- A word ends. -/
  | stop
  /-- No word goes on from before. -/
  | startHalf
  /-- No word goes on after. -/
  | stopHalf
  deriving DecidableEq, Repr

/-- An assertion about a position. -/
inductive Look
  /-- The start of the text. -/
  | textStart
  /-- The end of the text. -/
  | textEnd
  /-- The start of a line; `crlf` lets a carriage return end lines too. -/
  | lineStart (crlf : Bool)
  /-- The end of a line. -/
  | lineEnd (crlf : Bool)
  /-- A word boundary, for the words of all scripts or of ASCII only. -/
  | word (kind : Boundary) (ascii : Bool)
  deriving DecidableEq, Repr

namespace Look

/-- Whether an assertion about words holds between characters of the given kinds. -/
def boundaryHolds : Boundary → Bool → Bool → Bool
  | .either, before, after => before != after
  | .neither, before, after => before == after
  | .start, before, after => !before && after
  | .stop, before, after => before && !after
  | .startHalf, before, _ => !before
  | .stopHalf, _, after => !after

/-- Whether an assertion holds between two characters; there is none before the start of the
text and none after its end. -/
def holds : Look → Option Char → Option Char → Bool
  | textStart, before, _ => before.isNone
  | textEnd, _, after => after.isNone
  | lineStart crlf, before, after =>
    before.isNone || before == some '\n' || (crlf && before == some '\r' && after != some '\n')
  | lineEnd crlf, before, after =>
    after.isNone || (after == some '\n' && !(crlf && before == some '\r'))
      || (crlf && after == some '\r')
  | word kind ascii, before, after =>
    let inWord (c : Option Char) : Bool :=
      c.any (if ascii then CharSet.asciiWord else CharSet.word).contains
    boundaryHolds kind (inWord before) (inWord after)

end Look

/-- A regular expression. -/
inductive Expr
  /-- Matches the empty text. -/
  | empty
  /-- Matches a text. -/
  | literal (text : List Char)
  /-- Matches one character of a set. -/
  | set (s : CharSet)
  /-- Matches the empty text where an assertion holds. -/
  | look (l : Look)
  /-- Matches as its body does and records what that was. -/
  | group (index : Nat) (body : Expr)
  /-- One after the other. -/
  | seq (first second : Expr)
  /-- The first, or else the second. -/
  | alt (first second : Expr)
  /-- At least `min` times and, if there is a `max`, at most that often; as often as possible,
  or as rarely as possible. -/
  | iter (body : Expr) (min : Nat) (max : Option Nat) (greedy : Bool)
  deriving DecidableEq, Repr

namespace Expr

/-- Whether no other text than the empty one can match. -/
def isEmptyOnly : Expr → Bool
  | empty => true
  | literal t => t.isEmpty
  | set _ => false
  | look _ => true
  | group _ e => e.isEmptyOnly
  | seq a b => a.isEmptyOnly && b.isEmptyOnly
  | alt a b => a.isEmptyOnly && b.isEmptyOnly
  | iter e _ max _ => max == some 0 || e.isEmptyOnly

/-- A length that no match falls below.  There is none as soon as a part of the expression, a set
without members, matches nothing at all. -/
def minLength? : Expr → Option Nat
  | empty => some 0
  | literal t => some t.length
  | set s => if s.ranges.isEmpty then none else some 1
  | look _ => some 0
  | group _ e => e.minLength?
  | seq a b => a.minLength?.bind fun m => b.minLength?.map (m + ·)
  | alt a b => a.minLength?.bind fun m => b.minLength?.map (Nat.min m ·)
  | iter e min _ _ => e.minLength?.map (min * ·)

/-- Whether every match is known to be longer than the empty text. -/
def consumes (e : Expr) : Bool := e.minLength?.any (0 < ·)

/-- Whether a match can only lie at the start of the text. -/
def startsAnchored : Expr → Bool
  | look l => l == .textStart
  | group _ e => e.startsAnchored
  | seq a b => a.startsAnchored || (a.isEmptyOnly && b.startsAnchored)
  | alt a b => a.startsAnchored && b.startsAnchored
  | iter e min _ _ => 0 < min && e.startsAnchored
  | _ => false

/-- Whether a match can only lie at the end of the text. -/
def endsAnchored : Expr → Bool
  | look l => l == .textEnd
  | group _ e => e.endsAnchored
  | seq a b => b.endsAnchored || (b.isEmptyOnly && a.endsAnchored)
  | alt a b => a.endsAnchored && b.endsAnchored
  | iter e min _ _ => 0 < min && e.endsAnchored
  | _ => false

/-- One more than the highest index of a group, or zero. -/
def groupCount : Expr → Nat
  | empty => 0
  | literal _ => 0
  | set _ => 0
  | look _ => 0
  | group i e => Nat.max (i + 1) e.groupCount
  | seq a b => Nat.max a.groupCount b.groupCount
  | alt a b => Nat.max a.groupCount b.groupCount
  | iter e _ _ _ => e.groupCount

/-- How often the body of a repetition is written out when it is unfolded. -/
def copies (min : Nat) (max : Option Nat) : Nat := Nat.max 1 (Nat.max min (max.getD 0))

/-- A bound on the number of tasks a search for the expression can be left with. -/
def weight : Expr → Nat
  | empty => 1
  | literal _ => 1
  | set _ => 1
  | look _ => 1
  | group _ e => e.weight + 2
  | seq a b => a.weight + b.weight + 1
  | alt a b => a.weight + b.weight + 1
  | iter e min max _ => (e.weight + 2) * (copies min max + 1) + 2

end Expr

end PathRouting.Regex
