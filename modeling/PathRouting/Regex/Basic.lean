import PathRouting.Regex.Parse
import PathRouting.Regex.Search

/-!
# Compiled expressions

A regular expression as patterns use it: its text, and the tree that the text stands for.  The
dot matches every character.

## Main definitions

* `Regex`, `Regex.compile?` — a compiled expression, and compiling one.
* `Regex.isMatch`, `Regex.captures?` — whether a text has a match, and what its groups hold.
-/

namespace PathRouting

open Regex

/-- A compiled regular expression. -/
structure Regex where
  /-- The text it was compiled from. -/
  source : List Char
  /-- The expression. -/
  expr : Expr
  deriving DecidableEq, Repr

namespace Regex

/-- The modes an expression starts in. -/
def baseFlags (ignoreCase : Bool) : Flags where
  ignoreCase := ignoreCase
  multiLine := false
  dotAll := true
  swapGreed := false
  unicode := true
  crlf := false
  verbose := false

/-- A text compiled, with or without regard to case; malformed texts are refused. -/
def compile? (ignoreCase : Bool) (source : List Char) : Option Regex :=
  (parse? (baseFlags ignoreCase) source).map (⟨source, ·⟩)

/-- The number of groups that can take part in a match. -/
def groupCount (re : Regex) : Nat := re.expr.groupCount - 1

/-- The leftmost match in a text. -/
def match? (re : Regex) (input : List Char) : Option Slots := search re.expr input

/-- Whether a text has a match. -/
def isMatch (re : Regex) (input : List Char) : Bool := (re.match? input).isSome

/-- The texts of the first `n` groups in the leftmost match; a group that took no part has the
empty text. -/
def captures? (re : Regex) (n : Nat) (input : List Char) : Option (List (List Char)) :=
  (re.match? input).map fun slots =>
    (List.range n).map fun i => (slots.groupText? input (i + 1)).getD []

/-- A text has a match exactly if its groups can be read off. -/
theorem isSome_captures? (re : Regex) (n : Nat) (input : List Char) :
    (re.captures? n input).isSome = re.isMatch input := by
  simp [captures?, isMatch]

end Regex

end PathRouting
