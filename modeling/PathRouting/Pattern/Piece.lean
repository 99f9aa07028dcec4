import PathRouting.Pattern.Fault
import PathRouting.Regex.Basic
import PathRouting.Text.Split

/-!
# Pieces of a segment

A segment of a pattern may mix literal text with `*`, `?` and captures in braces.  It is first
cut into pieces, which never fails, and then the captures are checked from left to right.

## Main definitions

* `closing`, `splitCapture` — where the braces of a capture close.
* `RawPiece`, `rawPieces` — the pieces before captures are checked.
* `checkName` — what a name is made of.
* `Piece`, `readPieces` — the checked pieces.
* `Piece.source`, `mixedSource` — the regular expression for pieces.
-/

namespace PathRouting

open Text

/-! ### Braces -/

/-- The text up to the brace that closes `depth` more braces than have been closed, and the text
after it.  A backslash takes the meaning from the character after it. -/
def closing : Nat → Bool → List Char → Option (List Char × List Char)
  | _, _, [] => none
  | depth, escaped, c :: s =>
    let keep (rest : Option (List Char × List Char)) :=
      rest.map fun (inner, after) => (c :: inner, after)
    if escaped then keep (closing depth false s)
    else if c = '\\' then keep (closing depth true s)
    else if c = '{' then keep (closing (depth + 1) false s)
    else if c = '}' then
      match depth with
      | 0 => some ([], s)
      | depth + 1 => keep (closing depth false s)
    else keep (closing depth false s)

/-- The text of a capture after its opening brace, and the text after its closing brace.  When
backslashes hide the closing brace, the capture goes up to the last character. -/
def splitCapture (s : List Char) : List Char × List Char :=
  (closing 0 false s).getD (s.dropLast, [])

/-! ### Pieces -/

/-- A piece of a segment, captures unchecked. -/
inductive RawPiece
  /-- Characters that stand for themselves. -/
  | literal (text : List Char)
  /-- `*`, any characters. -/
  | star
  /-- `?`, any one character. -/
  | question
  /-- The text between braces, and the number of characters before it in the pattern. -/
  | braced (position : Nat) (text : List Char)
  deriving DecidableEq, Repr

/-- A character that stands for itself put before pieces. -/
def RawPiece.cons (c : Char) : List RawPiece → List RawPiece
  | .literal t :: rest => .literal (c :: t) :: rest
  | rest => .literal [c] :: rest

/-- The pieces of a text that starts `position` characters into the pattern; `fuel` is at least
the number of its characters. -/
def rawPieces : Nat → Nat → List Char → List RawPiece
  | 0, _, _ => []
  | _, _, [] => []
  | fuel + 1, position, c :: s =>
    if c = '{' then
      let (inner, after) := splitCapture s
      .braced (position + 1) inner :: rawPieces fuel (position + inner.length + 2) after
    else if c = '*' then .star :: rawPieces fuel (position + 1) s
    else if c = '?' then .question :: rawPieces fuel (position + 1) s
    else RawPiece.cons c (rawPieces fuel (position + 1) s)

/-- A checked piece of a segment. -/
inductive Piece
  /-- Characters that stand for themselves. -/
  | literal (text : List Char)
  /-- `*`, any characters. -/
  | star
  /-- `?`, any one character. -/
  | question
  /-- A capture with its name and the text of its constraint. -/
  | capture (name : List Char) (constraint : Option (List Char))
  deriving DecidableEq, Repr

/-! ### Names -/

/-- Whether a name can start with the character. -/
def isNameStart (c : Char) : Bool := isAlphabetic c || c == '_' || c == '$'

/-- Whether a name can hold the character. -/
def isNameChar (c : Char) : Bool := isAlphanumeric c || c == '_' || c == '$' || c == '-'

/-- The first character that a name cannot hold, with its place. -/
def firstIllegal (position : Nat) : List Char → Option (Char × Nat)
  | [] => none
  | c :: s => if isNameChar c then firstIllegal (position + 1) s else some (c, position)

/-- Checks the name that starts at the given place; `whenEmpty` is the fault of having none. -/
def checkName (whenEmpty : PatternCause × Nat) (position : Nat) :
    List Char → Except (PatternCause × Nat) Unit
  | [] => .error whenEmpty
  | c :: s =>
    if !isNameStart c then .error (.illegalStart c, position)
    else match firstIllegal position (c :: s) with
      | some (bad, place) => .error (.illegalChar bad, place)
      | none => .ok ()

/-- A name added to those given before; `position` is the place of a fault. -/
def addName (names : List (List Char)) (position : Nat) (name : List Char) :
    Except (PatternCause × Nat) (List (List Char)) :=
  if names.contains name then .error (.duplicateName name, position) else .ok (name :: names)

/-! ### Captures -/

/-- The capture that the text between braces describes, and the names given so far. -/
def readCapture (names : List (List Char)) (position : Nat) (text : List Char) :
    Except (PatternCause × Nat) (Piece × List (List Char)) := do
  let (name, constraint) := match cutAt ':' text with
    | some (name, constraint) => (name, some constraint)
    | none => (text, none)
  checkName (.emptyName, position) position name
  if constraint = some [] then throw (.missingConstraint, position + name.length + 1)
  let names ← addName names position name
  return (.capture name constraint, names)

/-- The checked pieces and the names given so far; `afterCapture` if a capture precedes. -/
def readPieces (names : List (List Char)) (afterCapture : Bool) :
    List RawPiece → Except (PatternCause × Nat) (List Piece × List (List Char))
  | [] => .ok ([], names)
  | .literal t :: rest => do
    let (pieces, names) ← readPieces names false rest
    return (.literal t :: pieces, names)
  | .star :: rest => do
    let (pieces, names) ← readPieces names false rest
    return (.star :: pieces, names)
  | .question :: rest => do
    let (pieces, names) ← readPieces names false rest
    return (.question :: pieces, names)
  | .braced position text :: rest => do
    if afterCapture then throw (.adjacentCaptures, position - 1)
    let (capture, names) ← readCapture names position text
    let (pieces, names) ← readPieces names true rest
    return (capture :: pieces, names)

namespace Piece

/-- The name of a capture. -/
def name? : Piece → Option (List Char)
  | capture name _ => some name
  | _ => none

/-- Whether the piece is a `*`. -/
def isStar : Piece → Bool
  | star => true
  | _ => false

/-- The length that counts for how specific a pattern is: literal text counts fully, everything
else as one character. -/
def weight : Piece → Nat
  | literal t => t.length
  | _ => 1

/-- The regular expression for a piece. -/
def source : Piece → List Char
  | literal t => Regex.quote t
  | star => ['.', '*']
  | question => ['.']
  | capture _ none => ['(', '.', '*', ')']
  | capture _ (some c) => '(' :: c ++ [')']

end Piece

/-- The names of the captures among pieces. -/
def captureNames (pieces : List Piece) : List (List Char) := pieces.filterMap Piece.name?

/-- The regular expression for a segment of several pieces. -/
def mixedSource (pieces : List Piece) : List Char := '^' :: pieces.flatMap Piece.source ++ ['$']

/-- The regular expression for the constraint of a capture that is a segment of its own. -/
def constraintSource (constraint : List Char) : List Char :=
  ['^', '(', '?', ':'] ++ constraint ++ [')', '$']

end PathRouting
