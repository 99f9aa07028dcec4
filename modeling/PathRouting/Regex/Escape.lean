import PathRouting.Regex.Property
import PathRouting.Regex.Simplify
import PathRouting.Text.Property
import PathRouting.Text.Split

/-!
# Escapes in regular expressions

A backslash takes the meaning from a special character, or gives one to an ordinary character:
`\d` is a class, `\b` an assertion and `\x41` a character.

## Main definitions

* `Flags` — the modes an expression is read in.
* `isMeta`, `quote` — special characters, and a text with all of them escaped.
* `skipBlank` — what free spacing lets one leave out.
* `Atom`, `readEscape` — what a backslash and the characters after it stand for.
-/

namespace PathRouting.Regex

open Text

/-- The modes in which an expression is read. -/
structure Flags where
  /-- `i`: case makes no difference. -/
  ignoreCase : Bool
  /-- `m`: `^` and `$` hold at every line. -/
  multiLine : Bool
  /-- `s`: the dot matches line ends too. -/
  dotAll : Bool
  /-- `U`: repetitions are as short as possible, and with a `?` as long as possible. -/
  swapGreed : Bool
  /-- `u`: classes hold the characters of all scripts. -/
  unicode : Bool
  /-- `R`: a carriage return ends a line too. -/
  crlf : Bool
  /-- `x`: white space and comments are left out. -/
  verbose : Bool
  deriving DecidableEq, Repr

namespace Flags

/-- The flags with the one of the given letter switched on or off. -/
def set? (f : Flags) (letter : Char) (on : Bool) : Option Flags :=
  match letter with
  | 'i' => some { f with ignoreCase := on }
  | 'm' => some { f with multiLine := on }
  | 's' => some { f with dotAll := on }
  | 'U' => some { f with swapGreed := on }
  | 'u' => some { f with unicode := on }
  | 'R' => some { f with crlf := on }
  | 'x' => some { f with verbose := on }
  | _ => none

/-- The set in the mode that disregards case, if that is on. -/
def applyCase (f : Flags) (s : CharSet) : CharSet :=
  if !f.ignoreCase then s
  else if f.unicode then s.caseless
  else .inter .ascii s.caseless

/-- The expression for one character. -/
def charExpr (f : Flags) (c : Char) : Expr :=
  if !f.ignoreCase || (!f.unicode && c.toNat ≥ 0x80) then .literal [c]
  else .ofSet (f.applyCase (.exactly c))

end Flags

/-! ### Special characters -/

/-- The characters with a meaning of their own. -/
def metaChars : List Char :=
  ['\\', '.', '+', '*', '?', '(', ')', '|', '[', ']', '{', '}', '^', '$', '#', '&', '-', '~']

/-- Whether a character has a meaning of its own. -/
def isMeta (c : Char) : Bool := metaChars.contains c

/-- A text with its special characters escaped, so that it matches itself. -/
def quote (s : List Char) : List Char := s.flatMap fun c => if isMeta c then ['\\', c] else [c]

/-- Whether a backslash before the character stands for the character: all of ASCII but letters,
digits and angle brackets. -/
def isEscapable (c : Char) : Bool :=
  isMeta c || (c.toNat < 0x80 && !c.isAlphanum && c != '<' && c != '>')

/-- A text without the white space and comments at its front; `inComment` if a comment is open
already. -/
def skipSpacing (inComment : Bool) : List Char → List Char
  | [] => []
  | c :: s =>
    if inComment then skipSpacing (c != '\n') s
    else if isWhiteSpace c then skipSpacing false s
    else if c = '#' then skipSpacing true s
    else c :: s

/-- A text without what free spacing lets one leave out at its front. -/
def skipBlank (f : Flags) (s : List Char) : List Char :=
  if f.verbose then skipSpacing false s else s

theorem skipBlank_eq_self {f : Flags} (h : f.verbose = false) (s : List Char) :
    skipBlank f s = s := by
  simp [skipBlank, h]

/-! ### Reading -/

/-- What a backslash and the characters after it stand for. -/
inductive Atom
  /-- A character. -/
  | char (c : Char)
  /-- A class. -/
  | set (s : CharSet)
  /-- An assertion. -/
  | look (l : Look)
  deriving DecidableEq, Repr

/-- The characters up to a closing brace and the text after it. -/
def readBraced (f : Flags) : Nat → List Char → Option (List Char × List Char)
  | 0, _ => none
  | fuel + 1, s =>
    match skipBlank f s with
    | [] => none
    | c :: rest =>
      if c = '}' then some ([], rest)
      else (readBraced f fuel rest).map fun (inner, rest) => (c :: inner, rest)

/-- The number that hexadecimal digits spell. -/
def hexNumber? (digits : List Char) : Option Nat :=
  if digits.isEmpty then none
  else digits.foldlM (fun n c => (hexValue? c).map (16 * n + ·)) 0

/-- The characters at the front that satisfy `p`, spacing after each of them left out, and the text
after them. -/
def readRun (f : Flags) (p : Char → Bool) : Nat → List Char → List Char × List Char
  | 0, s => ([], s)
  | fuel + 1, s =>
    match s with
    | [] => ([], [])
    | c :: rest =>
      if p c then
        let (more, rest) := readRun f p fuel (skipBlank f rest)
        (c :: more, rest)
      else ([], s)

/-- The given number of characters, spacing between them left out, and the text after them. -/
def readFixed (f : Flags) : Nat → List Char → Option (List Char × List Char)
  | 0, s => some ([], s)
  | n + 1, s =>
    match s with
    | [] => none
    | c :: rest => (readFixed f n (skipBlank f rest)).map fun (inner, rest) => (c :: inner, rest)

/-- The digits of a number, a fixed count of them or any count in braces, with whether they stand
in braces. -/
def readNumeral (f : Flags) (digits : Nat) (s : List Char) :
    Option ((List Char × Bool) × List Char) :=
  match s with
  | '{' :: s =>
    (readBraced f (s.length + 1) s).map fun (inner, rest) => ((inner, true), skipBlank f rest)
  | s => (readFixed f digits s).map fun (inner, rest) => ((inner, false), rest)

/-- The character of a number. -/
def hexAtom? (f : Flags) (digits : Nat) (written : List Char) (braced : Bool) : Option Atom := do
  let n ← hexNumber? written
  if !f.unicode && digits == 2 && !braced && n ≥ 0x80 then none
  else if h : n.isValidChar then some (.char (Char.ofNatAux n h))
  else none

/-- A character by its number. -/
def readHex (f : Flags) (digits : Nat) (s : List Char) : Option (Atom × List Char) :=
  (readNumeral f digits (skipBlank f s)).bind fun ((written, braced), rest) =>
    (hexAtom? f digits written braced).map (·, rest)

/-- The class of the property of a name in braces, there also with a value.  The class is the same
with each of the signs between the two: `!=` does not take the complement. -/
def propertySet? (name : List Char) : Option CharSet :=
  match findPair name with
  | some (property, value) => CharSet.ofPropertyValue? property value
  | none => CharSet.ofProperty? name
where
  /-- The name and the value in `name!=value`, `name:value` or `name=value`. -/
  findPair (s : List Char) : Option (List Char × List Char) :=
    (findNotEqual s).or ((cutAt ':' s).or (cutAt '=' s))
  /-- The texts around the first `!=`. -/
  findNotEqual : List Char → Option (List Char × List Char)
    | '!' :: '=' :: s => some ([], s)
    | c :: s => (findNotEqual s).map fun (a, b) => (c :: a, b)
    | [] => none

/-- The class of a property by its name: one letter, or more in braces. -/
def readPropertySet (f : Flags) (s : List Char) : Option (CharSet × List Char) :=
  match s with
  | [] => none
  | '{' :: s =>
    (readBraced f (s.length + 1) s).bind fun (name, rest) => (propertySet? name).map (·, rest)
  | c :: rest =>
    if c = '\\' then none else (CharSet.ofProperty? [c]).map (·, skipBlank f rest)

/-- The class of a property, or its complement. -/
def readProperty (f : Flags) (negated : Bool) (s : List Char) : Option (Atom × List Char) :=
  if !f.unicode then none
  else (readPropertySet f (skipBlank f s)).map fun (found, rest) =>
    (.set (CharSet.complIf negated (f.applyCase found)), rest)

/-- The class of a letter: digits, white space or word characters, negated for capitals. -/
def readClassLetter (f : Flags) (letter : Char) : Option CharSet := do
  let base ← match letter.toLower with
    | 'd' => some (if f.unicode then .categories [.decimalNumber] else .range '0' '9')
    | 's' => some (if f.unicode then .whiteSpace else CharSet.asciiSpace)
    | 'w' => some (if f.unicode then .word else CharSet.asciiWord)
    | _ => none
  if letter.isUpper then if f.unicode then some base.compl else none else some base

/-- The assertion about words that a name in braces stands for. -/
def boundaryOfName? (name : List Char) : Option Boundary :=
  match String.ofList name with
  | "start" => some .start
  | "end" => some .stop
  | "start-half" => some .startHalf
  | "end-half" => some .stopHalf
  | _ => none

/-- Whether a character can stand in the name of an assertion about words. -/
def isBoundaryNameChar (c : Char) : Bool := c.isAlpha || c == '-'

/-- The assertion of `\b` with a name in braces. -/
def namedBoundary? (f : Flags) (name : List Char) : Option Atom :=
  if name.all isBoundaryNameChar then
    (boundaryOfName? name).map fun kind => .look (.word kind (!f.unicode))
  else none

/-- The assertion of `\b`, which may be followed by a name in braces.  Braces that start with
anything but a name are left for a repetition. -/
def readBoundary (f : Flags) (s : List Char) : Option (Atom × List Char) :=
  match s with
  | '{' :: inner =>
    match skipBlank f inner with
    | [] => none
    | c :: _ =>
      if isBoundaryNameChar c then
        (readBraced f (inner.length + 1) inner).bind fun (name, rest) =>
          (namedBoundary? f name).map (·, rest)
      else some (.look (.word .either (!f.unicode)), s)
  | _ => some (.look (.word .either (!f.unicode)), s)

/-- The character or the assertion of a letter after a backslash. -/
def letterAtom? (f : Flags) (letter : Char) : Option Atom :=
  match letter with
  | 'a' => some (.char '\x07')
  | 'f' => some (.char '\x0C')
  | 't' => some (.char '\t')
  | 'n' => some (.char '\n')
  | 'r' => some (.char '\r')
  | 'v' => some (.char '\x0B')
  | 'A' => some (.look .textStart)
  | 'z' => some (.look .textEnd)
  | 'B' => some (.look (.word .neither (!f.unicode)))
  | '<' => some (.look (.word .start (!f.unicode)))
  | '>' => some (.look (.word .stop (!f.unicode)))
  | _ => none

/-- What the characters after a backslash stand for, and the text after them. -/
def readEscape (f : Flags) : List Char → Option (Atom × List Char)
  | [] => none
  | c :: s =>
    if isEscapable c then some (.char c, s)
    else if c = 'x' then readHex f 2 s
    else if c = 'u' then readHex f 4 s
    else if c = 'U' then readHex f 8 s
    else if c = 'p' ∨ c = 'P' then readProperty f (c = 'P') s
    else if c = 'b' then readBoundary f s
    else match readClassLetter f c with
      | some set => some (.set set, s)
      | none => (letterAtom? f c).map (·, s)

end PathRouting.Regex
