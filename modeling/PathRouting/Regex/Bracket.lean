import PathRouting.Regex.Escape
import PathRouting.Text.Split

/-!
# Bracketed classes

A class in brackets lists characters, ranges and other classes; `^` after the opening bracket
takes the complement, and `&&`, `--` and `~~` combine what stands to their left with what stands
to their right.

## Main definitions

* `BracketSet` — a set with the depth of the brackets it was written with.
* `readFront`, `readOpening` — what may follow an opening bracket only there.
* `readOperator?` — what may stand between two sets.
* `readItem` — a character, a range or a class without brackets.
* `readBracket` — everything up to the closing bracket.
-/

namespace PathRouting.Regex

open Text

/-- A set together with how deeply it was nested. -/
structure BracketSet where
  /-- The set. -/
  set : CharSet
  /-- The depth of its syntax tree. -/
  depth : Nat

/-- A way to combine two sets. -/
inductive SetOp
  /-- `&&`: what both hold. -/
  | inter
  /-- `--`: what only the left one holds. -/
  | diff
  /-- `~~`: what exactly one holds. -/
  | symmDiff
  deriving DecidableEq, Repr

/-- The combination of two sets. -/
def SetOp.apply : SetOp → CharSet → CharSet → CharSet
  | inter => .inter
  | diff => .diff
  | symmDiff => .symmDiff

/-- The operator that is written as the same character twice. -/
def SetOp.ofChar? : Char → Option SetOp
  | '&' => some .inter
  | '-' => some .diff
  | '~' => some .symmDiff
  | _ => none

/-- The set of listed items, latest first. -/
def BracketSet.ofItems (items : List BracketSet) : BracketSet where
  set := CharSet.unions (items.reverse.map (·.set))
  depth := (items.map (·.depth)).foldl Nat.max 0 + if items.length > 1 then 1 else 0

/-- The items of a class combined with what stands to the left of them. -/
def BracketSet.combine (f : Flags) (left : Option (SetOp × BracketSet)) (items : List BracketSet) :
    BracketSet :=
  let right := ofItems items
  match left with
  | none => right
  | some (op, left) =>
    ⟨op.apply (f.applyCase left.set) (f.applyCase right.set), Nat.max left.depth right.depth + 1⟩

/-- The set, or its complement, in the given modes.  Where classes hold ASCII only, nothing that
reaches beyond is admitted. -/
def Flags.negate? (f : Flags) (negated : Bool) (s : CharSet) : Option CharSet :=
  if !f.unicode && negated then none else some (CharSet.complIf negated (f.applyCase s))

/-- The set of a whole bracket, as seen from outside. -/
def BracketSet.close? (f : Flags) (negated : Bool) (inner : BracketSet) : Option BracketSet :=
  (f.negate? negated inner.set).map (⟨·, inner.depth + 1⟩)

/-- Dashes at the front of a class, which stand for themselves. -/
def leadingDashes (f : Flags) (s : List Char) : List BracketSet × List Char :=
  let (dashes, rest) := readRun f (· == '-') (s.length + 1) s
  (dashes.map fun c => ⟨.exactly c, 0⟩, rest)

/-- Whether a class is negated. -/
def readCaret (f : Flags) (s : List Char) : Bool × List Char :=
  match s with
  | '^' :: rest => (true, skipBlank f rest)
  | _ => (false, s)

/-- The items at the front of a class that stand for themselves only there. -/
def readFront (f : Flags) (s : List Char) : List BracketSet × List Char :=
  match s with
  | ']' :: rest => ([⟨.exactly ']', 0⟩], skipBlank f rest)
  | _ => leadingDashes f s

/-- What follows an opening bracket: whether the class is negated, and the items at its front. -/
def readOpening (f : Flags) (s : List Char) : (Bool × List BracketSet) × List Char :=
  let (negated, s) := readCaret f (skipBlank f s)
  let (front, s) := readFront f s
  ((negated, front), s)

/-- The set of a class of ASCII by its name, up to the colon and the bracket after it. -/
def readAsciiName (negated : Bool) (s : List Char) : Option ((Bool × CharSet) × List Char) :=
  (cutAt ':' s).bind fun (name, rest) =>
    match rest with
    | ']' :: rest => (CharSet.ofAsciiName? name).map fun set => ((negated, set), rest)
    | _ => none

/-- What follows the opening bracket of a class such as `[:alpha:]`: whether the class is
negated, and its set. -/
def readAsciiClass? (s : List Char) : Option ((Bool × CharSet) × List Char) :=
  match s with
  | ':' :: '^' :: s => readAsciiName true s
  | ':' :: s => readAsciiName false s
  | _ => none

/-- An operator between sets. -/
def readOperator? (s : List Char) : Option (SetOp × List Char) :=
  match s with
  | c :: d :: rest => if c = d then (SetOp.ofChar? c).map (·, rest) else none
  | _ => none

/-- One character, or what a backslash gives. -/
def readPrimitive (f : Flags) : List Char → Option (Atom × List Char)
  | [] => none
  | '\\' :: s => readEscape f s
  | c :: s => some (.char c, s)

/-- The next character after the one at the front, spacing left out. -/
def peekBlank (f : Flags) (s : List Char) : Option Char :=
  if !f.verbose then s.head?
  else match s.dropWhile isWhiteSpace with
    | '#' :: rest => (rest.dropWhile isWhiteSpace).head?.or s.head?
    | c :: _ => some c
    | [] => s.head?

/-- The set of an item that is no range. -/
def Atom.toSet? (f : Flags) : Atom → Option CharSet
  | .char c => if !f.unicode && c.toNat ≥ 0x80 then none else some (.exactly c)
  | .set s => some s
  | .look _ => none

/-- The set of a range between two items. -/
def Atom.range? (f : Flags) : Atom → Atom → Option CharSet
  | .char a, .char b =>
    if a ≤ b && (f.unicode || b.toNat < 0x80) then some (.range a b) else none
  | _, _ => none

/-- The set of an item after its first part: a range, if a dash follows that makes one. -/
def readRange (f : Flags) (first : Atom) (s : List Char) : Option (CharSet × List Char) :=
  match s with
  | [] => none
  | '-' :: rest =>
    let next := peekBlank f rest
    -- before the closing bracket, and before another dash, the dash makes no range
    if next = some ']' ∨ next = some '-' then (first.toSet? f).map (·, '-' :: rest)
    else (readPrimitive f (skipBlank f rest)).bind fun (second, rest) =>
      (first.range? f second).map (·, rest)
  | s => (first.toSet? f).map (·, s)

/-- A character, a range or a class without brackets. -/
def readItem (f : Flags) (s : List Char) : Option (BracketSet × List Char) :=
  (readPrimitive f s).bind fun (first, rest) =>
    (readRange f first (skipBlank f rest)).map fun (set, rest) => (⟨set, 0⟩, rest)

/-- A class after its opening bracket, and the text after the class; `inner` reads up to the closing
bracket, after the items that it is given. -/
def readNested (f : Flags) (inner : List BracketSet → List Char → Option (BracketSet × List Char))
    (s : List Char) : Option (BracketSet × List Char) :=
  let ((negated, front), rest) := readOpening f s
  (inner front.reverse rest).bind fun (found, rest) => (found.close? f negated).map (·, rest)

/-- The class up to its closing bracket, after the items in front have been read; `left` is what
stands to the left of the operator before them. -/
def readBracket (f : Flags) : Nat → Option (SetOp × BracketSet) → List BracketSet → List Char →
    Option (BracketSet × List Char)
  | 0, _, _, _ => none
  | fuel + 1, left, items, s =>
    match skipBlank f s with
    | [] => none
    | ']' :: rest => some (BracketSet.combine f left items, rest)
    | '[' :: rest =>
      -- what does not spell a named class is a class inside this one
      match readAsciiClass? rest with
      | some ((negated, set), rest) =>
        (f.negate? negated set).bind fun set => readBracket f fuel left (⟨set, 0⟩ :: items) rest
      | none =>
        (readNested f (readBracket f fuel none) rest).bind fun (item, rest) =>
          readBracket f fuel left (item :: items) rest
    | s =>
      match readOperator? s with
      | some (op, rest) => readBracket f fuel (some (op, BracketSet.combine f left items)) [] rest
      | none =>
        (readItem f s).bind fun (item, rest) => readBracket f fuel left (item :: items) rest

/-- A class after its opening bracket, and the text after the class. -/
def readClass (f : Flags) (s : List Char) : Option (BracketSet × List Char) :=
  readNested f (fun items rest => readBracket f (rest.length + 1) none items rest) s

end PathRouting.Regex
