import PathRouting.Pattern.Element
import PathRouting.Pattern.Token

/-!
# Patterns

The elements of a pattern are read token by token.  A `**` or a capture of the rest at the end
takes the separator before it into the element.

## Main definitions

* `Pattern`, `Pattern.parse` — a pattern, and the pattern that a text is.
* `Pattern.captureCount`, `wildcardCount`, `weight`, `score`, `isCatchAll` — how specific it is.
* `Pattern.hasSyntax` — whether it is more than literal text.
* `Pattern.chain` — its elements in words.
-/

namespace PathRouting

open Text

/-- A pattern. -/
structure Pattern where
  /-- The text it was read from. -/
  text : List Char
  /-- How it was read. -/
  options : PatternOptions
  /-- The elements. -/
  elements : List PatternElement
  deriving Repr

/-! ### Reading one segment -/

/-- The number of characters before the first `{*` of a segment. -/
def findRest : List Char → Option Nat
  | '{' :: '*' :: _ => some 0
  | _ :: s => (findRest s).map (· + 1)
  | [] => none

/-- The name in a segment that captures the rest.  The segment starts at `position` and has its
first `{*` after `offset` characters. -/
def readRestName (position offset : Nat) (segment : List Char) :
    Except (PatternCause × Nat) (List Char) := do
  if offset ≠ 0 ∨ segment.getLast? ≠ some '}' ∨ segment.count '}' ≠ 1 then
    throw (.restNotAlone, position + offset)
  let name := (segment.drop 2).dropLast
  checkName (.restWithoutName, position) (position + 2) name
  return name

/-- A regular expression compiled, malformed ones being the fault of the segment at
`position`. -/
def compileAt (o : PatternOptions) (position : Nat) (source : List Char) :
    Except (PatternCause × Nat) Regex :=
  match Regex.compile? (!o.caseSensitive) source with
  | some re => .ok re
  | none => .error (.malformedConstraint, position)

/-- The element for a segment of several pieces. -/
def readMixed (o : PatternOptions) (position : Nat) (segment : List Char) (pieces : List Piece) :
    Except (PatternCause × Nat) ElementKind := do
  let re ← compileAt o position (mixedSource pieces)
  if re.groupCount ≠ (captureNames pieces).length then
    throw (.groupInConstraint segment, position)
  return .mixed segment pieces re

/-- The element for a segment that is neither `**` nor a capture of the rest. -/
def readSegment (o : PatternOptions) (names : List (List Char)) (position : Nat)
    (segment : List Char) : Except (PatternCause × Nat) (ElementKind × List (List Char)) := do
  if segment = ['*'] then return (.wildcard, names)
  if !segment.contains '{' && !segment.contains '*' then
    if segment.contains '?' then return (.singleChars segment o.caseSensitive, names)
    return (.literal segment o.caseSensitive, names)
  let (pieces, names) ← readPieces names false (rawPieces segment.length position segment)
  -- a capture alone keeps its own expression; all else is one expression for the segment
  match pieces with
  | [.capture name none] => return (.capture name none, names)
  | [.capture name (some constraint)] =>
    let re ← compileAt o position (constraintSource constraint)
    return (.capture name (some (constraint, re)), names)
  | pieces => return (← readMixed o position segment pieces, names)

/-! ### Reading all tokens -/

/-- The elements read so far, latest first, and the names given so far. -/
structure Chain where
  /-- The elements, latest first. -/
  elements : List PatternElement
  /-- The names. -/
  names : List (List Char)

namespace Chain

/-- One more element. -/
def push (ch : Chain) (position : Nat) (kind : ElementKind) : Chain :=
  { ch with elements := ⟨position, kind⟩ :: ch.elements }

/-- One more element that takes in the separator before it, if there is one. -/
def pushWithSeparator (ch : Chain) (position : Nat) (kind : Bool → ElementKind) : Chain :=
  match ch.elements with
  | ⟨p, .separator⟩ :: before => { ch with elements := ⟨p, kind true⟩ :: before }
  | _ => ch.push position (kind false)

/-- Whether the last element captures the rest, so that nothing may follow. -/
def isClosed (ch : Chain) : Bool :=
  match ch.elements with
  | ⟨_, .captureRest ..⟩ :: _ => true
  | _ => false

/-- The chain with the element of one token; `isLast` if no token follows. -/
def place (o : PatternOptions) (isLast : Bool) (ch : Chain) (t : Token) :
    Except (PatternCause × Nat) Chain := do
  if ch.isClosed then throw (.afterRest, t.position)
  match t with
  | .separator p => return ch.push p .separator
  | .segment p s =>
    if s = ['*', '*'] then
      -- at the end it also takes the separator before it, so that `/a/**` matches `/a`
      if isLast then
        return ch.pushWithSeparator p fun taken =>
          if taken then .rest o.separator else .segments
      return ch.push p .segments
    match findRest s with
    | some offset =>
      let name ← readRestName p offset s
      let names ← addName ch.names p name
      return { ch with names }.pushWithSeparator p fun taken =>
        .captureRest name (if taken then some o.separator else none)
    | none =>
      let (kind, names) ← readSegment o ch.names p s
      return { ch with names }.push p kind

/-- The chain with the elements of all tokens. -/
def placeAll (o : PatternOptions) (ch : Chain) :
    List Token → Except (PatternCause × Nat) Chain
  | [] => .ok ch
  | t :: rest => do
    let ch ← place o rest.isEmpty ch t
    placeAll o ch rest

end Chain

namespace Pattern

/-- The elements of a pattern text. -/
def readElements (o : PatternOptions) (text : List Char) :
    Except (PatternCause × Nat) (List PatternElement) := do
  let ts ← tokens o.separator text
  let ch ← Chain.placeAll o ⟨[], []⟩ ts
  return ch.elements.reverse

/-- The pattern that a text is. -/
def parse (o : PatternOptions) (text : List Char) : Except PatternFault Pattern :=
  match readElements o text with
  | .ok elements => .ok ⟨text, o, elements⟩
  | .error (cause, position) => .error ⟨text, position, cause⟩

/-! ### How specific a pattern is -/

/-- The separator. -/
def separator (p : Pattern) : Char := p.options.separator

/-- What the elements match. -/
def kinds (p : Pattern) : List ElementKind := p.elements.map (·.kind)

/-- The sum of a measure over the elements. -/
def total (p : Pattern) (measure : ElementKind → Nat) : Nat :=
  p.kinds.foldr (fun kind n => measure kind + n) 0

/-- The number of captures. -/
def captureCount (p : Pattern) : Nat := p.total (·.captures)

/-- The number of wildcards. -/
def wildcardCount (p : Pattern) : Nat := p.total (·.wildcards)

/-- The length, wildcards and captures counting as one character each. -/
def weight (p : Pattern) : Nat := p.total (·.weight)

/-- Whether the pattern ends by matching whatever is left. -/
def isCatchAll (p : Pattern) : Bool := p.kinds.any (·.isCatchAll)

/-- The lower, the more specific: a wildcard counts as much as a hundred captures. -/
def score (p : Pattern) : Nat := p.captureCount + p.wildcardCount * 100

/-- Whether the pattern is more than literal text. -/
def hasSyntax (p : Pattern) : Bool := p.score > 0 || p.isCatchAll || p.text.contains '?'

/-- Whether the text ends with the separator and a `*`. -/
def endsWithWildcard (p : Pattern) : Bool :=
  p.text.drop (p.text.length - 2) == [p.separator, '*']

/-- The elements in words. -/
def chain (p : Pattern) : String := " ".intercalate (p.kinds.map (·.describe))

/-- Patterns are equal when text, separator and regard to case are. -/
instance : BEq Pattern :=
  ⟨fun p q => p.text == q.text && p.separator == q.separator
    && p.options.caseSensitive == q.options.caseSensitive⟩

/-- Whether two patterns have the same elements at the same places. -/
def sameElements (p q : Pattern) : Bool :=
  p.elements.length == q.elements.length
    && (p.elements.zip q.elements).all fun (a, b) => a.same b

end Pattern

end PathRouting
