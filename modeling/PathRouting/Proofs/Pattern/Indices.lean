import PathRouting.Proofs.Pattern.Segment

/-!
# Reading a pattern by positions

A pattern text may be read without taking it apart: a token is a stretch between two positions, a
capture is found by looking for the position of the brace that closes it, and its name and its
constraint are stretches again.  Read like this, a text offers many occasions to go wrong.  A
position may lie outside of it, a stretch may end before it starts, and the number of open braces
may be counted down below zero.  Here every such step is checked.

## Main definitions

* `IndexedFault` — why reading by positions stops.
* `Indexed.charAt`, `Indexed.textBetween`, `Indexed.minus` — the steps that are checked.
* `Indexed.scan` — the tokens of a text as stretches.
* `Indexed.captureEnd` — the position of the brace that closes a capture.
* `Indexed.readPieces` — the pieces of a segment, from one position to the next.
* `Indexed.parse` — the pattern that a text is.
-/

namespace PathRouting

/-- Why reading by positions stops. -/
inductive IndexedFault
  /-- The text is no pattern. -/
  | malformed (cause : PatternCause) (position : Nat)
  /-- A position lies outside of a text, or a number would fall below zero. -/
  | outOfRange
  deriving DecidableEq, Repr

/-- A token as a stretch of the text. -/
inductive IndexedToken
  /-- A separator. -/
  | separator (position : Nat)
  /-- The characters from one position up to another. -/
  | segment (start stop : Nat)
  deriving DecidableEq, Repr

namespace Indexed

/-- What is read without positions. -/
def lift {α : Type} (x : Except (PatternCause × Nat) α) : Except IndexedFault α :=
  x.mapError fun fault => .malformed fault.1 fault.2

/-! ### Checked steps -/

/-- The character at a position of a text. -/
def charAt (s : List Char) (i : Nat) : Except IndexedFault Char :=
  match s[i]? with
  | some c => .ok c
  | none => .error .outOfRange

/-- The characters from one position of a text up to another. -/
def textBetween (s : List Char) (start stop : Nat) : Except IndexedFault (List Char) :=
  if start ≤ stop ∧ stop ≤ s.length then .ok ((s.take stop).drop start) else .error .outOfRange

/-- A number less another one. -/
def minus (a b : Nat) : Except IndexedFault Nat := if b ≤ a then .ok (a - b) else .error .outOfRange

/-! ### Tokens -/

/-- The effect of the character at position `i` on the braces. -/
def step (b : Braces) (i : Nat) (c : Char) : Except IndexedFault Braces :=
  if b.escaped then .ok { b with escaped := false }
  else if c = '\\' ∧ b.inConstraint then .ok { b with escaped := true }
  else if c = '{' then
    if b.depth = 0 then .ok ⟨1, false, false⟩
    else if b.inConstraint then .ok { b with depth := b.depth + 1 }
    else .error (.malformed .nestedCapture i)
  else if c = '}' then
    if b.depth = 0 then .error (.malformed .missingOpen i)
    else do
      let depth ← minus b.depth 1
      return ⟨depth, b.inConstraint && depth != 0, false⟩
  else if c = ':' ∧ b.depth = 1 then .ok { b with inConstraint := true }
  else .ok b

/-- The segment from `start` up to `stop`, if it has characters. -/
def pending (start stop : Nat) : List IndexedToken :=
  if start < stop then [.segment start stop] else []

/-- The tokens of the text from position `i` on, where the latest token ends at `start`. -/
def scanFrom (separator : Char) : Braces → Nat → Nat → List Char →
    Except IndexedFault (List IndexedToken)
  | b, start, i, [] =>
    if 0 < b.depth then .error (.malformed .missingClose i) else .ok (pending start i)
  | b, start, i, c :: s => do
    let next ← step b i c
    if !b.escaped && b.cutsAt separator c then do
      let rest ← scanFrom separator next (i + 1) (i + 1) s
      return pending start i ++ .separator i :: rest
    else scanFrom separator next start (i + 1) s

/-- The tokens of a text. -/
def scan (separator : Char) (text : List Char) : Except IndexedFault (List IndexedToken) :=
  scanFrom separator .outside 0 0 text

/-! ### Captures -/

/-- The position of the brace that closes as many braces as are open, in the text from position `i`
on. -/
def captureEndFrom : Nat → Bool → Nat → List Char → Except IndexedFault (Option Nat)
  | _, _, _, [] => .ok none
  | depth, escaped, i, c :: s =>
    if escaped then captureEndFrom depth false (i + 1) s
    else if c = '\\' then captureEndFrom depth true (i + 1) s
    else if c = '{' then captureEndFrom (depth + 1) false (i + 1) s
    else if c = '}' then do
      let depth ← minus depth 1
      if depth = 0 then .ok (some i) else captureEndFrom depth false (i + 1) s
    else captureEndFrom depth false (i + 1) s

/-- The position of the brace that closes the capture at position `i` of a segment; when backslashes
hide that brace, the last position. -/
def captureEnd (segment : List Char) (i : Nat) : Except IndexedFault Nat := do
  let stop ← captureEndFrom 0 false i (segment.drop i)
  return stop.getD (segment.length - 1)

/-- Checks a name, which starts at a position of the pattern. -/
def checkName (position : Nat) (name : List Char) : Except IndexedFault Unit := do
  let first ← charAt name 0
  if !isNameStart first then .error (.malformed (.illegalStart first) position)
  else match name.findIdx? (!isNameChar ·) with
    | some i => do
      let bad ← charAt name i
      .error (.malformed (.illegalChar bad) (position + i))
    | none => .ok ()

/-- The name and the constraint in the text between braces. -/
def splitName (text : List Char) : Except IndexedFault (List Char × Option (List Char)) :=
  match text.findIdx? (· == ':') with
  | some colon => do
    let name ← textBetween text 0 colon
    let constraint ← textBetween text (colon + 1) text.length
    return (name, some constraint)
  | none => .ok (text, none)

/-- The capture that the text between braces describes, and the names given so far. -/
def readCapture (names : List (List Char)) (position : Nat) (text : List Char) :
    Except IndexedFault (Piece × List (List Char)) := do
  let (name, constraint) ← splitName text
  if name = [] then .error (.malformed .emptyName position)
  else do
    checkName position name
    if constraint = some [] then
      .error (.malformed .missingConstraint (position + name.length + 1))
    else do
      let names ← lift (addName names position name)
      return (.capture name constraint, names)

theorem le_of_textBetween {s t : List Char} {start stop : Nat}
    (h : textBetween s start stop = .ok t) : start ≤ stop ∧ stop ≤ s.length := by
  unfold textBetween at h
  split at h
  · assumption
  · simp at h

/-- A character that stands for itself put before pieces. -/
def consLiteral (c : Char) : List Piece → List Piece
  | .literal t :: rest => .literal (c :: t) :: rest
  | rest => .literal [c] :: rest

/-- A character outside of braces put before pieces. -/
def consPiece (c : Char) (pieces : List Piece) : List Piece :=
  if c = '*' then .star :: pieces
  else if c = '?' then .question :: pieces
  else consLiteral c pieces

/-- The pieces of a segment from position `i` on, and the names given so far; the segment starts at
`position`. -/
def readPieces (segment : List Char) (position : Nat) (i : Nat) (names : List (List Char))
    (afterCapture : Bool) : Except IndexedFault (List Piece × List (List Char)) :=
  if i < segment.length then do
    let c ← charAt segment i
    if c = '{' then
      if afterCapture then .error (.malformed .adjacentCaptures (position + i))
      else do
        let stop ← captureEnd segment i
        match h : textBetween segment (i + 1) stop with
        | .error fault => .error fault
        | .ok text =>
          have := le_of_textBetween h
          let (capture, names) ← readCapture names (position + i + 1) text
          let (pieces, names) ← readPieces segment position (stop + 1) names true
          return (capture :: pieces, names)
    else do
      let (pieces, names) ← readPieces segment position (i + 1) names false
      return (consPiece c pieces, names)
  else .ok ([], names)
termination_by segment.length - i

/-! ### Segments -/

/-- The element for a segment that is neither `**` nor a capture of the rest. -/
def readSegment (o : PatternOptions) (names : List (List Char)) (position : Nat)
    (segment : List Char) : Except IndexedFault (ElementKind × List (List Char)) :=
  if segment = ['*'] then .ok (.wildcard, names)
  else if !segment.contains '{' && !segment.contains '*' then
    if segment.contains '?' then .ok (.singleChars segment o.caseSensitive, names)
    else .ok (.literal segment o.caseSensitive, names)
  else do
    let (pieces, names) ← readPieces segment position 0 names false
    let kind ← lift (kindOfPieces o position segment pieces)
    return (kind, names)

/-- The name in a segment that captures the rest, which has its first `{*` at `offset`. -/
def readRestName (position offset : Nat) (segment : List Char) :
    Except IndexedFault (List Char) :=
  if offset ≠ 0 ∨ segment.getLast? ≠ some '}' ∨ segment.count '}' ≠ 1 then
    .error (.malformed .restNotAlone (position + offset))
  else do
    let stop ← minus segment.length 1
    let name ← textBetween segment 2 stop
    if name = [] then .error (.malformed .restWithoutName position)
    else do
      checkName (position + 2) name
      return name

/-! ### Elements -/

/-- The chain with the element of a segment; `isLast` if no token follows. -/
def placeSegment (o : PatternOptions) (isLast : Bool) (ch : Chain) (start : Nat) (s : List Char) :
    Except IndexedFault Chain :=
  if s = ['*', '*'] then
    if isLast then
      .ok (ch.pushWithSeparator start fun taken => if taken then .rest o.separator else .segments)
    else .ok (ch.push start .segments)
  else match findRest s with
    | some offset => do
      let name ← readRestName start offset s
      let names ← lift (addName ch.names start name)
      return { ch with names }.pushWithSeparator start fun taken =>
        .captureRest name (if taken then some o.separator else none)
    | none => do
      let (kind, names) ← readSegment o ch.names start s
      return { ch with names }.push start kind

/-- The chain with the element of one token of the text; `isLast` if no token follows. -/
def place (o : PatternOptions) (text : List Char) (isLast : Bool) (ch : Chain) :
    IndexedToken → Except IndexedFault Chain
  | .separator p =>
    if ch.isClosed then .error (.malformed .afterRest p) else .ok (ch.push p .separator)
  | .segment start stop =>
    if ch.isClosed then .error (.malformed .afterRest start)
    else do
      let s ← textBetween text start stop
      placeSegment o isLast ch start s

/-- The chain with the elements of all tokens. -/
def placeAll (o : PatternOptions) (text : List Char) (ch : Chain) :
    List IndexedToken → Except IndexedFault Chain
  | [] => .ok ch
  | t :: rest => do
    let ch ← place o text rest.isEmpty ch t
    placeAll o text ch rest

/-- The pattern that a text is. -/
def parse (o : PatternOptions) (text : List Char) : Except IndexedFault Pattern := do
  let ts ← scan o.separator text
  let ch ← placeAll o text ⟨[], []⟩ ts
  return ⟨text, o, ch.elements.reverse⟩

end Indexed

end PathRouting
