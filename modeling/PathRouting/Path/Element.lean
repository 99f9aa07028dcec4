import PathRouting.Path.Matrix
import PathRouting.Path.Options

/-!
# Path elements

A path is a row of separators and segments.  A segment keeps its raw text, and besides it the
value that patterns are matched against and its matrix variables.

## Main definitions

* `Segment`, `PathElement` — a segment, and an element of a path.
* `Run`, `runs` — a text cut at the separator, before anything is decoded.
* `Segment.read` — a segment from its raw text.
* `PathElement.readAll` — the elements of a whole text.
-/

namespace PathRouting

open Text

/-- A segment of a path. -/
structure Segment where
  /-- The byte position in the path the segment was read from. -/
  offset : Nat
  /-- The text as it stands in the path. -/
  raw : List Char
  /-- The text to match: matrix variables cut off, escapes replaced. -/
  value : List Char
  /-- The matrix variables. -/
  matrix : Matrix
  deriving DecidableEq, Repr

/-- An element of a path. -/
inductive PathElement
  /-- A separator at a byte position. -/
  | separator (offset : Nat) (char : Char)
  /-- A segment. -/
  | segment (s : Segment)
  deriving DecidableEq, Repr

namespace PathElement

/-- The text as it stands in the path. -/
def raw : PathElement → List Char
  | separator _ c => [c]
  | segment s => s.raw

/-- The value of a segment, or the separator itself. -/
def value : PathElement → List Char
  | separator _ c => [c]
  | segment s => s.value

/-- Whether the element is a separator. -/
def isSeparator : PathElement → Bool
  | separator .. => true
  | segment _ => false

/-- The segment, if the element is one. -/
def segment? : PathElement → Option Segment
  | separator .. => none
  | segment s => some s

/-- The matrix variables; a separator has none. -/
def matrix : PathElement → Matrix
  | separator .. => []
  | segment s => s.matrix

/-- The byte position of the element in the path it was read from. -/
def offset : PathElement → Nat
  | separator p _ => p
  | segment s => s.offset

/-- The bytes of the element in the path it was read from. -/
def bytes (e : PathElement) : Bytes := ⟨e.offset, e.offset + byteLength e.raw⟩

@[simp] theorem raw_separator (p : Nat) (c : Char) : (separator p c).raw = [c] := rfl
@[simp] theorem raw_segment (s : Segment) : (segment s).raw = s.raw := rfl
@[simp] theorem value_separator (p : Nat) (c : Char) : (separator p c).value = [c] := rfl
@[simp] theorem value_segment (s : Segment) : (segment s).value = s.value := rfl
@[simp] theorem isSeparator_separator (p : Nat) (c : Char) :
    (separator p c).isSeparator = true := rfl
@[simp] theorem isSeparator_segment (s : Segment) : (segment s).isSeparator = false := rfl

end PathElement

/-! ### Cutting at the separator -/

/-- A stretch of a text: a separator, or the characters between two of them. -/
inductive Run
  /-- The separator. -/
  | separator
  /-- Characters other than the separator, at least one. -/
  | text (s : List Char)
  deriving DecidableEq, Repr

/-- A text cut at every separator; nothing stands for an empty stretch. -/
def runs (separator : Char) : List Char → List Run
  | [] => []
  | c :: s =>
    if c = separator then .separator :: runs separator s
    else match runs separator s with
      | .text t :: rest => .text (c :: t) :: rest
      | rest => .text [c] :: rest

/-- The text of a run. -/
def Run.raw (separator : Char) : Run → List Char
  | .separator => [separator]
  | .text s => s

/-- Cutting loses nothing. -/
theorem flatMap_raw_runs (separator : Char) (s : List Char) :
    (runs separator s).flatMap (Run.raw separator) = s := by
  induction s with
  | nil => rfl
  | cons c s ih =>
    rw [runs]
    split
    · rename_i h
      rw [List.flatMap_cons, ih, h]
      rfl
    · split
      · rename_i h
        rw [h, List.flatMap_cons] at ih
        rw [List.flatMap_cons, ← ih]
        rfl
      · rw [List.flatMap_cons, ih]
        rfl

/-! ### Reading the elements -/

/-- The segment with the given raw text, at byte `offset` of the path.  Its matrix variables are
read before its value is decoded. -/
def Segment.read (options : PathOptions) (offset : Nat) (raw : List Char) :
    Except Percent.Fault Segment := do
  let cut := if options.parseMatrixVariables then cutAt ';' raw else none
  let (match_, matrix) ← match cut with
    | some (before, after) =>
      pure (before, ← Matrix.read (';' :: after) (offset + byteLength before))
    | none => pure (raw, [])
  let value ← if options.decodeSegments then Percent.decode match_ offset else pure match_
  return ⟨offset, raw, value, matrix⟩

/-- The elements that runs stand for, the first of them at byte `offset` of the path. -/
def PathElement.readRuns (options : PathOptions) :
    Nat → List Run → Except Percent.Fault (List PathElement)
  | _, [] => .ok []
  | offset, .separator :: rest => do
    let rest ← readRuns options (offset + options.separator.utf8Size) rest
    return .separator offset options.separator :: rest
  | offset, .text raw :: rest => do
    let s ← Segment.read options offset raw
    let rest ← readRuns options (offset + byteLength raw) rest
    return .segment s :: rest

/-- The elements of a text, from left to right; the leftmost fault wins. -/
def PathElement.readAll (options : PathOptions) (text : List Char) :
    Except Percent.Fault (List PathElement) :=
  readRuns options 0 (runs options.separator text)

end PathRouting
