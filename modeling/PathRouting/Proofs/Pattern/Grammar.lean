import PathRouting.Proofs.Pattern.Segment
import PathRouting.Proofs.Pattern.Layout
import PathRouting.Proofs.Regex.Leads

/-!
# The grammar of patterns without constraints

A pattern text without constraints is written as separators and segments, and a segment as
characters, `*`, `?` and captures by name.  The elements it should have are described here on what
was written, without reading it.

## Main definitions

* `Part`, `Block` — what a segment and a pattern are written of.
* `IsSegment`, `IsWritten` — which parts make a segment, and which blocks a pattern.
* `Part.expr`, `mixedExpr` — the regular expression of a mixed segment.
* `segmentKind`, `Block.chain` — the elements that blocks stand for.

## Main results

* `textOf_eq_star`, `textOf_eq_segments` — only `*` is written `*`, and only `**` is written `**`.
-/

namespace PathRouting

open Regex

/-! ### What patterns are written of -/

/-- A part of a segment. -/
inductive Part
  /-- A character that stands for itself. -/
  | char (c : Char)
  /-- `*`. -/
  | star
  /-- `?`. -/
  | question
  /-- `{name}`. -/
  | capture (name : List Char)
  deriving DecidableEq, Repr

/-- A separator or a segment. -/
inductive Block
  /-- The separator. -/
  | separator
  /-- A segment of parts. -/
  | segment (parts : List Part)
  /-- `{*name}`. -/
  | rest (name : List Char)
  deriving DecidableEq, Repr

namespace Part

/-- A part as it is written. -/
def text : Part → List Char
  | char c => [c]
  | star => ['*']
  | question => ['?']
  | capture name => '{' :: name ++ ['}']

/-- Whether a part may stand in a segment: no character with a meaning and no separator stands for
itself, and captures have names. -/
def IsProper (separator : Char) : Part → Prop
  | char c => c ∉ ['{', '}', '*', '?'] ∧ c ≠ separator
  | star => True
  | question => True
  | capture name => IsName name

/-- The names of a part. -/
def names : Part → List (List Char)
  | capture name => [name]
  | _ => []

/-- Whether the part is a capture. -/
def isCapture : Part → Bool
  | capture _ => true
  | _ => false

/-- Whether the part needs a regular expression. -/
def isMixing : Part → Bool
  | star => true
  | capture _ => true
  | _ => false

end Part

/-- The text of parts. -/
def textOf (parts : List Part) : List Char := parts.flatMap Part.text

/-- The names of parts. -/
def namesOfParts (parts : List Part) : List (List Char) := parts.flatMap Part.names

/-- Parts that make a segment. -/
structure IsSegment (separator : Char) (parts : List Part) : Prop where
  /-- There is a part. -/
  ne_nil : parts ≠ []
  /-- All parts may stand in a segment. -/
  proper : ∀ part ∈ parts, part.IsProper separator
  /-- No two captures stand side by side. -/
  apart : parts.IsChain fun a b => a.isCapture = false ∨ b.isCapture = false

namespace Block

/-- The run that a block is cut out of the text as. -/
def run : Block → Run
  | separator => .separator
  | segment parts => .text (textOf parts)
  | rest name => .text ('{' :: '*' :: name ++ ['}'])

/-- The names of a block. -/
def names : Block → List (List Char)
  | separator => []
  | segment parts => namesOfParts parts
  | rest name => [name]

/-- Whether a block may stand in a pattern. -/
def IsProper (sep : Char) : Block → Prop
  | separator => True
  | segment parts => IsSegment sep parts
  | rest name => IsName name

/-- The text of blocks. -/
def textOf (sep : Char) (blocks : List Block) : List Char :=
  (blocks.map run).flatMap (Run.raw sep)

end Block

/-- Blocks that make a pattern. -/
structure IsWritten (separator : Char) (blocks : List Block) : Prop where
  /-- All blocks may stand in a pattern. -/
  proper : ∀ block ∈ blocks, block.IsProper separator
  /-- No two segments stand side by side. -/
  apart : blocks.IsChain fun a b => a = .separator ∨ b = .separator
  /-- Only the last block captures the rest. -/
  restLast : ∀ name, .rest name ∉ blocks.dropLast
  /-- No name is given twice. -/
  names : (blocks.flatMap Block.names).Nodup

/-! ### The elements they stand for -/

/-- A character that stands for itself put before pieces. -/
def Piece.cons (c : Char) : List Piece → List Piece
  | .literal t :: rest => .literal (c :: t) :: rest
  | rest => .literal [c] :: rest

/-- A character put before pieces extends the literal they start with, or is one of its own. -/
theorem Piece.cons_eq (c : Char) (pieces : List Piece) :
    (∃ t rest, pieces = .literal t :: rest ∧ cons c pieces = .literal (c :: t) :: rest) ∨
      cons c pieces = .literal [c] :: pieces := by
  rcases pieces with _ | ⟨_ | _ | _ | _, rest⟩
  · exact .inr rfl
  · exact .inl ⟨_, rest, rfl, rfl⟩
  · exact .inr rfl
  · exact .inr rfl
  · exact .inr rfl

/-- The pieces that parts make: characters next to each other are one. -/
def piecesOf : List Part → List Piece
  | [] => []
  | .char c :: parts => Piece.cons c (piecesOf parts)
  | .star :: parts => .star :: piecesOf parts
  | .question :: parts => .question :: piecesOf parts
  | .capture name :: parts => .capture name none :: piecesOf parts

/-- The expression for a part, `groups` captures standing before it. -/
def Part.expr (ignoreCase : Bool) (groups : Nat) : Part → Expr
  | char c => (baseFlags ignoreCase).charExpr c
  | star => anyText
  | question => .set .any
  | capture _ => .group (groups + 1) anyText

/-- The expressions for parts, `groups` captures standing before them. -/
def exprsOf (ignoreCase : Bool) : Nat → List Part → List Expr
  | _, [] => []
  | groups, part :: parts =>
    part.expr ignoreCase groups :: exprsOf ignoreCase (groups + part.names.length) parts

/-- The expression for a mixed segment, between the two ends of what it is matched with. -/
def mixedExpr (ignoreCase : Bool) (parts : List Part) : Expr :=
  Expr.sequence (.look .textStart :: exprsOf ignoreCase 0 parts ++ [.look .textEnd])

/-- The element for a segment: `*`, `**` and a capture alone, literal text, text with `?`, or else a
mixed segment. -/
def segmentKind (o : PatternOptions) : List Part → ElementKind
  | [.star] => .wildcard
  | [.star, .star] => .segments
  | [.capture name] => .capture name none
  | parts =>
    if parts.any Part.isMixing then
      .mixed (textOf parts) (piecesOf parts)
        ⟨mixedSource (piecesOf parts), mixedExpr (!o.caseSensitive) parts⟩
    else if parts.contains .question then .singleChars (textOf parts) o.caseSensitive
    else .literal (textOf parts) o.caseSensitive

namespace Block

/-- The element for a block by itself. -/
def kind (o : PatternOptions) : Block → ElementKind
  | separator => .separator
  | segment parts => segmentKind o parts
  | rest name => .captureRest name none

/-- At the end `**` and `{*name}` take the separator before them. -/
def absorb (sep : Char) : List ElementKind → List ElementKind
  | [.separator, .segments] => [.rest sep]
  | [.separator, .captureRest name _] => [.captureRest name (some sep)]
  | k :: kinds => k :: absorb sep kinds
  | [] => []

/-- The elements for blocks. -/
def chain (o : PatternOptions) (blocks : List Block) : List ElementKind :=
  absorb o.separator (blocks.map (kind o))

end Block

/-- Whether the regular expression of an element, if it has one, takes no more room than it may. -/
def ElementKind.fits : ElementKind → Bool
  | mixed _ _ re => re.expr.fits
  | _ => true

/-! ### The text of a segment -/

section Text

variable {separator : Char} {parts : List Part}

@[simp] theorem textOf_nil : textOf [] = [] := rfl

@[simp] theorem textOf_cons (part : Part) (parts : List Part) :
    textOf (part :: parts) = part.text ++ textOf parts := List.flatMap_cons

theorem textOf_eq_nil : textOf parts = [] ↔ parts = [] := by
  cases parts with
  | nil => simp
  | cons part parts => cases part <;> simp [Part.text]

/-- A text that starts with `*` is written with a `*` first. -/
theorem textOf_eq_star_cons (h : ∀ part ∈ parts, part.IsProper separator) {t : List Char}
    (ht : textOf parts = '*' :: t) : ∃ later, parts = .star :: later ∧ textOf later = t := by
  rcases parts with _ | ⟨part, later⟩
  · simp at ht
  · have hpart := h part List.mem_cons_self
    cases part with
    | char c =>
      obtain ⟨rfl, -⟩ : c = '*' ∧ textOf later = t := by simpa [Part.text] using ht
      simp [Part.IsProper] at hpart
    | star => exact ⟨later, rfl, by simpa [Part.text] using ht⟩
    | question => simp [Part.text] at ht
    | capture name => simp [Part.text] at ht

/-- Only `*` is written `*`. -/
theorem textOf_eq_star (h : ∀ part ∈ parts, part.IsProper separator) :
    textOf parts = ['*'] ↔ parts = [.star] := by
  constructor
  · intro ht
    obtain ⟨later, rfl, hlater⟩ := textOf_eq_star_cons h ht
    rw [textOf_eq_nil.mp hlater]
  · rintro rfl
    rfl

/-- Only `**` is written `**`. -/
theorem textOf_eq_segments (h : ∀ part ∈ parts, part.IsProper separator) :
    textOf parts = ['*', '*'] ↔ parts = [.star, .star] := by
  constructor
  · intro ht
    obtain ⟨later, rfl, hlater⟩ := textOf_eq_star_cons h ht
    rw [(textOf_eq_star (List.forall_mem_cons.mp h).2).mp hlater]
  · rintro rfl
    rfl

/-- A character that no part holds is not in the text. -/
theorem notMem_textOf {c : Char} (h : ∀ part ∈ parts, c ∉ part.text) : c ∉ textOf parts := by
  intro hmem
  obtain ⟨part, hpart, hc⟩ := List.mem_flatMap.mp hmem
  exact h part hpart hc

end Text

end PathRouting
