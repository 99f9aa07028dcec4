import PathRouting.Path.Element

/-!
# Paths

A path looks at a text and the elements read from it: at the elements between two indices, and at
the text between two bytes.  Cutting a part out of it gives a path again, which looks at the same
text and elements; only an empty part is made anew.

## Main definitions

* `Path`, `Path.parse` — a path, and the path that a text holds.
* `Path.elements`, `Path.text` — what a path looks at.
* `Path.subPath`, `Path.subPathFrom` — the part between two indices.
* `Path.sharesElementsWith` — whether a part still has the elements of a path it comes from.
-/

namespace PathRouting

open Text (Bytes byteLength takeBytes_append)

/-- Places in a row, from the first one up to before the last one. -/
structure Indices where
  /-- The index of the first place. -/
  start : Nat
  /-- The index after the last place. -/
  stop : Nat
  deriving DecidableEq, Repr

/-- A path. -/
structure Path where
  /-- The text that was read. -/
  source : List Char
  /-- The elements that were read from it. -/
  stored : List PathElement
  /-- The indices of the elements of the path among those that were read. -/
  range : Indices
  /-- The bytes of the path in the text that was read. -/
  span : Bytes
  /-- How the path was read. -/
  options : PathOptions
  /-- How many times, on the way from the text first read to this path, the elements were made
  anew instead of being taken over. -/
  generation : Nat
  deriving Repr

/-- A part that a path does not have. -/
structure SubPathFault where
  /-- The index of the first element asked for. -/
  start : Nat
  /-- The index after the last element asked for. -/
  stop : Nat
  /-- The number of elements there are. -/
  length : Nat
  deriving DecidableEq, Repr

namespace Path

/-- The path without elements, made as the given generation. -/
def empty (options : PathOptions) (generation : Nat) : Path :=
  ⟨[], [], ⟨0, 0⟩, ⟨0, 0⟩, options, generation⟩

/-- The path that looks at all of a text with the given elements. -/
def whole (text : List Char) (elements : List PathElement) (options : PathOptions) : Path :=
  ⟨text, elements, ⟨0, elements.length⟩, ⟨0, byteLength text⟩, options, 0⟩

/-- The path that a text holds. -/
def parse (text : List Char) (options : PathOptions) : Except Percent.Fault Path :=
  (PathElement.readAll options text).map fun elements => whole text elements options

/-- The elements of a path. -/
def elements (p : Path) : List PathElement := (p.stored.take p.range.stop).drop p.range.start

/-- The text of a path. -/
def text (p : Path) : List Char := p.span.cut p.source

/-- The number of elements. -/
def length (p : Path) : Nat := p.elements.length

/-- Whether there are no elements. -/
def isEmpty (p : Path) : Bool := p.elements.isEmpty

/-- Whether the path is a single separator. -/
def isJustSeparator (p : Path) : Bool :=
  match p.elements with
  | [.separator ..] => true
  | _ => false

/-- The view of the elements from index `start` up to before index `stop`, which are at least one,
and of the text from the first byte of the first to the last byte of the last. -/
def cut (p : Path) (start stop : Nat) : Path :=
  let range : Indices := ⟨p.range.start + start, p.range.start + stop⟩
  let first := p.stored[range.start]?.elim 0 (·.bytes.start)
  let last := p.stored[range.stop - 1]?.elim 0 (·.bytes.stop)
  { p with range, span := ⟨first, last⟩ }

/-- The part from index `start` up to before index `stop`.  The whole path is given back as it
is, and an empty part is a new path. -/
def subPath (p : Path) (start stop : Nat) : Except SubPathFault Path :=
  if start = 0 ∧ stop = p.length then .ok p
  else if stop < start ∨ p.length < stop then .error ⟨start, stop, p.length⟩
  else if start = stop then .ok (empty p.options (p.generation + 1))
  else .ok (p.cut start stop)

/-- The part from index `start` to the end. -/
def subPathFrom (p : Path) (start : Nat) : Except SubPathFault Path := p.subPath start p.length

/-- Whether two paths, one of them a part of the other, have the same elements in storage. -/
def sharesElementsWith (p q : Path) : Bool := p.generation == q.generation

/-- Two paths count as equal when they have the same text. -/
instance : BEq Path := ⟨fun p q => p.text == q.text⟩

theorem beq_iff {p q : Path} : (p == q) = true ↔ p.text = q.text := by
  show (p.text == q.text) = true ↔ p.text = q.text
  exact beq_iff_eq

section

variable (text : List Char) (elements : List PathElement) (options : PathOptions) (generation : Nat)

@[simp] theorem elements_empty : (empty options generation).elements = [] := rfl
@[simp] theorem text_empty : (empty options generation).text = [] := rfl
@[simp] theorem options_empty : (empty options generation).options = options := rfl

@[simp] theorem elements_whole : (whole text elements options).elements = elements := by
  simp [Path.elements, whole]

@[simp] theorem text_whole : (whole text elements options).text = text := by
  simpa [Path.text, whole, Bytes.cut] using takeBytes_append text []

@[simp] theorem options_whole : (whole text elements options).options = options := rfl

end

section

variable (p : Path) (start stop : Nat)

@[simp] theorem source_cut : (p.cut start stop).source = p.source := rfl
@[simp] theorem stored_cut : (p.cut start stop).stored = p.stored := rfl
@[simp] theorem range_cut :
    (p.cut start stop).range = ⟨p.range.start + start, p.range.start + stop⟩ := rfl
@[simp] theorem options_cut : (p.cut start stop).options = p.options := rfl

/-- A stretch of a row has as many places as there are indices. -/
theorem length_slice {α : Type} {l : List α} {stop : Nat} (h : stop ≤ l.length) :
    ((l.take stop).drop start).length = stop - start := by
  rw [List.length_drop, List.length_take, Nat.min_eq_left h]

/-- A stretch of a stretch of a row. -/
theorem slice_slice {α : Type} {l : List α} {start stop first last : Nat}
    (h : start + last ≤ stop) :
    (((l.take stop).drop start).take last).drop first
      = (l.take (start + last)).drop (start + first) := by
  simp only [List.drop_take, List.take_take, List.drop_drop]
  rw [Nat.min_eq_left (by omega), Nat.add_sub_add_left]

/-- A part of a path has the elements between the indices. -/
theorem elements_cut {p : Path} {stop : Nat} (h : stop ≤ p.length) :
    (p.cut start stop).elements = (p.elements.take stop).drop start := by
  rcases Nat.eq_zero_or_pos stop with rfl | hpos
  · simp [elements, List.drop_take]
  · have hle : p.elements.length ≤ p.range.stop - p.range.start := by
      rw [elements, List.length_drop, List.length_take]
      omega
    rw [length] at h
    exact (slice_slice (by omega)).symm

end

end Path

end PathRouting
