import PathRouting.Regex.CharSet
import PathRouting.Text.Bytes

/-!
# Sets of characters as bytes

An automaton that reads UTF-8 takes a character byte by byte.  A range of code points becomes
rows of byte ranges: a row stands for the characters that take their first byte from its first
range, their second byte from its second range, and so on.

## Main definitions

* `ByteRange`, `ByteRow` — a range of bytes, and a row of them.
* `CodeRange.rows`, `CharSet.rows` — a range of code points and a set as rows.
* `ByteTree`, `ByteTree.ofRows` — rows as a tree, in which rows next to each other share what they
  start with.
-/

namespace PathRouting.Regex

open Text

/-- The bytes from `first` to `last`. -/
structure ByteRange where
  /-- The least one. -/
  first : UInt8
  /-- The greatest one. -/
  last : UInt8
  deriving DecidableEq, Repr

/-- The ranges of the bytes of some characters, first byte first. -/
abbrev ByteRow := List ByteRange

namespace CodeRange

/-- The code points by the number of their bytes, without the surrogates. -/
def sameLength : List CodeRange :=
  [⟨0, 0x7F⟩, ⟨0x80, 0x7FF⟩, ⟨0x800, 0xD7FF⟩, ⟨0xE000, 0xFFFF⟩, ⟨0x10000, 0x10FFFF⟩]

/-- What two ranges have in common. -/
def meet (r s : CodeRange) : List CodeRange :=
  let first := Nat.max r.first s.first
  let last := Nat.min r.last s.last
  if first ≤ last then [⟨first, last⟩] else []

/-- A range cut where the blocks of `size` code points at its two ends leave the blocks between
them: a part that starts within a block, whole blocks, and a part that ends within one. -/
def cut (size : Nat) (r : CodeRange) : List CodeRange :=
  if r.first / size = r.last / size then [r]
  else
    -- the first code point from which on blocks are whole, and the one after the last of these
    let front := (r.first + size - 1) / size * size
    let back := (r.last + 1) / size * size
    (if r.first < front then [⟨r.first, front - 1⟩] else [])
      ++ (if front < back then [⟨front, back - 1⟩] else [])
      ++ (if back ≤ r.last then [⟨back, r.last⟩] else [])

/-- A range of code points of the same number of bytes in ranges that are one row each.  All but
the first byte hold six bits, so a row ends where the bits above those of a byte change, unless
the bytes below go through all their values. -/
def pieces (r : CodeRange) : List CodeRange :=
  if r.last < 0x80 then [r]
  else ((cut 0x40 r).flatMap (cut 0x1000)).flatMap (cut 0x40000)

/-- The row from the bytes of the least to those of the greatest character. -/
def row (r : CodeRange) : ByteRow :=
  List.zipWith ByteRange.mk (utf8 [charOf r.first]) (utf8 [charOf r.last])

/-- A range of code points as rows. -/
def rows (r : CodeRange) : List ByteRow := ((sameLength.flatMap r.meet).flatMap pieces).map row

end CodeRange

/-- A set of characters as rows. -/
def CharSet.rows (s : CharSet) : List ByteRow := s.ranges.flatMap CodeRange.rows

/-- Whether a set holds ASCII characters only. -/
def CharSet.isAscii (s : CharSet) : Bool := s.ranges.all (·.last < 0x80)

/-- Rows that share what they start with: the ways on from a place within a character. -/
inductive ByteTree
  /-- The character ends here. -/
  | accept
  /-- There is no further way on. -/
  | done
  /-- A byte of the range leads to `child`; `more` are the other ways on. -/
  | way (range : ByteRange) (child more : ByteTree)
  deriving DecidableEq, Repr

namespace ByteTree

/-- A row put in front of the rows of a tree. -/
def insert : ByteRow → ByteTree → ByteTree
  | [], _ => accept
  | r :: row, way s child more =>
    if r = s then way s (insert row child) more else way r (insert row done) (way s child more)
  | r :: row, _ => way r (insert row done) done

/-- Rows as a tree. -/
def ofRows (rows : List ByteRow) : ByteTree := rows.foldr insert done

end ByteTree

/-- What two ranges have in common holds the code points of both. -/
theorem CodeRange.any_meet {r s : CodeRange} {n : Nat} :
    (r.meet s).any (·.contains n) = (r.contains n && s.contains n) := by
  have hmax : Nat.max r.first s.first ≤ n ↔ r.first ≤ n ∧ s.first ≤ n := Nat.max_le
  have hmin : n ≤ Nat.min r.last s.last ↔ n ≤ r.last ∧ n ≤ s.last := Nat.le_min
  rw [Bool.eq_iff_iff]
  simp only [meet, CodeRange.contains, Bool.and_eq_true, decide_eq_true_eq]
  split
  · simp only [List.any_cons, List.any_nil, Bool.or_false, Bool.and_eq_true, decide_eq_true_eq,
      hmax, hmin]
    omega
  · simp only [List.any_nil, Bool.false_eq_true, false_iff]
    omega

end PathRouting.Regex
