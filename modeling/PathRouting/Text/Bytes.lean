/-!
# UTF-8

Texts are lists of characters; positions in paths, though, count the bytes of their UTF-8
form, and percent escapes stand for such bytes.

## Main definitions

* `byteLength` — the number of bytes of a text.
* `Bytes`, `Bytes.cut` — a stretch of bytes, and what a text holds there.
* `utf8`, `ofUtf8?` — a text as bytes, and the text that bytes spell.
-/

namespace PathRouting.Text

/-- The number of bytes of a text in UTF-8. -/
def byteLength : List Char → Nat
  | [] => 0
  | c :: s => c.utf8Size + byteLength s

@[simp] theorem byteLength_nil : byteLength [] = 0 := rfl

@[simp] theorem byteLength_cons (c : Char) (s : List Char) :
    byteLength (c :: s) = c.utf8Size + byteLength s := rfl

@[simp] theorem byteLength_append (s t : List Char) :
    byteLength (s ++ t) = byteLength s + byteLength t := by
  induction s with
  | nil => simp
  | cons c s ih => simp [ih, Nat.add_assoc]

/-- A stretch of bytes of a text. -/
structure Bytes where
  /-- The first byte. -/
  start : Nat
  /-- The byte after the last one. -/
  stop : Nat
  deriving DecidableEq, Repr

/-- A text without its first `n` bytes. -/
def dropBytes (n : Nat) : List Char → List Char
  | [] => []
  | c :: s => if n = 0 then c :: s else dropBytes (n - c.utf8Size) s

/-- The first `n` bytes of a text. -/
def takeBytes (n : Nat) : List Char → List Char
  | [] => []
  | c :: s => if n = 0 then [] else c :: takeBytes (n - c.utf8Size) s

/-- What a text holds in a stretch that starts and ends between two characters. -/
def Bytes.cut (b : Bytes) (s : List Char) : List Char :=
  takeBytes (b.stop - b.start) (dropBytes b.start s)

@[simp] theorem dropBytes_zero (s : List Char) : dropBytes 0 s = s := by cases s <;> rfl

@[simp] theorem takeBytes_zero (s : List Char) : takeBytes 0 s = [] := by cases s <;> rfl

/-- Without the bytes of its first part a text is its second part. -/
@[simp] theorem dropBytes_append (s t : List Char) : dropBytes (byteLength s) (s ++ t) = t := by
  induction s with
  | nil => exact dropBytes_zero t
  | cons c s ih =>
    have hc := c.utf8Size_pos
    rw [List.cons_append, dropBytes, byteLength_cons, if_neg (by omega), Nat.add_sub_cancel_left,
      ih]

/-- With the bytes of its first part a text is its first part. -/
@[simp] theorem takeBytes_append (s t : List Char) : takeBytes (byteLength s) (s ++ t) = s := by
  induction s with
  | nil => exact takeBytes_zero t
  | cons c s ih =>
    have hc := c.utf8Size_pos
    rw [List.cons_append, takeBytes, byteLength_cons, if_neg (by omega), Nat.add_sub_cancel_left,
      ih]

/-- What stands between two parts of a text is in the stretch between them. -/
theorem Bytes.cut_append (before s after : List Char) :
    (⟨byteLength before, byteLength before + byteLength s⟩ : Bytes).cut (before ++ (s ++ after))
      = s := by
  rw [cut, dropBytes_append, Nat.add_sub_cancel_left, takeBytes_append]

/-- The bytes of a text in UTF-8. -/
def utf8 (s : List Char) : List UInt8 := s.flatMap String.utf8EncodeChar

/-- The text that bytes spell in UTF-8, if they do. -/
def ofUtf8? (bytes : List UInt8) : Option (List Char) :=
  bytes.toByteArray.utf8Decode?.map Array.toList

@[simp] theorem utf8_nil : utf8 [] = [] := rfl

@[simp] theorem utf8_cons (c : Char) (s : List Char) :
    utf8 (c :: s) = String.utf8EncodeChar c ++ utf8 s := rfl

/-- Bytes written from a text spell that text. -/
@[simp] theorem ofUtf8?_utf8 (s : List Char) : ofUtf8? (utf8 s) = some s := by
  have h : (utf8 s).toByteArray = s.utf8Encode := rfl
  simp [ofUtf8?, h]

end PathRouting.Text
