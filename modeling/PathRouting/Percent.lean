import PathRouting.Text.Bytes
import PathRouting.Text.Property

/-!
# Percent escapes

An escape is a `%` with two hexadecimal digits and stands for one byte; the bytes of a text,
escapes replaced, have to spell a text again.

## Main definitions

* `Percent.Fault` — why a text cannot be decoded, and where.
* `Percent.octets` — the bytes of a text with its escapes replaced.
* `Percent.decode` — the text that those bytes spell.
* `Percent.encode` — a text with chosen characters escaped.
-/

namespace PathRouting.Percent

open Text

/-- What is wrong with an escaped text. -/
inductive Cause
  /-- A `%` without two hexadecimal digits. -/
  | malformedEscape
  /-- All escapes are well formed, but the bytes are no UTF-8. -/
  | invalidUtf8
  deriving DecidableEq, Repr

/-- Why a piece of a path cannot be decoded. -/
structure Fault where
  /-- The piece that was to be decoded. -/
  piece : List Char
  /-- The byte position of the offending `%` in the whole path. -/
  position : Nat
  /-- What is wrong. -/
  cause : Cause
  deriving DecidableEq, Repr

/-- The byte that two hexadecimal digits spell. -/
def byteOf? (high low : Char) : Option UInt8 :=
  match hexValue? high, hexValue? low with
  | some h, some l => some (UInt8.ofNat (16 * h + l))
  | _, _ => none

/-- The bytes of a text that starts at byte `position`, escapes replaced; otherwise the
position of the first `%` that starts no escape. -/
def octets : List Char → Nat → Except Nat (List UInt8)
  | [], _ => .ok []
  | c :: s, position =>
    if c = '%' then
      match s with
      | high :: low :: rest =>
        match byteOf? high low with
        | some b => (octets rest (position + 3)).map (b :: ·)
        | none => .error position
      | _ => .error position
    else (octets s (position + c.utf8Size)).map (String.utf8EncodeChar c ++ ·)

/-- The byte position of the first `%` of a text that starts at byte `position`. -/
def firstEscape (s : List Char) (position : Nat) : Nat :=
  position + byteLength (s.takeWhile (· ≠ '%'))

/-- The text that a piece stands for, the piece starting at byte `position` of the path. -/
def decode (piece : List Char) (position : Nat) : Except Fault (List Char) :=
  match octets piece position with
  | .error fault => .error ⟨piece, fault, .malformedEscape⟩
  | .ok bytes =>
    match ofUtf8? bytes with
    | some text => .ok text
    | none => .error ⟨piece, firstEscape piece position, .invalidUtf8⟩

/-- The hexadecimal digit of a number below sixteen. -/
def hexDigit (n : Nat) : Char :=
  if n < 10 then Char.ofNat ('0'.toNat + n) else Char.ofNat ('A'.toNat + (n - 10))

/-- The escape of a byte. -/
def escapeByte (b : UInt8) : List Char := ['%', hexDigit (b.toNat / 16), hexDigit (b.toNat % 16)]

/-- The escapes of the bytes of a character. -/
def escapeChar (c : Char) : List Char := (String.utf8EncodeChar c).flatMap escapeByte

/-- A text with the characters that `escaped` selects written as escapes. -/
def encode (escaped : Char → Bool) (s : List Char) : List Char :=
  s.flatMap fun c => if escaped c then escapeChar c else [c]

@[simp] theorem octets_nil (position : Nat) : octets [] position = .ok [] := rfl

theorem octets_cons {c : Char} (hc : c ≠ '%') (s : List Char) (position : Nat) :
    octets (c :: s) position
      = (octets s (position + c.utf8Size)).map (String.utf8EncodeChar c ++ ·) := by
  conv => lhs; unfold octets
  rw [if_neg hc]

/-- A text without `%` has the bytes of its characters. -/
theorem octets_eq_utf8 {s : List Char} (hs : '%' ∉ s) (position : Nat) :
    octets s position = .ok (utf8 s) := by
  induction s generalizing position with
  | nil => rfl
  | cons c s ih =>
    rw [List.mem_cons, not_or] at hs
    rw [octets_cons (Ne.symm hs.1), ih hs.2]
    rfl

/-- A text without `%` stands for itself. -/
theorem decode_eq_self {s : List Char} (hs : '%' ∉ s) (position : Nat) :
    decode s position = .ok s := by
  simp [decode, octets_eq_utf8 hs]

end PathRouting.Percent
