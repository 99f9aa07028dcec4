import PathRouting.Percent

/-!
# Escapes stand for what was escaped

A text may be written with some of its characters as escapes in many ways: which characters are
escaped is up to the writer, apart from those that have to be, and so is the case of the digits.
All of these ways are read as the text.

## Main definitions

* `Escapes` — escapes of given bytes.
* `Encodes` — a text as another one with escapes.

## Main results

* `decode_of_encodes` — a text with escapes is read as the text it was written for.
* `mem_of_encodes` — which characters a text with escapes is made of.
* `encodes_encode` — `encode` is one of the ways to write a text.
-/

namespace PathRouting.Percent

open Text

/-! ### Digits -/

/-- No digit is beyond ASCII. -/
theorem toNat_lt_of_isHexDigit {c : Char} (h : isHexDigit c = true) : c.toNat < 128 := by
  have hle : ∀ d : Char, c ≤ d → c.toNat ≤ d.toNat := fun _ hd => hd
  unfold isHexDigit hexValue? at h
  split at h
  · next hc => exact Nat.lt_of_le_of_lt (hle '9' hc.2) (by decide)
  split at h
  · next hc => exact Nat.lt_of_le_of_lt (hle 'f' hc.2) (by decide)
  split at h
  · next hc => exact Nat.lt_of_le_of_lt (hle 'F' hc.2) (by decide)
  · simp at h

theorem isAlphanumeric_of_isHexDigit {c : Char} (h : isHexDigit c = true) :
    isAlphanumeric c = true := by
  have hascii : ∀ n < 128, isHexDigit (Char.ofNat n) = true →
      isAlphanumeric (Char.ofNat n) = true := by decide +kernel
  have hchar := hascii c.toNat (toNat_lt_of_isHexDigit h)
  rw [Char.ofNat_toNat] at hchar
  exact hchar h

theorem hexValue?_hexDigit : ∀ n < 16, hexValue? (hexDigit n) = some n := by
  decide

/-- The digits of a byte spell it. -/
theorem byteOf?_hexDigit (b : UInt8) :
    byteOf? (hexDigit (b.toNat / 16)) (hexDigit (b.toNat % 16)) = some b := by
  have hbound : b.toNat < 256 := UInt8.toNat_lt b
  rw [byteOf?, hexValue?_hexDigit _ (by omega), hexValue?_hexDigit _ (by omega)]
  simp only [Nat.div_add_mod, UInt8.ofNat_toNat]

theorem isHexDigit_of_byteOf? {high low : Char} {b : UInt8} (h : byteOf? high low = some b) :
    isHexDigit high = true ∧ isHexDigit low = true := by
  unfold byteOf? at h
  split at h
  · next hhigh hlow => simp [isHexDigit, hhigh, hlow]
  · simp at h

/-! ### Escapes -/

/-- Whether a text is made of escapes that stand for the given bytes, one after the other. -/
inductive Escapes : List UInt8 → List Char → Prop
  /-- No escape. -/
  | nil : Escapes [] []
  /-- One escape more. -/
  | cons {b : UInt8} {bytes : List UInt8} {high low : Char} {s : List Char}
      (byte : byteOf? high low = some b) (rest : Escapes bytes s) :
      Escapes (b :: bytes) ('%' :: high :: low :: s)

/-- The bytes of escapes come before those of the text after them. -/
theorem octets_append {bytes bytes' : List UInt8} {s t : List Char} (h : Escapes bytes s)
    (ht : ∀ position, octets t position = .ok bytes') (position : Nat) :
    octets (s ++ t) position = .ok (bytes ++ bytes') := by
  induction h generalizing position with
  | nil => exact ht position
  | cons byte _ ih =>
    simp only [List.cons_append]
    rw [octets, if_pos rfl]
    simp only [byte, ih]
    rfl

theorem mem_of_escapes {bytes : List UInt8} {s : List Char} (h : Escapes bytes s) {d : Char}
    (hd : d ∈ s) : d = '%' ∨ isHexDigit d = true := by
  induction h with
  | nil => simp at hd
  | cons byte _ ih =>
    obtain ⟨hhigh, hlow⟩ := isHexDigit_of_byteOf? byte
    simp only [List.mem_cons] at hd
    rcases hd with rfl | rfl | rfl | hd
    · exact .inl rfl
    · exact .inr hhigh
    · exact .inr hlow
    · exact ih hd

theorem escapes_flatMap_escapeByte (bytes : List UInt8) :
    Escapes bytes (bytes.flatMap escapeByte) := by
  induction bytes with
  | nil => exact .nil
  | cons b bytes ih => exact .cons (byteOf?_hexDigit b) ih

/-- A character has a byte, and its escapes are not nothing. -/
theorem ne_nil_of_escapes {c : Char} {s : List Char} (h : Escapes (String.utf8EncodeChar c) s) :
    s ≠ [] := by
  rintro rfl
  have hbytes : String.utf8EncodeChar c = [] := by
    generalize String.utf8EncodeChar c = bytes at h
    cases h
    rfl
  have hlength := String.length_utf8EncodeChar c
  have hsize := c.utf8Size_pos
  rw [hbytes, List.length_nil] at hlength
  omega

/-! ### Texts with escapes -/

/-- Whether the second text is the first one with some of its characters written as escapes, among
them all those that `must` selects. -/
inductive Encodes (must : Char → Bool) : List Char → List Char → Prop
  /-- Nothing is written for the empty text. -/
  | nil : Encodes must [] []
  /-- A character that stands for itself. -/
  | plain (c : Char) {s t : List Char} (allowed : must c = false) (rest : Encodes must s t) :
      Encodes must (c :: s) (c :: t)
  /-- A character written as the escapes of its bytes. -/
  | escaped (c : Char) {e s t : List Char} (escapes : Escapes (String.utf8EncodeChar c) e)
      (rest : Encodes must s t) : Encodes must (c :: s) (e ++ t)

section Encodes

variable {must : Char → Bool} {s t : List Char}

/-- The bytes of a text with escapes are those of the text. -/
theorem octets_of_encodes (hmust : must '%' = true) (h : Encodes must s t) (position : Nat) :
    octets t position = .ok (utf8 s) := by
  induction h generalizing position with
  | nil => rfl
  | plain c allowed _ ih =>
    have hc : c ≠ '%' := by
      rintro rfl
      simp [hmust] at allowed
    rw [octets_cons hc, ih]
    rfl
  | escaped c escapes _ ih => exact octets_append escapes ih position

/-- **A text with escapes is read as the text that it was written for.** -/
theorem decode_of_encodes (hmust : must '%' = true) (h : Encodes must s t) (position : Nat) :
    decode t position = .ok s := by
  simp [decode, octets_of_encodes hmust h]

/-- A text with escapes is made of `%`, digits, and characters that may stand for themselves. -/
theorem mem_of_encodes (h : Encodes must s t) {d : Char} (hd : d ∈ t) :
    d = '%' ∨ isHexDigit d = true ∨ must d = false := by
  induction h with
  | nil => simp at hd
  | plain c allowed _ ih =>
    rcases List.mem_cons.mp hd with rfl | hd
    · exact .inr (.inr allowed)
    · exact ih hd
  | escaped c escapes _ ih =>
    rcases List.mem_append.mp hd with hd | hd
    · exact (mem_of_escapes escapes hd).imp_right .inl
    · exact ih hd

/-- Something is written for a text that is not empty. -/
theorem ne_nil_of_encodes (h : Encodes must s t) (hs : s ≠ []) : t ≠ [] := by
  cases h with
  | nil => exact absurd rfl hs
  | plain c _ _ => exact List.cons_ne_nil c _
  | escaped c escapes _ =>
    exact List.append_ne_nil_of_left_ne_nil (ne_nil_of_escapes escapes) _

/-- `encode` writes a text with escapes. -/
theorem encodes_encode (must : Char → Bool) (s : List Char) : Encodes must s (encode must s) := by
  induction s with
  | nil => exact .nil
  | cons c s ih =>
    show Encodes must (c :: s) ((if must c then escapeChar c else [c]) ++ encode must s)
    split
    · exact .escaped c (escapes_flatMap_escapeByte _) ih
    · next hc => exact .plain c (by simpa using hc) ih

end Encodes

end PathRouting.Percent
