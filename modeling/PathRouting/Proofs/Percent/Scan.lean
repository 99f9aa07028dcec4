import PathRouting.Proofs.Percent

/-!
# Scanning for escapes and replacing them

Decoding a piece takes two things together: a scan from left to right that sees whether every `%`
starts an escape, and the bytes that are left when each escape gives way to the byte it stands for.
Here they are told apart.  The replacement takes any text, and leaves a `%` as it is that starts no
escape; for a text that the scan lets through, both agree on where the escapes are.

## Main definitions

* `WellEscaped` — whether every `%` that the scan meets starts an escape.
* `replaced` — the bytes of a text, escapes replaced.
* `FaultyAfter` — what keeps a piece from being decoded, and the text before the `%` to blame.

## Main results

* `wellEscaped_or_malformed` — the scan comes to the end, or to a first `%` without digits.
* `decode_exact` — which pieces are decoded, and as what.
* `decode_eq_error_iff` — where a piece that is not decoded is at fault.
-/

namespace PathRouting

open Text

/-- A text has as many bytes as its length in bytes says. -/
theorem Text.length_utf8 (s : List Char) : (utf8 s).length = byteLength s := by
  induction s with
  | nil => rfl
  | cons c s ih => rw [utf8_cons, List.length_append, String.length_utf8EncodeChar, ih,
      byteLength_cons]

/-- Bytes spell a text just when they are its bytes. -/
theorem Text.ofUtf8?_eq_some_iff {bytes : List UInt8} {s : List Char} :
    ofUtf8? bytes = some s ↔ utf8 s = bytes := by
  constructor
  · intro h
    obtain ⟨chars, hchars, rfl⟩ := Option.map_eq_some_iff.mp h
    have hsome : bytes.toByteArray.utf8Decode?.isSome = true := by simp [hchars]
    have hbytes := ByteArray.utf8Encode_get_utf8Decode? (h := hsome)
    simp only [hchars, Option.get_some] at hbytes
    have hdata := congrArg (fun b : ByteArray => b.data.toList) hbytes
    simpa [utf8, List.utf8Encode] using hdata
  · rintro rfl
    exact ofUtf8?_utf8 s

namespace Percent

/-- Whether a text starts with the two digits of an escape. -/
def StartsWithDigits (s : List Char) : Prop :=
  ∃ high low rest, s = high :: low :: rest ∧ isHexDigit high = true ∧ isHexDigit low = true

/-- Whether every `%` that a scan from left to right meets is followed by two digits.  The scan
goes on after the digits. -/
inductive WellEscaped : List Char → Prop
  /-- The scan is at the end. -/
  | nil : WellEscaped []
  /-- A character that is no `%`. -/
  | plain {c : Char} {s : List Char} (ne : c ≠ '%') (rest : WellEscaped s) : WellEscaped (c :: s)
  /-- A `%` with its two digits. -/
  | escape {high low : Char} {s : List Char} (highDigit : isHexDigit high = true)
      (lowDigit : isHexDigit low = true) (rest : WellEscaped s) :
      WellEscaped ('%' :: high :: low :: s)

/-- The bytes of a text, with every escape replaced by its byte in one pass from left to right.  A
`%` that starts no escape stays. -/
def replaced : List Char → List UInt8
  | [] => []
  | c :: s =>
    if c = '%' then
      match s with
      | high :: low :: rest =>
        match byteOf? high low with
        | some b => b :: replaced rest
        | none => String.utf8EncodeChar c ++ replaced (high :: low :: rest)
      | rest => String.utf8EncodeChar c ++ utf8 rest
    else String.utf8EncodeChar c ++ replaced s

/-- What keeps a piece from being decoded, told by the text before the `%` that is to blame. -/
inductive FaultyAfter (piece : List Char) : List Char → Cause → Prop
  /-- The first `%` that is not followed by two digits. -/
  | malformed {front back : List Char} (split : piece = front ++ '%' :: back)
      (scanned : WellEscaped front) (noDigits : ¬StartsWithDigits back) :
      FaultyAfter piece front .malformedEscape
  /-- The first `%` of all, where every escape is well formed but the bytes spell no text. -/
  | noText {front back : List Char} (split : piece = front ++ '%' :: back)
      (first : '%' ∉ front) (scanned : WellEscaped piece)
      (noText : ∀ text, utf8 text ≠ replaced piece) : FaultyAfter piece front .invalidUtf8

/-! ### Replacing -/

section Replacing

variable {s front back piece text : List Char} {c high low : Char} {b : UInt8} {position : Nat}

@[simp] theorem replaced_nil : replaced [] = [] := rfl

theorem replaced_plain (hc : c ≠ '%') (s : List Char) :
    replaced (c :: s) = String.utf8EncodeChar c ++ replaced s := by
  conv => lhs; unfold replaced
  rw [if_neg hc]

theorem replaced_escape (hb : byteOf? high low = some b) (s : List Char) :
    replaced ('%' :: high :: low :: s) = b :: replaced s := by
  rw [replaced, if_pos rfl]
  simp only [hb]

/-- Two digits spell a byte. -/
theorem exists_byteOf? (hhigh : isHexDigit high = true) (hlow : isHexDigit low = true) :
    ∃ b, byteOf? high low = some b := by
  obtain ⟨h, hh⟩ := Option.isSome_iff_exists.mp hhigh
  obtain ⟨l, hl⟩ := Option.isSome_iff_exists.mp hlow
  exact ⟨UInt8.ofNat (16 * h + l), by rw [byteOf?, hh, hl]⟩

theorem utf8Size_of_isHexDigit (h : isHexDigit c = true) : c.utf8Size = 1 :=
  Char.utf8Size_eq_one_iff.mpr (Nat.le_of_lt_succ (toNat_lt_of_isHexDigit h))

/-- An escape is three bytes long. -/
theorem byteLength_escape (hhigh : isHexDigit high = true) (hlow : isHexDigit low = true)
    (s : List Char) : byteLength ('%' :: high :: low :: s) = 3 + byteLength s := by
  have hpercent : '%'.utf8Size = 1 := rfl
  simp only [byteLength_cons, hpercent, utf8Size_of_isHexDigit hhigh, utf8Size_of_isHexDigit hlow]
  omega

/-- Without `%` there is nothing to replace. -/
theorem replaced_eq_utf8 (hs : '%' ∉ s) : replaced s = utf8 s := by
  induction s with
  | nil => rfl
  | cons c s ih =>
    rw [List.mem_cons, not_or] at hs
    rw [replaced_plain (Ne.symm hs.1), ih hs.2, utf8_cons]

/-! ### Scanning -/

theorem octets_escape (hb : byteOf? high low = some b) (s : List Char) (position : Nat) :
    octets ('%' :: high :: low :: s) position = (octets s (position + 3)).map (b :: ·) := by
  simp [octets, hb]

/-- A `%` without digits is blamed where it stands. -/
theorem octets_percent (hback : ¬StartsWithDigits back) (position : Nat) :
    octets ('%' :: back) position = .error position := by
  rcases back with _ | ⟨high, _ | ⟨low, rest⟩⟩
  · rfl
  · rfl
  · rcases hb : byteOf? high low with _ | b
    · simp [octets, hb]
    · exact absurd ⟨high, low, rest, rfl, isHexDigit_of_byteOf? hb⟩ hback

/-- A text that the scan lets through has its escapes replaced. -/
theorem octets_of_wellEscaped (h : WellEscaped s) (position : Nat) :
    octets s position = .ok (replaced s) := by
  induction h generalizing position with
  | nil => rfl
  | plain ne _ ih =>
    rw [octets_cons ne, ih, replaced_plain ne]
    rfl
  | escape highDigit lowDigit _ ih =>
    obtain ⟨b, hb⟩ := exists_byteOf? highDigit lowDigit
    rw [octets_escape hb, ih, replaced_escape hb]
    rfl

/-- A text that the scan does not let through is blamed at the first `%` without digits. -/
theorem octets_of_malformed (h : WellEscaped front) (hback : ¬StartsWithDigits back)
    (position : Nat) :
    octets (front ++ '%' :: back) position = .error (position + byteLength front) := by
  induction h generalizing position with
  | nil => exact octets_percent hback position
  | plain ne _ ih =>
    rw [List.cons_append, octets_cons ne, ih, byteLength_cons, Nat.add_assoc]
    rfl
  | @escape high low s highDigit lowDigit _ ih =>
    obtain ⟨b, hb⟩ := exists_byteOf? highDigit lowDigit
    simp only [List.cons_append]
    rw [octets_escape hb, ih, byteLength_escape highDigit lowDigit, Nat.add_assoc]
    rfl

/-- **The scan comes to the end, or to a first `%` without digits.** -/
theorem wellEscaped_or_malformed (s : List Char) : WellEscaped s ∨
    ∃ front back, s = front ++ '%' :: back ∧ WellEscaped front ∧ ¬StartsWithDigits back := by
  fun_induction replaced s with
  | case1 => exact .inl .nil
  | case2 high low rest b hb ih =>
    obtain ⟨hhigh, hlow⟩ := isHexDigit_of_byteOf? hb
    rcases ih with hrest | ⟨front, back, rfl, hfront, hback⟩
    · exact .inl (.escape hhigh hlow hrest)
    · exact .inr ⟨'%' :: high :: low :: front, back, rfl, .escape hhigh hlow hfront, hback⟩
  | case3 high low rest hb _ =>
    refine .inr ⟨[], high :: low :: rest, rfl, .nil, ?_⟩
    rintro ⟨_, _, _, heq, hhigh, hlow⟩
    obtain ⟨rfl, rfl, rfl⟩ : high = _ ∧ low = _ ∧ rest = _ := by simpa using heq
    obtain ⟨b, hb'⟩ := exists_byteOf? hhigh hlow
    simp [hb] at hb'
  | case4 s hshort =>
    refine .inr ⟨[], s, rfl, .nil, ?_⟩
    rintro ⟨high, low, rest, heq, -, -⟩
    exact hshort high low rest heq
  | case5 c s hc ih =>
    rcases ih with hrest | ⟨front, back, rfl, hfront, hback⟩
    · exact .inl (.plain hc hrest)
    · exact .inr ⟨c :: front, back, rfl, .plain hc hfront, hback⟩

/-- Every escape gives way to one byte, so the bytes become fewer by two. -/
theorem length_replaced (h : WellEscaped s) :
    (replaced s).length + 2 * s.count '%' = byteLength s := by
  induction h with
  | nil => rfl
  | plain ne _ ih =>
    rw [replaced_plain ne, List.length_append, String.length_utf8EncodeChar,
      List.count_cons_of_ne ne, byteLength_cons]
    omega
  | @escape high low s highDigit lowDigit _ ih =>
    obtain ⟨b, hb⟩ := exists_byteOf? highDigit lowDigit
    have hne : ∀ d, isHexDigit d = true → d ≠ '%' := by
      rintro d hd rfl
      exact absurd hd (by decide)
    rw [replaced_escape hb, List.count_cons_self, List.count_cons_of_ne (hne high highDigit),
      List.count_cons_of_ne (hne low lowDigit), byteLength_escape highDigit lowDigit,
      List.length_cons]
    omega

/-! ### Decoding -/

/-- A piece that the scan lets through is decoded as the text that its bytes spell, if they do. -/
theorem decode_of_wellEscaped (h : WellEscaped piece) (position : Nat) : decode piece position
      = match ofUtf8? (replaced piece) with
        | some text => .ok text
        | none => .error ⟨piece, firstEscape piece position, .invalidUtf8⟩ := by
  rcases htext : ofUtf8? (replaced piece) with _ | text
  · simp only [decode, octets_of_wellEscaped h, htext]
  · simp only [decode, octets_of_wellEscaped h, htext]

/-- Which pieces are decoded, and as what. -/
theorem decode_eq_ok_iff :
    decode piece position = .ok text ↔ WellEscaped piece ∧ utf8 text = replaced piece := by
  rcases wellEscaped_or_malformed piece with hscan | ⟨front, back, rfl, hfront, hback⟩
  · rw [decode_of_wellEscaped hscan, ← ofUtf8?_eq_some_iff]
    rcases ofUtf8? (replaced piece) with _ | text' <;> simp [hscan]
  · have hoctets := octets_of_malformed hfront hback position
    constructor
    · intro h
      simp [decode, hoctets] at h
    · rintro ⟨hscan, -⟩
      rw [octets_of_wellEscaped hscan] at hoctets
      simp at hoctets

/-- A piece stands for itself just when there is nothing to decode. -/
theorem decode_eq_self_iff : decode piece position = .ok piece ↔ '%' ∉ piece := by
  constructor
  · intro h
    obtain ⟨hscan, hbytes⟩ := decode_eq_ok_iff.mp h
    have hlength := length_replaced hscan
    rw [← hbytes, length_utf8] at hlength
    exact List.count_eq_zero.mp (by omega)
  · intro h
    exact decode_eq_self h position

/-- A piece is blamed for what keeps it from being decoded, at the place of the `%`. -/
theorem decode_of_faultyAfter {cause : Cause} (h : FaultyAfter piece front cause)
    (position : Nat) :
    decode piece position = .error ⟨piece, position + byteLength front, cause⟩ := by
  cases h with
  | malformed split scanned noDigits =>
    subst split
    rw [decode, octets_of_malformed scanned noDigits]
  | noText split first scanned noText =>
    have hnone : ofUtf8? (replaced piece) = none :=
      Option.eq_none_iff_forall_ne_some.mpr fun text htext =>
        noText text (ofUtf8?_eq_some_iff.mp htext)
    have hfront : piece.takeWhile (· ≠ '%') = front := by
      have hpos : ∀ c ∈ front, decide (c ≠ '%') = true := by
        intro c hc
        simpa using fun heq : c = '%' => first (heq ▸ hc)
      rw [split, List.takeWhile_append_of_pos hpos]
      simp
    rw [decode_of_wellEscaped scanned, hnone, firstEscape, hfront]

/-- A piece is decoded, or something keeps it from being decoded. -/
theorem decoded_or_faulty (piece : List Char) :
    (∃ text, ∀ position, decode piece position = .ok text) ∨
      ∃ front cause, FaultyAfter piece front cause := by
  rcases wellEscaped_or_malformed piece with hscan | ⟨front, back, hsplit, hfront, hback⟩
  · by_cases htext : ∃ text, utf8 text = replaced piece
    · obtain ⟨text, htext⟩ := htext
      exact .inl ⟨text, fun position => decode_eq_ok_iff.mpr ⟨hscan, htext⟩⟩
    · have hmem : '%' ∈ piece := by
        refine Decidable.not_not.mp fun hnot => htext ⟨piece, ?_⟩
        rw [replaced_eq_utf8 hnot]
      obtain ⟨front, back, hsplit, hfirst⟩ := List.eq_append_cons_of_mem hmem
      exact .inr ⟨front, _, .noText hsplit hfirst hscan (not_exists.mp htext)⟩
  · exact .inr ⟨front, _, .malformed hsplit hfront hback⟩

/-- **A piece that is not decoded is blamed for what keeps it from being decoded**, at the place of
the `%`. -/
theorem decode_eq_error_iff {fault : Fault} : decode piece position = .error fault ↔
    fault.piece = piece ∧ ∃ front, FaultyAfter piece front fault.cause ∧
      fault.position = position + byteLength front := by
  constructor
  · intro h
    rcases decoded_or_faulty piece with ⟨text, htext⟩ | ⟨front, cause, hfaulty⟩
    · rw [htext] at h
      simp at h
    · rw [decode_of_faultyAfter hfaulty] at h
      obtain rfl := Except.error.inj h
      exact ⟨rfl, front, hfaulty, rfl⟩
  · rintro ⟨rfl, front, hfaulty, hposition⟩
    rw [decode_of_faultyAfter hfaulty, ← hposition]

/-- **Decoding is exact.**  A piece is decoded just when every `%` that a scan meets is followed by
two digits and the bytes with its escapes replaced spell a text, and then it is decoded as this text.
So any text is found again that was written with some of its characters as escapes, among them every
`%`. -/
theorem decode_exact (piece text : List Char) (position : Nat) :
    (decode piece position = .ok text ↔ WellEscaped piece ∧ utf8 text = replaced piece) ∧
      ∀ escaped, Encodes (· = '%') text escaped → decode escaped position = .ok text :=
  ⟨decode_eq_ok_iff, fun _ h => decode_of_encodes (by decide) h position⟩

/-- An escaped `%` before two digits, and a character of two bytes with digits in either case. -/
theorem decode_exact_twice :
    Encodes (· = '%') ['%', '4', '1', 'é'] "%2541%c3%A9".toList ∧
      decode "%2541%c3%A9".toList 7 = .ok ['%', '4', '1', 'é'] ∧
      WellEscaped "%2541%c3%A9".toList ∧
      utf8 ['%', '4', '1', 'é'] = replaced "%2541%c3%A9".toList := by
  have hpercent : Escapes (String.utf8EncodeChar '%') ['%', '2', '5'] :=
    .cons rfl .nil
  have hletter : Escapes (String.utf8EncodeChar 'é') ['%', 'c', '3', '%', 'A', '9'] :=
    .cons rfl (.cons rfl .nil)
  have hencodes : Encodes (· = '%') ['%', '4', '1', 'é'] "%2541%c3%A9".toList :=
    .escaped '%' hpercent (.plain '4' rfl (.plain '1' rfl (.escaped 'é' hletter .nil)))
  obtain ⟨hiff, hround⟩ := decode_exact "%2541%c3%A9".toList ['%', '4', '1', 'é'] 7
  have hdecode := hround _ hencodes
  exact ⟨hencodes, hdecode, hiff.mp hdecode⟩

end Replacing

end Percent
end PathRouting
