import PathRouting.Proofs.Regex.Most

/-!
# The room for a character of a set

A set that has a character has a row of as many byte ranges as that character has bytes.  So it never
takes less room than the character by itself.

## Main results

* `CharSet.exists_row` — a set has a row for each of its characters.
* `CharSet.le_least` — what a set takes at least, compared with one of its characters.
-/

namespace PathRouting.Regex

open Text

/-! ### Rows -/

/-- The number of bytes of a character by its code point. -/
theorem utf8Size_eq (c : Char) : c.utf8Size = if c.toNat ≤ 0x7F then 1 else
    if c.toNat ≤ 0x7FF then 2 else if c.toNat ≤ 0xFFFF then 3 else 4 := by
  simp only [Char.utf8Size, UInt32.le_iff_toNat_le]
  rfl

namespace CodeRange

/-- Whether a range lies within another one and has a member. -/
structure Within (r s : CodeRange) : Prop where
  /-- It does not start earlier. -/
  first : s.first ≤ r.first
  /-- It has a member. -/
  nonempty : r.first ≤ r.last
  /-- It does not end later. -/
  last : r.last ≤ s.last

variable {r s t : CodeRange} {n : Nat}

theorem Within.trans (h : r.Within s) (h' : s.Within t) : r.Within t :=
  ⟨Nat.le_trans h'.first h.first, h.nonempty, Nat.le_trans h.last h'.last⟩

theorem contains_iff : r.contains n = true ↔ r.first ≤ n ∧ n ≤ r.last := by
  simp [contains]

/-- A range that is cut has a part: one that starts within a block, or else whole blocks, or else one
that ends within a block. -/
theorem exists_cut (size : Nat) (hsize : size ∈ [0x40, 0x1000, 0x40000])
    (h : r.first ≤ r.last) : ∃ p ∈ r.cut size, p.Within r := by
  have hblocks : size = 0x40 ∨ size = 0x1000 ∨ size = 0x40000 := by simpa using hsize
  by_cases hsame : r.first / size = r.last / size
  · refine ⟨r, ?_, Nat.le_refl _, h, Nat.le_refl _⟩
    rw [cut, if_pos hsame]
    exact List.mem_singleton_self r
  simp only [cut, if_neg hsame, List.mem_append]
  by_cases hfront : r.first < (r.first + size - 1) / size * size
  · refine ⟨_, .inl (.inl (by rw [if_pos hfront]; exact List.mem_singleton_self _)), ?_⟩
    constructor <;> dsimp only <;> rcases hblocks with rfl | rfl | rfl <;> omega
  by_cases hback : (r.first + size - 1) / size * size < (r.last + 1) / size * size
  · refine ⟨_, .inl (.inr (by rw [if_pos hback]; exact List.mem_singleton_self _)), ?_⟩
    constructor <;> dsimp only <;> rcases hblocks with rfl | rfl | rfl <;> omega
  · have hlast : (r.last + 1) / size * size ≤ r.last := by
      rcases hblocks with rfl | rfl | rfl <;> omega
    refine ⟨_, .inr (by rw [if_pos hlast]; exact List.mem_singleton_self _), ?_⟩
    constructor <;> dsimp only <;> rcases hblocks with rfl | rfl | rfl <;> omega

/-- A range in pieces has one. -/
theorem exists_piece (h : r.first ≤ r.last) : ∃ p ∈ r.pieces, p.Within r := by
  rw [pieces]
  split
  · exact ⟨r, List.mem_singleton_self r, Nat.le_refl _, h, Nat.le_refl _⟩
  · obtain ⟨p, hp, hpr⟩ := exists_cut 0x40 (by simp) h
    obtain ⟨p', hp', hpp⟩ := exists_cut 0x1000 (by simp) hpr.nonempty
    obtain ⟨p'', hp'', hppp⟩ := exists_cut 0x40000 (by simp) hpp.nonempty
    exact ⟨p'', List.mem_flatMap.mpr ⟨p', List.mem_flatMap.mpr ⟨p, hp, hp'⟩, hp''⟩,
      hppp.trans (hpp.trans hpr)⟩

/-- The code points of characters of the same number of bytes. -/
theorem exists_sameLength (c : Char) : ∃ s ∈ sameLength, s.contains c.toNat = true ∧
    ∀ n, s.contains n = true → (charOf n).utf8Size = c.utf8Size := by
  have hvalid : c.toNat < 0xD800 ∨ 0xDFFF < c.toNat ∧ c.toNat < 0x110000 := c.valid
  have hcharOf {n : Nat} (hn : n < 0xD800 ∨ 0xDFFF < n ∧ n < 0x110000) : (charOf n).toNat = n := by
    rw [charOf, Char.ofNat, dif_pos hn]
    rfl
  have hrange (first last : Nat) (hmem : ⟨first, last⟩ ∈ sameLength)
      (hc : first ≤ c.toNat ∧ c.toNat ≤ last)
      (hn : ∀ n, first ≤ n → n ≤ last → (n < 0xD800 ∨ 0xDFFF < n ∧ n < 0x110000) ∧
        ((n ≤ 0x7F ↔ c.toNat ≤ 0x7F) ∧ (n ≤ 0x7FF ↔ c.toNat ≤ 0x7FF) ∧
          (n ≤ 0xFFFF ↔ c.toNat ≤ 0xFFFF))) :
      ∃ s ∈ sameLength, s.contains c.toNat = true ∧
        ∀ n, s.contains n = true → (charOf n).utf8Size = c.utf8Size := by
    refine ⟨_, hmem, contains_iff.mpr hc, fun n hcontains => ?_⟩
    obtain ⟨hfirst, hlast⟩ := contains_iff.mp hcontains
    obtain ⟨hnvalid, h₁, h₂, h₃⟩ := hn n hfirst hlast
    simp only [utf8Size_eq, hcharOf hnvalid, h₁, h₂, h₃]
  rcases Nat.lt_or_ge c.toNat 0x80 with h | h
  · exact hrange 0 0x7F (by decide) (by omega) (by omega)
  rcases Nat.lt_or_ge c.toNat 0x800 with h | h
  · exact hrange 0x80 0x7FF (by decide) (by omega) (by omega)
  rcases Nat.lt_or_ge c.toNat 0xD800 with h | h
  · exact hrange 0x800 0xD7FF (by decide) (by omega) (by omega)
  rcases Nat.lt_or_ge c.toNat 0x10000 with h | h
  · exact hrange 0xE000 0xFFFF (by decide) (by omega) (by omega)
  · exact hrange 0x10000 0x10FFFF (by decide) (by omega) (by omega)

end CodeRange

namespace CharSet

variable {s : CharSet} {c : Char}

/-- **A set has a row of as many byte ranges as one of its characters has bytes.** -/
theorem exists_row (h : s.contains c = true) : ∃ row ∈ s.rows, row.length = c.utf8Size := by
  obtain ⟨r, hr, hcontains⟩ := List.any_eq_true.mp h
  obtain ⟨t, ht, htc, hsize⟩ := CodeRange.exists_sameLength c
  have hmeet : (r.meet t).any (·.contains c.toNat) = true := by
    rw [CodeRange.any_meet, hcontains, htc]
    rfl
  obtain ⟨m, hm, hmc⟩ := List.any_eq_true.mp hmeet
  have hwithin : t.first ≤ m.first ∧ m.last ≤ t.last := by
    rw [CodeRange.meet] at hm
    split at hm
    · rw [List.mem_singleton.mp hm]
      exact ⟨Nat.le_max_right _ _, Nat.min_le_right _ _⟩
    · simp at hm
  obtain ⟨hmfirst, hmlast⟩ := CodeRange.contains_iff.mp hmc
  obtain ⟨p, hp, hpm⟩ := CodeRange.exists_piece (r := m) (by omega)
  have hlength (n : Nat) (hn : p.first ≤ n ∧ n ≤ p.last) :
      (utf8 [charOf n]).length = c.utf8Size := by
    have hfirst := hpm.first
    have hlast := hpm.last
    rw [utf8_cons, utf8_nil, List.append_nil, String.length_utf8EncodeChar]
    exact hsize n (CodeRange.contains_iff.mpr (by omega))
  refine ⟨p.row, List.mem_flatMap.mpr ⟨r, hr, List.mem_map_of_mem (List.mem_flatMap.mpr
    ⟨m, List.mem_flatMap.mpr ⟨t, ht, hm⟩, hp⟩)⟩, ?_⟩
  rw [CodeRange.row, List.length_zipWith, hlength _ ⟨Nat.le_refl _, hpm.nonempty⟩,
    hlength _ ⟨hpm.nonempty, Nat.le_refl _⟩, Nat.min_self]

theorem length_le_flatten {rows : List ByteRow} {row : ByteRow} (h : row ∈ rows) :
    row.length ≤ rows.flatten.length :=
  (List.sublist_flatten_of_mem h).length_le

/-- **A set takes 40 bytes more, read backward, than one of its characters by itself.** -/
theorem le_least (h : s.contains c = true) :
    32 * c.utf8Size + 40 ≤ (s.growth .backward).least := by
  obtain ⟨r, hr, hcontains⟩ := List.any_eq_true.mp h
  rw [growth]
  split
  · next hascii =>
    have hlast : c.toNat < 0x80 := by
      have hr' := List.all_eq_true.mp hascii r hr
      have hc := (CodeRange.contains_iff.mp hcontains).2
      simp only [decide_eq_true_eq] at hr'
      omega
    have hsize : c.utf8Size = 1 := by rw [utf8Size_eq, if_pos (by omega)]
    have hranges : 0 < s.ranges.length := List.length_pos_of_mem hr
    show _ ≤ 32 * 2 + 8 * s.ranges.length
    omega
  · obtain ⟨row, hrow, hlength⟩ := exists_row h
    have hrows : 0 < s.rows.length := List.length_pos_of_mem hrow
    have hlongest := le_longest hrow
    have hflatten := length_le_flatten hrow
    show _ ≤ 64 + 4 * s.rows.length + 32 * _
    split <;> omega

end CharSet

end PathRouting.Regex
