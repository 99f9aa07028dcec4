/-!
# Cutting texts at a character

## Main definitions

* `cutAt` — the text before the first occurrence of a character and the text after it.
* `pieces` — the texts between all occurrences of a character.
* `join` — texts written one after the other with a character in between.
-/

namespace PathRouting.Text

/-- The text before the first `c` and the text after it, if there is a `c`. -/
def cutAt (c : Char) : List Char → Option (List Char × List Char)
  | [] => none
  | d :: s =>
    if d = c then some ([], s) else (cutAt c s).map fun (before, after) => (d :: before, after)

/-- The texts between the occurrences of `c`, one more than there are occurrences. -/
def pieces (c : Char) : List Char → List (List Char)
  | [] => [[]]
  | d :: s =>
    if d = c then [] :: pieces c s
    else match pieces c s with
      | p :: ps => (d :: p) :: ps
      | [] => [[d]]

/-- Texts with `c` written between any two of them. -/
def join (c : Char) : List (List Char) → List Char
  | [] => []
  | [p] => p
  | p :: q :: ps => p ++ c :: join c (q :: ps)

theorem cutAt_eq_some {c : Char} {s before after : List Char}
    (h : cutAt c s = some (before, after)) : s = before ++ c :: after ∧ c ∉ before := by
  induction s generalizing before with
  | nil => simp [cutAt] at h
  | cons d s ih =>
    rw [cutAt] at h
    split at h
    · rename_i hd
      obtain ⟨rfl, rfl⟩ : [] = before ∧ s = after := by simpa using h
      simp [hd]
    · rename_i hd
      obtain ⟨⟨b, a⟩, hb, hab⟩ := Option.map_eq_some_iff.mp h
      obtain ⟨rfl, rfl⟩ : d :: b = before ∧ a = after := by simpa using hab
      obtain ⟨rfl, hmem⟩ := ih hb
      exact ⟨rfl, by simp [hmem, Ne.symm hd]⟩

theorem cutAt_eq_none {c : Char} {s : List Char} : cutAt c s = none ↔ c ∉ s := by
  induction s with
  | nil => simp [cutAt]
  | cons d s ih =>
    rw [cutAt]
    by_cases hd : d = c
    · simp [hd]
    · simp [hd, Ne.symm hd, ih]

/-- The text before a cut is the longest one without the character. -/
theorem span_of_cutAt {c : Char} {s before after : List Char}
    (h : cutAt c s = some (before, after)) :
    s.takeWhile (· ≠ c) = before ∧ s.dropWhile (· ≠ c) = c :: after := by
  obtain ⟨rfl, hc⟩ := cutAt_eq_some h
  have hpos : ∀ d ∈ before, decide (d ≠ c) = true := by
    intro d hd
    simpa using fun heq : d = c => hc (heq ▸ hd)
  rw [List.takeWhile_append_of_pos hpos, List.dropWhile_append_of_pos hpos]
  simp

/-- A text without the character is the longest one without it. -/
theorem span_of_notMem {c : Char} {s : List Char} (h : c ∉ s) :
    s.takeWhile (· ≠ c) = s ∧ s.dropWhile (· ≠ c) = [] := by
  have hpos : ∀ d ∈ s, decide (d ≠ c) = true := by
    intro d hd
    simpa using fun heq : d = c => h (heq ▸ hd)
  have htake : (s ++ []).takeWhile (· ≠ c) = s ++ [] := List.takeWhile_append_of_pos hpos
  have hdrop : (s ++ []).dropWhile (· ≠ c) = [] := List.dropWhile_append_of_pos hpos
  exact ⟨by simpa using htake, by simpa using hdrop⟩

/-- The first occurrence of the character is where the text is cut. -/
theorem cutAt_append {c : Char} {before : List Char} (h : c ∉ before) (after : List Char) :
    cutAt c (before ++ c :: after) = some (before, after) := by
  induction before with
  | nil => simp [cutAt]
  | cons d before ih =>
    obtain ⟨hd, hbefore⟩ := not_or.mp (mt List.mem_cons.mpr h)
    rw [List.cons_append, cutAt, if_neg (Ne.symm hd), ih hbefore]
    rfl

theorem pieces_ne_nil (c : Char) (s : List Char) : pieces c s ≠ [] := by
  cases s with
  | nil => simp [pieces]
  | cons d s =>
    rw [pieces]
    split
    · simp
    · split <;> simp

/-- Joining the pieces of a text restores it. -/
theorem join_pieces (c : Char) (s : List Char) : join c (pieces c s) = s := by
  induction s with
  | nil => rfl
  | cons d s ih =>
    rw [pieces]
    split
    · rename_i hd
      subst hd
      rcases hp : pieces d s with _ | ⟨p, ps⟩
      · exact absurd hp (pieces_ne_nil d s)
      · rw [join, ← hp, ih]; rfl
    · rcases hp : pieces c s with _ | ⟨p, ps⟩
      · exact absurd hp (pieces_ne_nil c s)
      · cases ps with
        | nil => rw [hp] at ih; simpa [join] using ih
        | cons q ps => rw [hp] at ih; simpa [join] using ih

theorem pieces_cons_self (c : Char) (s : List Char) : pieces c (c :: s) = [] :: pieces c s := by
  rw [pieces, if_pos rfl]

/-- What comes before the first piece becomes part of it, if the character is not in it. -/
theorem pieces_append {c : Char} {p s q : List Char} {qs : List (List Char)} (hp : c ∉ p)
    (hs : pieces c s = q :: qs) : pieces c (p ++ s) = (p ++ q) :: qs := by
  induction p with
  | nil => exact hs
  | cons d p ih =>
    obtain ⟨hd, hp⟩ := not_or.mp (mt List.mem_cons.mpr hp)
    rw [List.cons_append, pieces, if_neg (Ne.symm hd), ih hp]
    rfl

/-- A text without the character is its only piece. -/
theorem pieces_of_notMem {c : Char} {s : List Char} (h : c ∉ s) : pieces c s = [s] := by
  have hpieces := pieces_append h (s := []) (rfl : pieces c [] = [[]])
  rwa [List.append_nil] at hpieces

/-- Joined texts are the pieces, if the character is in none of them. -/
theorem pieces_join {c : Char} {ps : List (List Char)} (hne : ps ≠ []) (h : ∀ p ∈ ps, c ∉ p) :
    pieces c (join c ps) = ps := by
  induction ps with
  | nil => exact absurd rfl hne
  | cons p ps ih =>
    obtain ⟨hp, hps⟩ := List.forall_mem_cons.mp h
    cases ps with
    | nil => exact pieces_of_notMem hp
    | cons q ps =>
      have hrest := ih (List.cons_ne_nil q ps) hps
      rw [join, pieces_append hp (pieces_cons_self c _), List.append_nil, hrest]

/-- Joined texts are made of the texts and the character. -/
theorem mem_join {c d : Char} {ps : List (List Char)} (h : d ∈ join c ps) :
    d = c ∨ ∃ p ∈ ps, d ∈ p := by
  induction ps with
  | nil => simp [join] at h
  | cons p ps ih =>
    cases ps with
    | nil => exact .inr ⟨p, List.mem_cons_self, h⟩
    | cons q ps =>
      rw [join, List.mem_append, List.mem_cons] at h
      rcases h with h | h | h
      · exact .inr ⟨p, List.mem_cons_self, h⟩
      · exact .inl h
      · rcases ih h with hd | ⟨r, hr, hd⟩
        · exact .inl hd
        · exact .inr ⟨r, List.mem_cons_of_mem p hr, hd⟩

end PathRouting.Text
