import PathRouting.Proofs.Regex.Explore
import PathRouting.Proofs.Regex.Leads

/-!
# Texts that lie ahead

A text can be skipped where the characters ahead start with it.  The dot with a star matches any text
that can be skipped, and the expression for a set any one of its characters.

## Main results

* `Place.exists_skip?` — a text can be skipped when it lies ahead.
* `matches_anyText`, `matches_ofSet` — what the dot with a star and a set match.
-/

namespace PathRouting.Regex

variable {p q : Place} {v : List Char}

/-! ### Places -/

/-- A character is stepped over when it is skipped as a text. -/
theorem Place.step?_eq_some {f : Char → Bool} :
    p.step? f = some q ↔ ∃ d, f d = true ∧ p.skip? [d] = some q := by
  obtain ⟨before, rest, left, hleft⟩ := p
  cases rest with
  | nil => simp [Place.step?, Place.skip?]
  | cons c rest =>
    simp only [Place.skip?, Option.bind_eq_some_iff, Option.some.injEq, exists_eq_right]
    simp only [Place.step?, beq_iff_eq, Option.ite_none_right_eq_some]
    constructor
    · rintro ⟨hc, hq⟩
      exact ⟨c, hc, rfl, hq⟩
    · rintro ⟨d, hd, rfl, hq⟩
      exact ⟨hd, hq⟩

/-- A text can be skipped when it lies ahead. -/
theorem Place.exists_skip? {t : List Char} :
    (∃ q, p.skip? v = some q ∧ q.rest = t) ↔ p.rest = v ++ t := by
  induction v generalizing p with
  | nil => simp [Place.skip?]
  | cons c v ih =>
    obtain ⟨before, rest, left, hleft⟩ := p
    cases rest with
    | nil => simp [Place.skip?, Place.step?]
    | cons d rest =>
      by_cases hd : d = c
      · simp [Place.skip?, Place.step?, hd, ih]
      · simp [Place.skip?, Place.step?, hd]

/-- After a step fewer characters are ahead. -/
theorem Place.left_of_step? {f : Char → Bool} (h : p.step? f = some q) : q.left < p.left := by
  obtain ⟨before, rest, left, hleft⟩ := p
  cases rest with
  | nil => simp [step?] at h
  | cons c rest =>
    rw [step?, Option.ite_none_right_eq_some] at h
    obtain rfl := Option.some.inj h.2
    rw [List.length_cons] at hleft
    show left - 1 < left
    omega

/-- After a text that is skipped fewer characters are ahead by its length. -/
theorem Place.left_of_skip? (h : p.skip? v = some q) : p.left = v.length + q.left := by
  rw [p.left_eq, q.left_eq, exists_skip?.mp ⟨q, h, rfl⟩, List.length_append]

/-! ### Expressions -/

/-- Rounds of any one character skip a text. -/
theorem times_any {n : Nat} : Times (Expr.set .any).Matches n p q ↔
    ∃ v, v.length = n ∧ p.skip? v = some q := by
  induction n generalizing p with
  | zero => simp [Times, Place.skip?]
  | succ n ih =>
    have hone : ∀ m, (Expr.set .any).Matches p m ↔ ∃ d, p.skip? [d] = some m := by
      simp [Expr.Matches, Place.step?_eq_some]
    simp only [Times, ih, hone]
    constructor
    · rintro ⟨m, ⟨d, hd⟩, v, rfl, hv⟩
      refine ⟨d :: v, rfl, ?_⟩
      rw [← List.singleton_append, Place.skip?_append, hd]
      exact hv
    · rintro ⟨v, hlength, hv⟩
      obtain ⟨d, v, rfl⟩ := List.exists_cons_of_length_eq_add_one hlength
      rw [← List.singleton_append, Place.skip?_append] at hv
      obtain ⟨m, hd, hv⟩ := Option.bind_eq_some_iff.mp hv
      exact ⟨m, ⟨d, hd⟩, v, by simpa using hlength, hv⟩

/-- Any text is skipped. -/
theorem matches_anyText : anyText.Matches p q ↔ ∃ v, p.skip? v = some q := by
  show (∃ n, Allowed 0 none n ∧ Times (Expr.set .any).Matches n p q) ↔ _
  simp only [times_any, allowed_none, true_and]
  exact ⟨fun ⟨_, v, _, hv⟩ => ⟨v, hv⟩, fun ⟨v, hv⟩ => ⟨_, v, rfl, hv⟩⟩

/-- A set that has a character is an expression for one of its characters, or, if it has no other, the
literal of that one. -/
theorem ofSet_cases {s : CharSet} {c : Char} (h : s.contains c = true) :
    Expr.ofSet s = .literal [c] ∧ (∀ d, s.contains d = true ↔ d = c) ∨ Expr.ofSet s = .set s := by
  rw [Expr.ofSet]
  split
  · next d hsingle =>
    rw [CharSet.single?] at hsingle
    split at hsingle
    · next r hranges =>
      split at hsingle
      · next hr =>
        obtain rfl := Option.some.inj hsingle
        have hcontains (e : Char) : s.contains e = true ↔ e.toNat = r.first := by
          simp only [CharSet.contains, hranges, List.any_cons, List.any_nil, Bool.or_false,
            CodeRange.contains, Bool.and_eq_true, decide_eq_true_eq]
          omega
        have hc : r.first = c.toNat := ((hcontains c).mp h).symm
        refine .inl ⟨by rw [hc, Text.charOf_toNat], fun e => ?_⟩
        rw [hcontains, hc, Char.toNat_inj]
      · simp at hsingle
    · simp at hsingle
  · exact .inr rfl

/-- An expression for a set matches one of its characters. -/
theorem matches_ofSet {s : CharSet} {c : Char} (h : s.contains c = true) :
    (Expr.ofSet s).Matches p q ↔ p.step? s.contains = some q := by
  rcases ofSet_cases h with ⟨hliteral, hmembers⟩ | hset
  · simp only [hliteral, Expr.Matches, Place.step?_eq_some, hmembers, exists_eq_left]
  · rw [hset]
    rfl

end PathRouting.Regex
