import PathRouting.Proofs.Pattern.Append

/-!
# The braces of a segment

A pattern text is cut where no brace is open, so a segment closes all braces that it opens.  The
captures of a segment are found by another scan, for which a backslash counts in names as well; but
a name has no backslash, so the two scans agree on where a capture ends.

## Main definitions

* `Braces.run` — the state after a text.
* `closeStep` — the effect of one character on the search for a closing brace.

## Main results

* `run_of_mem_tokens` — a segment closes all braces that it opens.
* `step_inConstraint` — in a constraint the two scans count braces alike.
* `exists_closing` — the brace that closes a capture is found.
* `run_after_closing` — and with that brace the capture ends.
-/

namespace PathRouting

open Text

variable {separator : Char} {b : Braces} {s : List Char}

/-! ### The state after a text -/

/-- The state after a text, if the text has no fault. -/
def Braces.run (b : Braces) : List Char → Except PatternCause Braces
  | [] => .ok b
  | c :: s => b.step c >>= fun next => next.run s

@[simp] theorem Braces.run_nil (b : Braces) : b.run [] = .ok b := rfl

theorem Braces.run_cons_ok {c : Char} {b' : Braces} :
    b.run (c :: s) = .ok b' ↔ ∃ next, b.step c = .ok next ∧ next.run s = .ok b' := by
  rw [run, bind_eq_ok]

/-- Where no segment comes next, no brace is open. -/
theorem depth_of_tokensFrom {position : Nat} {ts : List Token}
    (h : tokensFrom separator b position s = .ok ts)
    (hhead : ∀ t ∈ ts.head?, t.isSeparator = true) : b.depth = 0 := by
  cases s with
  | nil =>
    rw [tokensFrom] at h
    by_contra hdepth
    simp [hdepth] at h
  | cons c s =>
    obtain ⟨next, rest, -, -, rfl⟩ := tokensFrom_cons h
    split at hhead
    · next hcut =>
      simp only [Braces.cutsAt, Bool.and_eq_true, beq_iff_eq] at hcut
      exact hcut.1.1.1
    · rcases Token.cons_eq position c rest with ⟨p, t, rest', rfl, hcons⟩ | ⟨-, hcons⟩ <;>
        simp [hcons, Token.isSeparator] at hhead

/-- Each segment closes the braces that are open where it starts, which for all but the first of
the tokens are none. -/
theorem run_of_tokensFrom (hb : b.Settled) {position : Nat} {ts : List Token}
    (h : tokensFrom separator b position s = .ok ts) :
    (∀ p t, ts.head? = some (.segment p t) → b.run t = .ok .outside) ∧
      ∀ p t, .segment p t ∈ ts.tail → Braces.outside.run t = .ok .outside := by
  induction s generalizing b position ts with
  | nil =>
    obtain rfl := tokensFrom_nil h
    simp
  | cons c s ih =>
    obtain ⟨next, rest, hstep, hrest, rfl⟩ := tokensFrom_cons h
    have hnext := hb.step hstep
    obtain ⟨hhead, htail⟩ := ih hnext hrest
    -- from a state outside of braces all segments that follow start outside
    have hall : next = .outside → ∀ p t, .segment p t ∈ rest →
        Braces.outside.run t = .ok .outside := by
      rintro rfl p t hmem
      rcases rest with _ | ⟨u, rest'⟩
      · simp at hmem
      · rcases List.mem_cons.mp hmem with rfl | hmem
        · exact hhead p t rfl
        · exact htail p t hmem
    split
    · next hcut =>
      simp only [Braces.cutsAt, Bool.and_eq_true, beq_iff_eq, bne_iff_ne] at hcut
      obtain ⟨⟨⟨hdepth, -⟩, hopen⟩, hclose⟩ := hcut
      rw [hb hdepth, Braces.step_outside hopen hclose] at hstep
      exact ⟨by simp, hall (Except.ok.inj hstep).symm⟩
    · rcases Token.cons_eq position c rest with ⟨p, t, rest', rfl, hcons⟩ | ⟨hsep, hcons⟩
      · rw [hcons]
        refine ⟨fun p' t' ht' => ?_, htail⟩
        obtain ⟨-, rfl⟩ : position = p' ∧ c :: t = t' := by simpa using ht'
        exact Braces.run_cons_ok.mpr ⟨next, hstep, hhead p t rfl⟩
      · have hout := hnext (depth_of_tokensFrom hrest hsep)
        rw [hcons]
        refine ⟨fun p' t' ht' => ?_, hall hout⟩
        obtain ⟨-, rfl⟩ : position = p' ∧ [c] = t' := by simpa using ht'
        exact Braces.run_cons_ok.mpr ⟨next, hstep, by rw [hout]; rfl⟩

/-- **A segment of a pattern text closes all braces that it opens.** -/
theorem run_of_mem_tokens {ts : List Token} (h : tokens separator s = .ok ts) {p : Nat}
    {t : List Char} (ht : .segment p t ∈ ts) : Braces.outside.run t = .ok .outside := by
  obtain ⟨hhead, htail⟩ := run_of_tokensFrom settled_outside h
  rcases ts with _ | ⟨u, rest⟩
  · simp at ht
  · rcases List.mem_cons.mp ht with rfl | ht
    · exact hhead p t rfl
    · exact htail p t ht

/-! ### Closing braces -/

section Closing

variable {depth : Nat} {escaped : Bool} {inner after : List Char}

/-- What one character does to the search for the closing brace, of which nothing is left once the
brace is found. -/
def closeStep (depth : Nat) (escaped : Bool) (c : Char) : Option (Nat × Bool) :=
  if escaped then some (depth, false)
  else if c = '\\' then some (depth, true)
  else if c = '{' then some (depth + 1, false)
  else if c = '}' then
    match depth with
    | 0 => none
    | depth + 1 => some (depth, false)
  else some (depth, false)

/-- The search ends at a brace that is not escaped and closes no other. -/
theorem closeStep_eq_none {c : Char} (h : closeStep depth escaped c = none) :
    c = '}' ∧ depth = 0 ∧ escaped = false := by
  unfold closeStep at h
  split at h
  · simp at h
  split at h
  · simp at h
  split at h
  · simp at h
  split at h
  · next hescaped _ _ hc =>
    cases depth with
    | zero => exact ⟨hc, rfl, by simpa using hescaped⟩
    | succ depth => simp at h
  · simp at h

/-- The search goes character by character. -/
theorem closing_cons (depth : Nat) (escaped : Bool) (c : Char) (s : List Char) :
    closing depth escaped (c :: s) = match closeStep depth escaped c with
      | none => some ([], s)
      | some (depth, escaped) => (closing depth escaped s).map fun r => (c :: r.1, r.2) := by
  rw [closing.eq_def, closeStep.eq_def]
  dsimp only
  split
  · rfl
  split
  · rfl
  split
  · rfl
  split
  · cases depth <;> rfl
  · rfl

/-- In a constraint the braces are counted as in the search for the one that closes the capture. -/
theorem step_inConstraint (depth : Nat) (escaped : Bool) (c : Char) :
    Braces.step ⟨depth + 1, true, escaped⟩ c = .ok (match closeStep depth escaped c with
      | none => .outside
      | some (depth, escaped) => ⟨depth + 1, true, escaped⟩) := by
  rw [Braces.step, closeStep.eq_def]
  cases escaped
  · by_cases h₁ : c = '\\'
    · simp [h₁]
    by_cases h₂ : c = '{'
    · simp [h₂]
    by_cases h₃ : c = '}'
    · cases depth <;> simp [h₃]
    · simp [h₁, h₂, h₃]
  · rfl

/-- The text is cut at the brace that is found. -/
theorem closing_eq_some (h : closing depth escaped s = some (inner, after)) :
    s = inner ++ '}' :: after := by
  induction s generalizing depth escaped inner with
  | nil => simp [closing] at h
  | cons c s ih =>
    rw [closing_cons] at h
    rcases hstep : closeStep depth escaped c with _ | ⟨depth', escaped'⟩
    · simp only [hstep, Option.some.injEq, Prod.mk.injEq] at h
      obtain ⟨rfl, rfl⟩ := h
      rw [(closeStep_eq_none hstep).1, List.nil_append]
    · simp only [hstep, Option.map_eq_some_iff] at h
      obtain ⟨⟨inner', after'⟩, hrest, heq⟩ := h
      obtain ⟨rfl, rfl⟩ := Prod.mk.inj heq
      rw [ih hrest, List.cons_append]

/-- In a constraint the brace is found. -/
theorem exists_closing_inConstraint
    (h : Braces.run ⟨depth + 1, true, escaped⟩ s = .ok .outside) :
    ∃ r, closing depth escaped s = some r := by
  induction s generalizing depth escaped with
  | nil => simp [Braces.outside] at h
  | cons c s ih =>
    obtain ⟨next, hstep, hnext⟩ := Braces.run_cons_ok.mp h
    rw [step_inConstraint] at hstep
    rw [closing_cons]
    rcases hclose : closeStep depth escaped c with _ | ⟨depth', escaped'⟩
    · exact ⟨_, rfl⟩
    · rw [hclose] at hstep
      obtain rfl := Except.ok.inj hstep
      obtain ⟨r, hr⟩ := ih hnext
      exact ⟨_, Option.map_eq_some_iff.mpr ⟨r, hr, rfl⟩⟩

theorem name_cons {c : Char} (hc : c ≠ ':') (text : List Char) :
    (nameAndConstraint (c :: text)).1 = c :: (nameAndConstraint text).1 := by
  unfold nameAndConstraint
  rw [cutAt, if_neg hc]
  cases cutAt ':' text <;> rfl

/-- **The brace that closes a capture is found**, if no backslash stands in the name. -/
theorem exists_closing (h : Braces.run ⟨1, false, false⟩ s = .ok .outside)
    (hname : '\\' ∉ (nameAndConstraint s.dropLast).1) : ∃ r, closing 0 false s = some r := by
  induction s with
  | nil => simp [Braces.outside] at h
  | cons c s ih =>
    obtain ⟨next, hstep, hnext⟩ := Braces.run_cons_ok.mp h
    rw [closing_cons]
    by_cases hclose : c = '}'
    · exact ⟨_, by rw [hclose]; rfl⟩
    by_cases hopen : c = '{'
    · rw [hopen] at hstep
      simp [Braces.step] at hstep
    by_cases hcolon : c = ':'
    · -- the constraint starts here
      rw [hcolon] at hstep ⊢
      obtain rfl : ⟨0 + 1, true, false⟩ = next := Except.ok.inj hstep
      obtain ⟨r, hr⟩ := exists_closing_inConstraint hnext
      exact ⟨_, Option.map_eq_some_iff.mpr ⟨r, hr, rfl⟩⟩
    obtain rfl : ⟨1, false, false⟩ = next := by
      simpa [Braces.step, hclose, hopen, hcolon] using hstep
    -- the text does not end here, so the character belongs to the name
    obtain ⟨d, t, rfl⟩ : ∃ d t, s = d :: t := by
      cases s with
      | nil => simp [Braces.outside] at hnext
      | cons d t => exact ⟨d, t, rfl⟩
    rw [List.dropLast_cons_of_ne_nil (List.cons_ne_nil d t), name_cons hcolon, List.mem_cons,
      not_or] at hname
    obtain ⟨r, hr⟩ := ih hnext hname.2
    have hgo : closeStep 0 false c = some (0, false) := by
      simp [closeStep, hclose, hopen, Ne.symm hname.1]
    rw [hgo]
    exact ⟨_, Option.map_eq_some_iff.mpr ⟨r, hr, rfl⟩⟩

/-- In a constraint all braces that are open are closed where the search ends. -/
theorem run_after_closing_inConstraint {b' : Braces}
    (h : Braces.run ⟨depth + 1, true, escaped⟩ s = .ok b')
    (hclose : closing depth escaped s = some (inner, after)) :
    Braces.outside.run after = .ok b' := by
  induction s generalizing depth escaped inner with
  | nil => simp [closing] at hclose
  | cons c s ih =>
    obtain ⟨next, hstep, hnext⟩ := Braces.run_cons_ok.mp h
    rw [step_inConstraint] at hstep
    rw [closing_cons] at hclose
    rcases hgo : closeStep depth escaped c with _ | ⟨depth', escaped'⟩
    · simp only [hgo, Except.ok.injEq, Option.some.injEq, Prod.mk.injEq] at hstep hclose
      obtain ⟨-, rfl⟩ := hclose
      rw [hstep]
      exact hnext
    · simp only [hgo, Except.ok.injEq, Option.map_eq_some_iff] at hstep hclose
      obtain ⟨⟨inner', after'⟩, hrest, heq⟩ := hclose
      obtain ⟨-, rfl⟩ := Prod.mk.inj heq
      exact ih (hstep ▸ hnext) hrest

/-- **Where the search ends, the capture ends**, if no backslash stands in the name. -/
theorem run_after_closing {b' : Braces} (h : Braces.run ⟨1, false, false⟩ s = .ok b')
    (hclose : closing 0 false s = some (inner, after))
    (hname : '\\' ∉ (nameAndConstraint inner).1) : Braces.outside.run after = .ok b' := by
  induction s generalizing inner with
  | nil => simp [closing] at hclose
  | cons c s ih =>
    obtain ⟨next, hstep, hnext⟩ := Braces.run_cons_ok.mp h
    rw [closing_cons] at hclose
    by_cases hend : c = '}'
    · rw [hend] at hstep hclose
      obtain rfl := Except.ok.inj hstep
      obtain ⟨-, rfl⟩ := Prod.mk.inj (Option.some.inj hclose)
      exact hnext
    by_cases hopen : c = '{'
    · rw [hopen] at hstep
      simp [Braces.step] at hstep
    rcases hgo : closeStep 0 false c with _ | ⟨depth, escaped⟩
    · exact absurd (closeStep_eq_none hgo).1 hend
    simp only [hgo, Option.map_eq_some_iff] at hclose
    obtain ⟨⟨inner', after'⟩, hrest, heq⟩ := hclose
    obtain ⟨rfl, rfl⟩ := Prod.mk.inj heq
    by_cases hcolon : c = ':'
    · -- the constraint starts here
      rw [hcolon] at hstep hgo
      obtain rfl := Except.ok.inj hstep
      obtain ⟨rfl, rfl⟩ := Prod.mk.inj (Option.some.inj hgo)
      exact run_after_closing_inConstraint hnext hrest
    · obtain rfl : ⟨1, false, false⟩ = next := by
        simpa [Braces.step, hend, hopen, hcolon] using hstep
      rw [name_cons hcolon, List.mem_cons, not_or] at hname
      have hkeep : closeStep 0 false c = some (0, false) := by
        simp [closeStep, hend, hopen, Ne.symm hname.1]
      obtain ⟨rfl, rfl⟩ := Prod.mk.inj (Option.some.inj (hgo.symm.trans hkeep))
      exact ih hnext hrest hname.2

end Closing

end PathRouting
