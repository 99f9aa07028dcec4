import PathRouting.Proofs.Regex.Preferred

/-!
# The preferred match, task by task

The preferred match of a row of expressions is known from those of its parts.  Literals and
assertions leave no choice.  The dot with a star takes as much as it can: the longest text after which
what is left to be done can be matched.

## Main results

* `preferred_iff_of_ways` — a task with one way leaves no choice.
* `preferred_row_literal`, `preferred_merge_literal` — literal text in a row.
* `longest_of_preferred` — the dot with a star takes the longest text that leaves a match.
-/

namespace PathRouting.Regex

variable {p q : Place} {slots found : Slots} {k : List Task} {t : Task} {v : List Char}
  {es : List Expr}

/-! ### Tasks without a choice -/

/-- **A task with one way leaves no choice.** -/
theorem preferred_iff_of_ways {way : State} (h : t.ways k p = [way]) :
    Preferred (t :: k) p slots found ↔ Preferred way.1 way.2 (t.record slots p.left) found := by
  constructor
  · intro hpreferred
    cases hpreferred with
    | @step _ _ _ _ _ earlier later way' hways hfail hway =>
      rw [h] at hways
      obtain ⟨rfl, rfl, rfl⟩ : earlier = [] ∧ way' = way ∧ later = [] := by
        rcases earlier with _ | ⟨a, earlier⟩
        · simpa [eq_comm] using hways
        · simp at hways
      exact hway
  · intro hway
    have hways : t.ways k p = [] ++ way :: [] := h
    exact .step hways (by simp) hway

/-- A task without a way is not done. -/
theorem not_preferred_of_ways (h : t.ways k p = []) : ¬Preferred (t :: k) p slots found := by
  intro hpreferred
  cases hpreferred with
  | step hways => simp [h] at hways

theorem preferred_nil : Preferred [] p slots found ↔ found = slots := by
  constructor
  · intro h
    cases h
    rfl
  · rintro rfl
    exact .done

theorem preferred_literal : Preferred (.run (.literal v) :: k) p slots found ↔
    ∃ q, p.skip? v = some q ∧ Preferred k q slots found := by
  have hways : (Task.run (.literal v)).ways k p = (p.skip? v).toList.map (k, ·) := rfl
  rcases hskip : p.skip? v with _ | q
  · rw [hskip] at hways
    simp [not_preferred_of_ways hways]
  · rw [hskip] at hways
    simp only [Option.some.injEq, exists_eq_left']
    exact preferred_iff_of_ways hways

theorem preferred_set {s : CharSet} : Preferred (.run (.set s) :: k) p slots found ↔
    ∃ q, p.step? s.contains = some q ∧ Preferred k q slots found := by
  have hways : (Task.run (.set s)).ways k p = (p.step? s.contains).toList.map (k, ·) := rfl
  rcases hstep : p.step? s.contains with _ | q
  · rw [hstep] at hways
    simp [not_preferred_of_ways hways]
  · rw [hstep] at hways
    simp only [Option.some.injEq, exists_eq_left']
    exact preferred_iff_of_ways hways

theorem preferred_look {l : Look} : Preferred (.run (.look l) :: k) p slots found ↔
    l.holds p.before p.after = true ∧ Preferred k p slots found := by
  have hways : (Task.run (.look l)).ways k p
      = if l.holds p.before p.after then [(k, p)] else [] := rfl
  by_cases hholds : l.holds p.before p.after = true
  · rw [if_pos hholds] at hways
    simp only [hholds, true_and]
    exact preferred_iff_of_ways hways
  · rw [if_neg hholds] at hways
    simp [hholds, not_preferred_of_ways hways]

/-! ### Rows -/

/-- The first of several expressions in a row comes first. -/
theorem preferred_row_cons (hne : es ≠ []) (e : Expr) :
    Preferred [.run (.row (e :: es))] p slots found ↔
      Preferred [.run e, .run (.row es)] p slots found := by
  obtain ⟨e', es, rfl⟩ := List.exists_cons_of_ne_nil hne
  have hways : (Task.run (.row (e :: e' :: es))).ways [] p
      = [([.run e, .run (.row (e' :: es))], p)] := rfl
  exact preferred_iff_of_ways hways

/-- Literal text at the start of a row is skipped. -/
theorem preferred_row_literal : Preferred [.run (.row (.literal v :: es))] p slots found ↔
    ∃ q, p.skip? v = some q ∧ Preferred [.run (.row es)] q slots found := by
  by_cases hes : es = []
  · subst hes
    have hempty (q : Place) : Preferred [.run (.row [])] q slots found ↔
        Preferred [] q slots found := by
      have hways : (Task.run (.row [])).ways [] q = [([], q)] := rfl
      exact preferred_iff_of_ways hways
    simp only [hempty]
    exact preferred_literal
  · rw [preferred_row_cons hes, preferred_literal]

/-- Literal text at the start of a row is skipped whether or not it is put together with what comes
after it. -/
theorem preferred_merge_literal :
    Preferred [.run (.row (Expr.mergeLiterals (.literal v :: es)))] p slots found ↔
      ∃ q, p.skip? v = some q ∧
        Preferred [.run (.row (Expr.mergeLiterals es))] q slots found := by
  rw [Expr.mergeLiterals]
  split
  · next t more hmerged =>
    rw [hmerged]
    simp only [preferred_row_literal, Place.skip?_append, Option.bind_eq_some_iff]
    constructor
    · rintro ⟨q, ⟨m, hm, hq⟩, hpreferred⟩
      exact ⟨m, hm, q, hq, hpreferred⟩
    · rintro ⟨m, hm, q, hq, hpreferred⟩
      exact ⟨q, ⟨m, hm, hq⟩, hpreferred⟩
  · exact preferred_row_literal

/-! ### The dot with a star -/

theorem skip?_cons {c : Char} : p.skip? (c :: v) = some q ↔
    ∃ m, p.skip? [c] = some m ∧ m.skip? v = some q := by
  rw [← List.singleton_append, Place.skip?_append, Option.bind_eq_some_iff]

/-- Any character is one for the dot. -/
theorem step?_any {c : Char} (h : p.skip? [c] = some q) :
    p.step? CharSet.any.contains = some q :=
  Place.step?_eq_some.mpr ⟨c, CharSet.contains_any c, h⟩

/-- What comes after any text can be matched with the text before it. -/
theorem matched_loop (h : p.skip? v = some q) (hk : Matched (k, q)) :
    Matched (.loop (.set .any) true :: k, p) := by
  obtain ⟨r, hr⟩ := hk
  have htimes : Times (Expr.set .any).Matches v.length p q := times_any.mpr ⟨v, rfl, h⟩
  exact ⟨r, (reaches_loop (fun k _ _ he => reaches_of_matches _ k he) true k htimes).trans hr⟩

/-- Repeating the dot takes the longest text that leaves a match. -/
theorem longest_of_preferred_loop
    (h : Preferred (.loop (.set .any) true :: k) p slots found) :
    ∃ w q, p.skip? w = some q ∧ Preferred k q slots found ∧
      ∀ w' q', p.skip? w' = some q' → Matched (k, q') → w'.length ≤ w.length := by
  generalize hn : p.left = n
  induction n using Nat.strong_induction_on generalizing p with
  | _ n ih =>
    cases h with
    | @step _ _ _ _ _ earlier later way hways hfail hway =>
      have hboth : (Task.loop (.set .any) true).ways k p
          = [(.run (.set .any) :: .loop (.set .any) true :: k, p), (k, p)] := rfl
      rw [hboth] at hways
      have htwo : earlier = [] ∧ way = (.run (.set .any) :: .loop (.set .any) true :: k, p) ∨
          earlier = [(.run (.set .any) :: .loop (.set .any) true :: k, p)] ∧ way = (k, p) := by
        rcases earlier with _ | ⟨a, _ | ⟨b, earlier⟩⟩
        · exact .inl ⟨rfl, (List.cons.inj hways).1.symm⟩
        · obtain ⟨rfl, htail⟩ := List.cons.inj hways
          exact .inr ⟨rfl, (List.cons.inj htail).1.symm⟩
        · simp at hways
      rcases htwo with ⟨rfl, rfl⟩ | ⟨rfl, rfl⟩
      · -- one more character is taken
        obtain ⟨m, hm, hloop⟩ := preferred_set.mp hway
        obtain ⟨w, q, hw, hq, hlongest⟩ := ih m.left (hn ▸ Place.left_of_step? hm) hloop rfl
        obtain ⟨d, -, hd⟩ := Place.step?_eq_some.mp hm
        refine ⟨d :: w, q, skip?_cons.mpr ⟨m, hd, hw⟩, hq, fun w' q' hw' hmatched => ?_⟩
        cases w' with
        | nil => exact Nat.zero_le _
        | cons c w' =>
          obtain ⟨m', hm', hw'⟩ := skip?_cons.mp hw'
          obtain rfl : m = m' := Option.some.inj (hm.symm.trans (step?_any hm'))
          exact Nat.succ_le_succ (hlongest w' q' hw' hmatched)
      · -- no further character leaves a match
        refine ⟨[], p, rfl, hway, fun w' q' hw' hmatched => ?_⟩
        cases w' with
        | nil => exact Nat.le_refl _
        | cons c w' =>
          obtain ⟨m', hm', hw'⟩ := skip?_cons.mp hw'
          obtain ⟨r, hr⟩ := matched_loop hw' hmatched
          exact absurd ⟨r, reaches_of_way (.set (step?_any hm')) hr⟩
            (hfail _ (List.mem_singleton_self _))

/-- **The dot with a star takes the longest text that leaves a match.** -/
theorem longest_of_preferred (h : Preferred (.run anyText :: k) p slots found) :
    ∃ w q, p.skip? w = some q ∧ Preferred k q slots found ∧
      ∀ w' q', p.skip? w' = some q' → Matched (k, q') → w'.length ≤ w.length := by
  have hways : (Task.run anyText).ways k p = [(.loop (.set .any) true :: k, p)] := rfl
  exact longest_of_preferred_loop ((preferred_iff_of_ways hways).mp h)

end PathRouting.Regex
