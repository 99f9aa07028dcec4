import Mathlib.Tactic.Ring
import PathRouting.Proofs.Regex.Steps

/-!
# How much a search can come to

The tasks that a search can be left with are finitely many, and so are the places of a text.  There
are no more of them than the search has fuel for.

## Main definitions

* `Expr.stages` — the tasks that a search can be left with until an expression is matched.

## Main results

* `stages_closed` — a search for an expression is left with these tasks, or has matched it.
* `length_stages` — there are at most as many of them as the weight of the expression.
* `mem_places_of_way`, `eq_of_left_eq` — a search stays in its text, where a place is known by the
  number of characters ahead.
-/

namespace PathRouting.Regex

/-! ### Tasks -/

/-- The state of a repetition after `i` rounds. -/
def afterRounds (e : Expr) (min : Nat) (max : Option Nat) (greedy : Bool) (k : List Task)
    (i : Nat) : List Task :=
  .run (.iter e (min - i) (max.map (· - i)) greedy) :: k

/-- The number of rounds after which a repetition has a bound no more, or has come to it. -/
def countedRounds (min : Nat) (max : Option Nat) : Nat := Nat.max min (max.getD 0)

/-- The tasks that a search for an expression can be left with before those in `k`. -/
def Expr.stages : Expr → List Task → List (List Task)
  | group index e, k =>
    (.run (.group index e) :: k) :: (.close index :: k) :: e.stages (.close index :: k)
  | seq a b, k => (.run (.seq a b) :: k) :: (a.stages (.run b :: k) ++ b.stages k)
  | alt a b, k => (.run (.alt a b) :: k) :: (a.stages k ++ b.stages k)
  | iter e min max greedy, k =>
    (List.range (countedRounds min max + 1)).map (afterRounds e min max greedy k)
      ++ (List.range (countedRounds min max)).flatMap (fun i =>
          e.stages (afterRounds e min max greedy k (i + 1)))
      ++ (.loop e greedy :: k) :: e.stages (.loop e greedy :: k)
  | e, k => [.run e :: k]

theorem afterRounds_zero (e : Expr) (min : Nat) (max : Option Nat) (greedy : Bool) (k : List Task) :
    afterRounds e min max greedy k 0 = .run (.iter e min max greedy) :: k := by
  cases max <;> rfl

/-- A search starts with the first of the stages. -/
theorem mem_stages_self (e : Expr) (k : List Task) : .run e :: k ∈ e.stages k := by
  cases e with
  | iter e min max greedy =>
    refine List.mem_append_left _ (List.mem_append_left _ (List.mem_map.mpr ⟨0, ?_, ?_⟩))
    · simp
    · exact afterRounds_zero e min max greedy k
  | _ => exact List.mem_cons_self

/-- After a round of a repetition the body is searched for before what follows. -/
theorem mem_stages_of_round {e : Expr} {min : Nat} {max : Option Nat} {greedy : Bool}
    {k tasks : List Task} {i : Nat} (hi : i ≤ countedRounds min max)
    (h : Round e greedy k (min - i) (max.map (· - i)) tasks) :
    tasks ∈ (Expr.iter e min max greedy).stages k ∨ tasks = k := by
  have hloop : .loop e greedy :: k ∈ (Expr.iter e min max greedy).stages k :=
    List.mem_append_right _ List.mem_cons_self
  have henter : .run e :: .loop e greedy :: k ∈ (Expr.iter e min max greedy).stages k :=
    List.mem_append_right _ (List.mem_cons_of_mem _ (mem_stages_self _ _))
  have hround : i < countedRounds min max →
      .run e :: afterRounds e min max greedy k (i + 1) ∈ (Expr.iter e min max greedy).stages k :=
    fun hlt => List.mem_append_left _ (List.mem_append_right _
      (List.mem_flatMap.mpr ⟨i, List.mem_range.mpr hlt, mem_stages_self _ _⟩))
  generalize hmin : min - i = least at h
  generalize hmax : max.map (· - i) = most at h
  cases h with
  | @must least most h =>
    have hafter : afterRounds e min max greedy k (i + 1)
        = .run (.iter e least (most.map (· - 1)) greedy) :: k := by
      rw [afterRounds, ← hmax, Option.map_map, ← Nat.sub_sub, hmin]
      rfl
    exact .inl (hafter ▸ hround (Nat.lt_of_lt_of_le (by omega) (Nat.le_max_left ..)))
  | last => exact .inl henter
  | @may m =>
    obtain ⟨n, rfl, hn⟩ := Option.map_eq_some_iff.mp hmax
    have hafter : afterRounds e min (some n) greedy k (i + 1)
        = .run (.iter e 0 (some m) greedy) :: k := by
      have hleast : min - (i + 1) = 0 := by omega
      have hmost : n - (i + 1) = m := by omega
      rw [afterRounds, hleast, Option.map_some, hmost]
    have hlt : i < (some n).getD 0 := by
      show i < n
      omega
    exact .inl (hafter ▸ hround (Nat.lt_of_lt_of_le hlt (Nat.le_max_right ..)))
  | stop => exact .inr rfl
  | enter => exact .inl hloop
  | once => exact .inl henter
  | skip => exact .inr rfl

/-- **A search for an expression is left with its stages**, until the expression is matched. -/
theorem stages_closed {e : Expr} {k k' : List Task} {t : Task} {p : Place} {way : State}
    (h : t :: k' ∈ e.stages k) (hway : Way k' p t way) : way.1 ∈ e.stages k ∨ way.1 = k := by
  induction e generalizing k with
  | group index e ih =>
    rw [Expr.stages, List.mem_cons, List.mem_cons] at h
    rcases h with heq | heq | h
    · obtain ⟨rfl, rfl⟩ := List.cons.inj heq
      cases hway
      exact .inl (List.mem_cons_of_mem _ (List.mem_cons_of_mem _ (mem_stages_self _ _)))
    · obtain ⟨rfl, rfl⟩ := List.cons.inj heq
      cases hway
      exact .inr rfl
    · refine .inl (List.mem_cons_of_mem _ ?_)
      rcases ih h with h | h
      · exact List.mem_cons_of_mem _ h
      · rw [h]
        exact List.mem_cons_self
  | seq a b iha ihb =>
    rw [Expr.stages, List.mem_cons, List.mem_append] at h
    rcases h with heq | h | h
    · obtain ⟨rfl, rfl⟩ := List.cons.inj heq
      cases hway
      exact .inl (List.mem_cons_of_mem _ (List.mem_append_left _ (mem_stages_self _ _)))
    · refine .inl (List.mem_cons_of_mem _ ?_)
      rcases iha h with h | h
      · exact List.mem_append_left _ h
      · rw [h]
        exact List.mem_append_right _ (mem_stages_self _ _)
    · exact (ihb h).imp_left fun h => List.mem_cons_of_mem _ (List.mem_append_right _ h)
  | alt a b iha ihb =>
    rw [Expr.stages, List.mem_cons, List.mem_append] at h
    rcases h with heq | h | h
    · obtain ⟨rfl, rfl⟩ := List.cons.inj heq
      refine .inl (List.mem_cons_of_mem _ ?_)
      cases hway with
      | first => exact List.mem_append_left _ (mem_stages_self _ _)
      | second => exact List.mem_append_right _ (mem_stages_self _ _)
    · exact (iha h).imp_left fun h => List.mem_cons_of_mem _ (List.mem_append_left _ h)
    · exact (ihb h).imp_left fun h => List.mem_cons_of_mem _ (List.mem_append_right _ h)
  | iter e min max greedy ih =>
    have hloop : .loop e greedy :: k ∈ (Expr.iter e min max greedy).stages k :=
      List.mem_append_right _ List.mem_cons_self
    rw [Expr.stages, List.mem_append, List.mem_append, List.mem_map, List.mem_flatMap,
      List.mem_cons] at h
    rcases h with (⟨i, hi, heq⟩ | ⟨i, hi, h⟩) | heq | h
    · -- the repetition after some rounds
      obtain ⟨rfl, rfl⟩ := List.cons.inj heq
      cases hway with
      | round hround =>
        exact mem_stages_of_round (Nat.le_of_lt_succ (List.mem_range.mp hi)) hround
    · -- the body before the repetition after some rounds
      refine .inl (List.mem_append_left _ ?_)
      rcases ih h with h | h
      · exact List.mem_append_right _ (List.mem_flatMap.mpr ⟨i, hi, h⟩)
      · rw [h]
        have hlt := List.mem_range.mp hi
        exact List.mem_append_left _
          (List.mem_map_of_mem (List.mem_range.mpr (Nat.succ_lt_succ hlt)))
    · -- the loop
      obtain ⟨rfl, rfl⟩ := List.cons.inj heq
      cases hway with
      | again => exact .inl (List.mem_append_right _ (List.mem_cons_of_mem _ (mem_stages_self _ _)))
      | leave => exact .inr rfl
    · -- the body before the loop
      rcases ih h with h | h
      · exact .inl (List.mem_append_right _ (List.mem_cons_of_mem _ h))
      · exact .inl (h ▸ hloop)
  | _ =>
    -- a single step, after which nothing is left of the expression
    obtain ⟨rfl, rfl⟩ := List.cons.inj (List.mem_singleton.mp h)
    cases hway
    exact .inr rfl

/-- There are no more lists in a flat map than the longest list times the number of lists. -/
theorem length_flatMap_le {α β : Type} {f : α → List β} {n : Nat} {l : List α}
    (h : ∀ a ∈ l, (f a).length ≤ n) : (l.flatMap f).length ≤ l.length * n := by
  induction l with
  | nil => simp
  | cons a l ih =>
    obtain ⟨ha, hl⟩ := List.forall_mem_cons.mp h
    have hrest := ih hl
    rw [List.flatMap_cons, List.length_append, List.length_cons, Nat.succ_mul]
    omega

/-- **There are at most as many stages as the weight of the expression.** -/
theorem length_stages (e : Expr) (k : List Task) : (e.stages k).length ≤ e.weight := by
  induction e generalizing k with
  | group index e ih =>
    have h := ih (.close index :: k)
    simp only [Expr.stages, Expr.weight, List.length_cons]
    omega
  | seq a b iha ihb =>
    have ha := iha (.run b :: k)
    have hb := ihb k
    simp only [Expr.stages, Expr.weight, List.length_cons, List.length_append]
    omega
  | alt a b iha ihb =>
    have ha := iha k
    have hb := ihb k
    simp only [Expr.stages, Expr.weight, List.length_cons, List.length_append]
    omega
  | iter e min max greedy ih =>
    have hloop := ih (.loop e greedy :: k)
    have hbodies := length_flatMap_le (l := List.range (countedRounds min max))
      fun i _ => ih (afterRounds e min max greedy k (i + 1))
    have hcopies : (e.weight + 2) * (countedRounds min max + 1)
        ≤ (e.weight + 2) * (Expr.copies min max + 1) :=
      Nat.mul_le_mul_left _ (Nat.succ_le_succ (Nat.le_max_right ..))
    have hproduct : (e.weight + 2) * (countedRounds min max + 1)
        = countedRounds min max * e.weight + 2 * countedRounds min max + e.weight + 2 := by ring
    simp only [Expr.stages, Expr.weight, List.length_cons, List.length_append, List.length_map,
      List.length_range] at hbodies ⊢
    omega
  | _ => exact Nat.le_refl 1

/-! ### Places -/

/-- A place is known by the characters around it. -/
theorem Place.ext_iff {p q : Place} : p = q ↔ p.before = q.before ∧ p.rest = q.rest := by
  constructor
  · rintro rfl
    exact ⟨rfl, rfl⟩
  · obtain ⟨before, rest, left, h⟩ := p
    obtain ⟨before', rest', left', h'⟩ := q
    rintro ⟨hbefore, hrest⟩
    obtain rfl : before = before' := hbefore
    obtain rfl : rest = rest' := hrest
    obtain rfl : left = left' := h.trans h'.symm
    rfl

/-- **The places of a text are where it can be cut in two.** -/
theorem mem_places {input : List Char} {p : Place} :
    p ∈ places input ↔ ∃ before, input = before ++ p.rest ∧ p.before = before.getLast? := by
  have key : ∀ (rest : List Char) (left : Nat) (h : left = rest.length) (last : Option Char),
      p ∈ Place.onwards last rest left h ↔
        ∃ before, rest = before ++ p.rest ∧ p.before = before.getLast?.or last := by
    intro rest
    induction rest with
    | nil =>
      intro left h last
      rw [Place.onwards, List.mem_singleton, Place.ext_iff]
      constructor
      · rintro ⟨hbefore, hrest⟩
        exact ⟨[], by rw [hrest]; rfl, hbefore⟩
      · rintro ⟨before, happend, hbefore⟩
        obtain ⟨rfl, hrest⟩ := List.append_eq_nil_iff.mp happend.symm
        exact ⟨hbefore, hrest⟩
    | cons c rest ih =>
      intro left h last
      rw [Place.onwards, List.mem_cons, Place.ext_iff, ih]
      constructor
      · rintro (⟨hbefore, hrest⟩ | ⟨before, rfl, hbefore⟩)
        · exact ⟨[], hrest.symm, hbefore⟩
        · refine ⟨c :: before, rfl, ?_⟩
          rw [hbefore, List.getLast?_cons]
          cases before.getLast? <;> rfl
      · rintro ⟨before, happend, hbefore⟩
        rcases before with _ | ⟨d, before⟩
        · exact .inl ⟨hbefore, happend.symm⟩
        · obtain ⟨rfl, hrest⟩ := List.cons.inj happend
          refine .inr ⟨before, hrest, ?_⟩
          rw [hbefore, List.getLast?_cons]
          cases before.getLast? <;> rfl
  rw [places, key]
  simp

theorem start_mem_places (input : List Char) : Place.start input ∈ places input :=
  mem_places.mpr ⟨[], rfl, rfl⟩

/-- There is nothing before a place only at the start. -/
theorem eq_start_of_before {input : List Char} {p : Place} (h : p ∈ places input)
    (hbefore : p.before = none) : p = .start input := by
  obtain ⟨before, rfl, hlast⟩ := mem_places.mp h
  rw [hbefore, eq_comm, List.getLast?_eq_none_iff] at hlast
  exact Place.ext_iff.mpr ⟨hbefore, by rw [hlast]; rfl⟩

/-- There are at most as many characters ahead as the text has. -/
theorem left_le_length {input : List Char} {p : Place} (h : p ∈ places input) :
    p.left ≤ input.length := by
  obtain ⟨before, rfl, -⟩ := mem_places.mp h
  rw [p.left_eq, List.length_append]
  exact Nat.le_add_left ..

/-- **A place of a text is known by the number of characters ahead.** -/
theorem eq_of_left_eq {input : List Char} {p q : Place} (hp : p ∈ places input)
    (hq : q ∈ places input) (h : p.left = q.left) : p = q := by
  obtain ⟨before, happend, hbefore⟩ := mem_places.mp hp
  obtain ⟨before', happend', hbefore'⟩ := mem_places.mp hq
  rw [p.left_eq, q.left_eq] at h
  obtain ⟨rfl, hrest⟩ := List.append_inj' (happend.symm.trans happend') h
  exact Place.ext_iff.mpr ⟨hbefore.trans hbefore'.symm, hrest⟩

/-- The place after a character is a place of the same text. -/
theorem step?_mem_places {input : List Char} {f : Char → Bool} {p q : Place}
    (hp : p ∈ places input) (h : p.step? f = some q) : q ∈ places input := by
  obtain ⟨before, happend, -⟩ := mem_places.mp hp
  obtain ⟨last, _ | ⟨c, rest⟩, left, hleft⟩ := p
  · simp [Place.step?] at h
  · rw [Place.step?, Option.ite_none_right_eq_some] at h
    obtain rfl := Option.some.inj h.2
    exact mem_places.mpr ⟨before ++ [c], by rw [happend, List.append_assoc]; rfl, by simp⟩

theorem skip?_mem_places {input t : List Char} {p q : Place} (hp : p ∈ places input)
    (h : p.skip? t = some q) : q ∈ places input := by
  induction t generalizing p with
  | nil =>
    obtain rfl := Option.some.inj h
    exact hp
  | cons c t ih =>
    obtain ⟨m, hm, h⟩ := Option.bind_eq_some_iff.mp h
    exact ih (step?_mem_places hp hm) h

/-- **A search stays in its text.** -/
theorem mem_places_of_way {input : List Char} {t : Task} {k : List Task} {p : Place}
    {way : State} (hp : p ∈ places input) (h : Way k p t way) : way.2 ∈ places input := by
  cases h with
  | literal h => exact skip?_mem_places hp h
  | set h => exact step?_mem_places hp h
  | _ => exact hp

end PathRouting.Regex
