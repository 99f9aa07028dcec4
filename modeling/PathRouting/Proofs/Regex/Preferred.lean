import PathRouting.Proofs.Regex.Ahead

/-!
# The match that the preferences single out

Of all ways to match, a search has to give the one that the preferences single out: at every choice
the first way that leads to a match, whatever is left to be done after it.  It does not try all ways,
since it gives up where it comes to tasks that it has met at the same place before.  As long as
nothing is repeated without a bound that may match nothing, no tasks come round to themselves, so
what was met before has failed, and nothing is lost.

## Main definitions

* `Matched`, `Preferred` — whether a state comes to a match, and the one that is preferred.
* `Expr.eats`, `Expr.advances` — whether an expression takes a character, and whether all that is
  repeated without a bound does.
* `Below` — whether a state is nearer to the end of a search than another one.

## Main results

* `below_of_way` — a search gets nearer to its end step by step.
* `explore_preferred` — what a search from one place finds is preferred.
* `search_preferred` — a search finds the leftmost match, and of those from there the preferred one.
-/

namespace PathRouting.Regex

/-! ### Preferences -/

/-- Whether a state comes to no task left. -/
def Matched (s : State) : Prop := ∃ q, Reaches s ([], q)

/-- What the preferred way to do all tasks records: every task is taken up in the first of its ways
that comes to no task left. -/
inductive Preferred : List Task → Place → Slots → Slots → Prop
  /-- No task is left. -/
  | done {p : Place} {slots : Slots} : Preferred [] p slots slots
  /-- A task is taken up in a way before which all fail. -/
  | step {t : Task} {k : List Task} {p : Place} {slots found : Slots} {earlier later : List State}
      {way : State} (hways : t.ways k p = earlier ++ way :: later)
      (hfail : ∀ way' ∈ earlier, ¬Matched way')
      (h : Preferred way.1 way.2 (t.record slots p.left) found) : Preferred (t :: k) p slots found

/-! ### Steps that come nearer to the end -/

namespace Expr

/-- Whether a character is taken wherever the expression matches. -/
def eats : Expr → Bool
  | literal t => !t.isEmpty
  | set _ => true
  | group _ e => e.eats
  | seq a b => a.eats || b.eats
  | alt a b => a.eats && b.eats
  | iter e min _ _ => 0 < min && e.eats
  | _ => false

/-- Whether all that is repeated without a bound takes a character. -/
def advances : Expr → Bool
  | group _ e => e.advances
  | seq a b => a.advances && b.advances
  | alt a b => a.advances && b.advances
  | iter e _ most _ => e.advances && (most.isSome || e.eats)
  | _ => true

/-- A bound for the steps that a search for the expression takes before it takes a character. -/
def idleSteps : Expr → Nat
  | group _ e => e.idleSteps + 2
  | seq a b => a.idleSteps + b.idleSteps + 1
  | alt a b => a.idleSteps + b.idleSteps + 1
  | iter e min most _ => (e.idleSteps + 2) * (max min (most.getD 0) + 1)
  | _ => 1

end Expr

namespace Task

/-- Whether a character is taken before the task is done. -/
def eats : Task → Bool
  | run e => e.eats
  | _ => false

/-- Whether all that the task repeats without a bound takes a character. -/
def advances : Task → Bool
  | run e => e.advances
  | loop e _ => e.advances && e.eats
  | close _ => true

/-- A bound for the steps that the task takes before it takes a character. -/
def idleSteps : Task → Nat
  | run e => e.idleSteps
  | loop e _ => e.idleSteps + 1
  | close _ => 1

end Task

/-- A bound for the steps that tasks take before they take a character. -/
def idleSteps : List Task → Nat
  | [] => 0
  | t :: k => t.idleSteps + if t.eats then 0 else idleSteps k

/-- Whether a state is nearer to the end of a search than another one. -/
def Below (s s' : State) : Prop :=
  s.2.left < s'.2.left ∨ s.2.left = s'.2.left ∧ idleSteps s.1 < idleSteps s'.1

theorem Below.trans {s s' s'' : State} (h : Below s s') (h' : Below s' s'') : Below s s'' := by
  unfold Below at *
  omega

theorem not_below_self (s : State) : ¬Below s s := by
  simp [Below]

/-- A round leaves fewer steps before a character is taken. -/
theorem idleSteps_of_round {e : Expr} {greedy : Bool} {k tasks : List Task} {min : Nat}
    {most : Option Nat} (h : Round e greedy k min most tasks)
    (hmost : most.isSome = true ∨ e.eats = true) :
    idleSteps tasks < idleSteps (.run (.iter e min most greedy) :: k) := by
  have hone : e.idleSteps + 2 ≤ (e.idleSteps + 2) * (max min (most.getD 0) + 1) :=
    Nat.le_mul_of_pos_right _ (Nat.succ_pos _)
  cases h with
  | @must min most h =>
    -- of the rounds to come one less is left
    have hcount : max min ((most.map (· - 1)).getD 0) + 1 ≤ max (min + 1) (most.getD 0) := by
      cases most with
      | none => simp
      | some m =>
        simp only [Option.map_some, Option.getD_some]
        omega
    have hrounds : (e.idleSteps + 2) * (max min ((most.map (· - 1)).getD 0) + 1) + (e.idleSteps + 2)
        ≤ (e.idleSteps + 2) * (max (min + 1) (most.getD 0) + 1) := by
      rw [← Nat.mul_succ]
      exact Nat.mul_le_mul_left _ (Nat.succ_le_succ hcount)
    cases he : e.eats <;>
      simp [idleSteps, Task.idleSteps, Task.eats, Expr.idleSteps, Expr.eats, he] <;> omega
  | last =>
    have he := hmost.resolve_left (by simp)
    simp [idleSteps, Task.idleSteps, Task.eats, Expr.idleSteps, he] at hone ⊢
    omega
  | @may m =>
    have hrounds : (e.idleSteps + 2) * (m + 1 + 1)
        = (e.idleSteps + 2) * (m + 1) + (e.idleSteps + 2) := Nat.mul_succ ..
    cases he : e.eats <;>
      simp [idleSteps, Task.idleSteps, Task.eats, Expr.idleSteps, Expr.eats, he] <;> omega
  | stop => simp [idleSteps, Task.idleSteps, Task.eats, Expr.idleSteps, Expr.eats]
  | enter h =>
    simp [idleSteps, Task.idleSteps, Task.eats, Expr.idleSteps, Expr.eats]
  | once h =>
    have he := hmost.resolve_left (by simp)
    simp [idleSteps, Task.idleSteps, Task.eats, Expr.idleSteps, he] at hone ⊢
    omega
  | skip h => simp [idleSteps, Task.idleSteps, Task.eats, Expr.idleSteps, Expr.eats]

/-- **A search gets nearer to its end step by step.** -/
theorem below_of_way {t : Task} {k : List Task} {p : Place} {way : State} (h : Way k p t way)
    (ht : t.advances = true) : Below way (t :: k, p) := by
  -- without a character the steps become fewer
  have hsteps {tasks : List Task} (hless : idleSteps tasks < idleSteps (t :: k)) :
      Below (tasks, p) (t :: k, p) := .inr ⟨rfl, hless⟩
  cases h with
  | close | leave | empty | look =>
    exact hsteps (by simp [idleSteps, Task.idleSteps, Task.eats, Expr.idleSteps, Expr.eats])
  | again =>
    have heats := (Bool.and_eq_true_iff.mp ht).2
    exact hsteps (by simp [idleSteps, Task.idleSteps, Task.eats, heats]; omega)
  | @literal s q h =>
    have hleft := Place.left_of_skip? h
    cases s with
    | nil =>
      obtain rfl := Option.some.inj h
      exact hsteps (by simp [idleSteps, Task.idleSteps, Task.eats, Expr.idleSteps, Expr.eats])
    | cons c s =>
      rw [List.length_cons] at hleft
      exact .inl (by show q.left < p.left; omega)
  | set h => exact .inl (Place.left_of_step? h)
  | @group index e =>
    refine hsteps ?_
    cases he : e.eats <;>
      simp [idleSteps, Task.idleSteps, Task.eats, Expr.idleSteps, Expr.eats, he]
    omega
  | @seq a b =>
    refine hsteps ?_
    cases ha : a.eats <;> cases hb : b.eats <;>
      simp [idleSteps, Task.idleSteps, Task.eats, Expr.idleSteps, Expr.eats, ha, hb]
    all_goals omega
  | @first a b =>
    refine hsteps ?_
    cases ha : a.eats <;> cases hb : b.eats <;>
      simp [idleSteps, Task.idleSteps, Task.eats, Expr.idleSteps, Expr.eats, ha, hb]
    all_goals omega
  | @second a b =>
    refine hsteps ?_
    cases ha : a.eats <;> cases hb : b.eats <;>
      simp [idleSteps, Task.idleSteps, Task.eats, Expr.idleSteps, Expr.eats, ha, hb]
    all_goals omega
  | round h =>
    exact hsteps (idleSteps_of_round h (by simpa using (Bool.and_eq_true_iff.mp ht).2))

/-- What is repeated without a bound still takes a character after a step. -/
theorem advances_of_way {t : Task} {k : List Task} {p : Place} {way : State} (h : Way k p t way)
    (htasks : ∀ t' ∈ t :: k, t'.advances = true) : ∀ t' ∈ way.1, t'.advances = true := by
  obtain ⟨ht, hk⟩ := List.forall_mem_cons.mp htasks
  cases h with
  | close | leave | empty | literal | set | look => exact hk
  | again =>
    exact List.forall_mem_cons.mpr ⟨(Bool.and_eq_true_iff.mp ht).1, htasks⟩
  | group => exact List.forall_mem_cons.mpr ⟨ht, List.forall_mem_cons.mpr ⟨rfl, hk⟩⟩
  | seq =>
    obtain ⟨ha, hb⟩ := Bool.and_eq_true_iff.mp ht
    exact List.forall_mem_cons.mpr ⟨ha, List.forall_mem_cons.mpr ⟨hb, hk⟩⟩
  | first => exact List.forall_mem_cons.mpr ⟨(Bool.and_eq_true_iff.mp ht).1, hk⟩
  | second => exact List.forall_mem_cons.mpr ⟨(Bool.and_eq_true_iff.mp ht).2, hk⟩
  | @round e min most greedy tasks h =>
    obtain ⟨he, hmost⟩ := Bool.and_eq_true_iff.mp ht
    -- a repetition without a bound is of a body that takes a character
    have hloop (hnone : most = none) : (Task.loop e greedy).advances = true := by
      subst hnone
      exact Bool.and_eq_true_iff.mpr ⟨he, hmost⟩
    cases h with
    | @must min most h =>
      refine List.forall_mem_cons.mpr ⟨he, List.forall_mem_cons.mpr ⟨?_, hk⟩⟩
      refine Bool.and_eq_true_iff.mpr ⟨he, ?_⟩
      rwa [Option.isSome_map]
    | last | once => exact List.forall_mem_cons.mpr ⟨he, List.forall_mem_cons.mpr ⟨hloop rfl, hk⟩⟩
    | may =>
      exact List.forall_mem_cons.mpr
        ⟨he, List.forall_mem_cons.mpr ⟨Bool.and_eq_true_iff.mpr ⟨he, rfl⟩, hk⟩⟩
    | stop | skip => exact hk
    | enter => exact List.forall_mem_cons.mpr ⟨hloop rfl, hk⟩

/-! ### What a search finds -/

variable {input : List Char} {seen seen' : Seen}

/-- Whether of all states met only such are matched as are farther from the end than a state. -/
def Ahead (input : List Char) (s : State) (seen : Seen) : Prop :=
  ∀ s', s'.2 ∈ places input → Met seen s' → Matched s' → Below s s'

/-- What a search leaves behind that has failed: nothing that it has met is matched. -/
structure Failed (input : List Char) (seen seen' : Seen) : Prop where
  /-- There is room for every place of the text. -/
  size : seen'.size = input.length + 1
  /-- What had been met has still been met. -/
  grown : ∀ left tasks, seen.has left tasks = true → seen'.has left tasks = true
  /-- What is matched had been met. -/
  old : ∀ s, s.2 ∈ places input → Met seen' s → Matched s → Met seen s

theorem Failed.refl (hsize : seen.size = input.length + 1) : Failed input seen seen :=
  ⟨hsize, fun _ _ h => h, fun _ _ h _ => h⟩

theorem Failed.trans {seen'' : Seen} (h : Failed input seen seen') (h' : Failed input seen' seen'') :
    Failed input seen seen'' :=
  ⟨h'.size, fun left tasks hmet => h'.grown left tasks (h.grown left tasks hmet),
    fun s hs hmet hmatched => h.old s hs (h'.old s hs hmet hmatched) hmatched⟩

/-- What has been met when a state is added had been met before, or is the state. -/
theorem met_or_eq_of_add {tasks : List Task} {p : Place} (hsize : seen.size = input.length + 1)
    (hp : p ∈ places input) {s : State} (hs : s.2 ∈ places input)
    (hmet : Met (seen.add p.left tasks) s) : Met seen s ∨ s = (tasks, p) := by
  have hleft : p.left < seen.size := hsize ▸ Nat.lt_succ_of_le (left_le_length hp)
  rcases (Seen.has_add hleft tasks _ _).mp hmet with hold | ⟨hplace, htasks⟩
  · exact .inl hold
  · exact .inr (Prod.ext htasks (eq_of_left_eq hs hp hplace))

/-- A state that has failed can be added. -/
theorem Failed.of_add {tasks : List Task} {p : Place} (hsize : seen.size = input.length + 1)
    (hp : p ∈ places input) (hfails : ¬Matched (tasks, p))
    (h : Failed input (seen.add p.left tasks) seen') : Failed input seen seen' := by
  have hleft : p.left < seen.size := hsize ▸ Nat.lt_succ_of_le (left_le_length hp)
  refine ⟨h.size, fun left others hmet => ?_, fun s hs hmet hmatched => ?_⟩
  · exact h.grown left others ((Seen.has_add hleft tasks _ _).mpr (.inl hmet))
  · rcases met_or_eq_of_add hsize hp hs (h.old s hs hmet hmatched) with hold | rfl
    · exact hold
    · exact absurd hmatched hfails

/-- A way on from a state is ahead of what has been met with the state. -/
theorem Ahead.way {tasks : List Task} {p : Place} (hsize : seen.size = input.length + 1)
    (hp : p ∈ places input) (hahead : Ahead input (tasks, p) seen)
    (hm : Failed input (seen.add p.left tasks) seen') {way : State} (hbelow : Below way (tasks, p)) :
    Ahead input way seen' := by
  intro s hs hmet hmatched
  rcases met_or_eq_of_add hsize hp hs (hm.old s hs hmet hmatched) with hold | rfl
  · exact hbelow.trans (hahead s hs hold hmatched)
  · exact hbelow

/-- **What a search from one place finds is preferred**, and when it finds nothing, nothing that it
has met is a match. -/
theorem explore_preferred {e : Expr} {fuel : Nat} {tasks : List Task} {p : Place} {slots : Slots}
    (hsize : seen.size = input.length + 1) (hp : p ∈ places input)
    (htasks : tasks = [] ∨ tasks ∈ e.stages []) (hadvances : ∀ t ∈ tasks, t.advances = true)
    (hfuel : unmet e input seen < fuel) (hahead : Ahead input (tasks, p) seen) :
    (∀ found, (explore fuel tasks p slots seen).1 = some found → Preferred tasks p slots found) ∧
    ((explore fuel tasks p slots seen).1 = none →
      ¬Matched (tasks, p) ∧ Failed input seen (explore fuel tasks p slots seen).2) := by
  induction fuel generalizing tasks p slots seen with
  | zero => exact absurd hfuel (Nat.not_lt_zero _)
  | succ fuel ih =>
    rcases tasks with _ | ⟨t, k⟩
    · refine ⟨fun found h => ?_, fun h => by simp [explore] at h⟩
      obtain rfl : slots = found := by simpa [explore] using h
      exact .done
    have hstage := htasks.resolve_left (List.cons_ne_nil t k)
    rw [explore]
    split
    · next hmet =>
      -- what is matched and has been met is farther from the end
      exact ⟨fun found h => by simp at h, fun _ => ⟨fun hmatched =>
        not_below_self _ (hahead (t :: k, p) hp hmet hmatched), .refl hsize⟩⟩
    · next hnew =>
      have hleft : p.left < seen.size := hsize ▸ Nat.lt_succ_of_le (left_le_length hp)
      have hless := unmet_add hstage hp hleft (by simpa using hnew)
      have hsize' : (seen.add p.left (t :: k)).size = input.length + 1 :=
        (Seen.size_add ..).trans hsize
      have hways : ∀ way ∈ t.ways k p, ∀ m, Failed input (seen.add p.left (t :: k)) m →
          (∀ found, (explore fuel way.1 way.2 (t.record slots p.left) m).1 = some found →
            Preferred way.1 way.2 (t.record slots p.left) found) ∧
          ((explore fuel way.1 way.2 (t.record slots p.left) m).1 = none →
            ¬Matched way ∧ Failed input (seen.add p.left (t :: k))
              (explore fuel way.1 way.2 (t.record slots p.left) m).2) := by
        intro way hway m hm
        have hway := mem_ways.mp hway
        have hfuel' : unmet e input m < fuel := by
          have hmono := unmet_mono e input hm.grown
          omega
        have hahead' : Ahead input way m :=
          hahead.way hsize hp hm (below_of_way hway (hadvances t List.mem_cons_self))
        refine (ih hm.size (mem_places_of_way hp hway) (stages_closed hstage hway).symm
          (advances_of_way hway hadvances) hfuel' hahead').imp_right fun hnone h => ?_
        exact ⟨(hnone h).1, hm.trans (hnone h).2⟩
      obtain ⟨hsome, hnone⟩ := firstWay_cases hways (Failed.refl hsize')
      refine ⟨fun found h => ?_, fun h => ?_⟩
      · obtain ⟨earlier, way, later, hsplit, hfail, hpreferred⟩ := hsome found h
        exact .step hsplit hfail hpreferred
      · obtain ⟨hall, hfailed⟩ := hnone h
        have hfails : ¬Matched (t :: k, p) := by
          rintro ⟨q, hq⟩
          obtain ⟨way, ⟨hway⟩, hq⟩ := hq.cases_head.resolve_left (by simp)
          exact hall way hway ⟨q, hq⟩
        exact ⟨hfails, .of_add hsize hp hfails hfailed⟩

/-- **A search finds the leftmost match, and of those from there the preferred one.** -/
theorem search_preferred {e : Expr} (hadvances : e.advances = true) {found : Slots}
    (h : search e input = some found) : ∃ earlier p later, places input = earlier ++ p :: later ∧
      (∀ p' ∈ earlier, ∀ q, ¬e.Matches p' q) ∧ Preferred [.run e] p [] found := by
  have hsize : (Seen.none input.length).size = input.length + 1 := by simp [Seen.none]
  have hstarts : ∀ p ∈ places input, ∀ m, Failed input (Seen.none input.length) m →
      (∀ found, (explore (fuelFor e input.length) [.run e] p [] m).1 = some found →
        Preferred [.run e] p [] found) ∧
      ((explore (fuelFor e input.length) [.run e] p [] m).1 = none → ¬Matched ([.run e], p) ∧
        Failed input (Seen.none input.length)
          (explore (fuelFor e input.length) [.run e] p [] m).2) := by
    intro p hp m hm
    -- nothing that has been met is matched, since nothing had been met
    have hahead : Ahead input ([.run e], p) m := fun s hs hmet hmatched =>
      absurd (hm.old s hs hmet hmatched) (by simp [Met, has_none])
    refine (explore_preferred hm.size hp (.inr (mem_stages_self e []))
      (List.forall_mem_singleton.mpr hadvances) (unmet_lt_fuelFor e input m) hahead).imp_right
      fun hnone h => ?_
    exact ⟨(hnone h).1, hm.trans (hnone h).2⟩
  obtain ⟨earlier, p, later, hsplit, hfail, hpreferred⟩ :=
    (firstWay_cases hstarts (.refl hsize)).1 found h
  exact ⟨earlier, p, later, hsplit,
    fun p' hp' q hq => hfail p' hp' ⟨q, reaches_done_iff.mpr hq⟩, hpreferred⟩

end PathRouting.Regex
