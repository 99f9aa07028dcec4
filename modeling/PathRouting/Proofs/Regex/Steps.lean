import Mathlib.Logic.Relation
import PathRouting.Proofs.Regex.Matches

/-!
# What a search can come to

A search is always left with tasks at a place.  From one such state it goes on to others, and it has
found a match when no task is left.  A state comes to none left just when the tasks match, one after
the other, a stretch from its place on.

## Main definitions

* `Leads` — whether a state leads to another one in a step.
* `Reaches` — whether a state leads to another one in any number of steps.
* `Round`, `Way` — what a repetition and what a task can lead to.
* `Task.Does`, `AllDone` — whether a task, or tasks in a row, can take the search from place to
  place.

## Main results

* `mem_ways` — the ways of a task, one by one.
* `reaches_of_matches` — what an expression matches can be searched for.
* `reaches_done_iff` — a state comes to no task left when the tasks can be done.
-/

namespace PathRouting.Regex

/-- A state of a search: the tasks left and the place. -/
abbrev State := List Task × Place

/-- Whether a state leads to another one in a step. -/
inductive Leads : State → State → Prop
  /-- The first task is taken up in one of its ways. -/
  | step {t : Task} {k : List Task} {p : Place} {way : State} (h : way ∈ t.ways k p) :
      Leads (t :: k, p) way

/-- Whether a state leads to another one in any number of steps. -/
abbrev Reaches : State → State → Prop := Relation.ReflTransGen Leads

/-- Whether a task can take the search from one place to another. -/
def Task.Does : Task → Place → Place → Prop
  | run e => e.Matches
  | loop e _ => fun p q => ∃ n, Times e.Matches n p q
  | close _ => fun p q => p = q

/-- Whether tasks in a row can take the search from one place to another. -/
def AllDone : List Task → Place → Place → Prop
  | [], p, q => p = q
  | t :: k, p, q => ∃ m, t.Does p m ∧ AllDone k m q

/-! ### Rounds of a repetition -/

/-- What a repetition that has to be made at least `min` times, and at most `max` times, can lead
to. -/
inductive Round (e : Expr) (greedy : Bool) (k : List Task) : Nat → Option Nat → List Task → Prop
  /-- A round has to be made. -/
  | must {min : Nat} {max : Option Nat} (h : min ≠ 0 ∨ max ≠ none) :
      Round e greedy k (min + 1) max
        (.run e :: .run (.iter e min (max.map (· - 1)) greedy) :: k)
  /-- The last round that has to be made. -/
  | last : Round e greedy k 1 none (.run e :: .loop e greedy :: k)
  /-- A round may be made. -/
  | may {m : Nat} : Round e greedy k 0 (some (m + 1))
      (.run e :: .run (.iter e 0 (some m) greedy) :: k)
  /-- No further round is made. -/
  | stop {m : Nat} : Round e greedy k 0 (some m) k
  /-- Any number of rounds may be made. -/
  | enter (h : e.consumes = true) : Round e greedy k 0 none (.loop e greedy :: k)
  /-- A round that might match nothing is made before the others. -/
  | once (h : e.consumes = false) : Round e greedy k 0 none (.run e :: .loop e greedy :: k)
  /-- No such round is made. -/
  | skip (h : e.consumes = false) : Round e greedy k 0 none k

/-- **What a repetition leads to.** -/
theorem mem_choices_iter {e : Expr} {min : Nat} {max : Option Nat} {greedy : Bool}
    {k tasks : List Task} : tasks ∈ (Task.run (.iter e min max greedy)).choices k ↔
      Round e greedy k min max tasks := by
  constructor
  · intro h
    rcases min with _ | min
    · rcases max with _ | _ | m
      · cases hconsumes : e.consumes with
        | true =>
          obtain rfl : tasks = _ := by simpa [Task.choices, hconsumes] using h
          exact .enter hconsumes
        | false =>
          have hway : tasks = .run e :: .loop e greedy :: k ∨ tasks = k := by
            cases greedy <;> simpa [Task.choices, hconsumes, or_comm] using h
          rcases hway with rfl | rfl
          · exact .once hconsumes
          · exact .skip hconsumes
      · obtain rfl : tasks = _ := by simpa [Task.choices] using h
        exact .stop
      · have hway : tasks = .run e :: .run (.iter e 0 (some m) greedy) :: k ∨ tasks = k := by
          cases greedy <;> simpa [Task.choices, or_comm] using h
        rcases hway with rfl | rfl
        · exact .may
        · exact .stop
    · rcases min with _ | min
      · rcases max with _ | m
        · obtain rfl : tasks = _ := by simpa [Task.choices] using h
          exact .last
        · obtain rfl : tasks = _ := by simpa [Task.choices] using h
          exact .must (.inr (by simp))
      · obtain rfl : tasks = _ := by simpa [Task.choices] using h
        exact .must (.inl (Nat.succ_ne_zero min))
  · intro h
    cases h with
    | @must min max h =>
      rcases min with _ | min
      · rcases max with _ | m
        · simp at h
        · simp [Task.choices]
      · simp [Task.choices]
    | last => simp [Task.choices]
    | may => cases greedy <;> simp [Task.choices]
    | @stop m =>
      rcases m with _ | m <;> cases greedy <;> simp [Task.choices]
    | enter h => simp [Task.choices, h]
    | once h => cases greedy <;> simp [Task.choices, h]
    | skip h => cases greedy <;> simp [Task.choices, h]

/-! ### Ways of a task -/

/-- What a task with the tasks `k` after it can lead to at a place. -/
inductive Way (k : List Task) (p : Place) : Task → State → Prop
  /-- A group ends here. -/
  | close {index : Nat} : Way k p (.close index) (k, p)
  /-- One more round is made. -/
  | again {e : Expr} {greedy : Bool} : Way k p (.loop e greedy) (.run e :: .loop e greedy :: k, p)
  /-- No further round is made. -/
  | leave {e : Expr} {greedy : Bool} : Way k p (.loop e greedy) (k, p)
  /-- Nothing is to be done. -/
  | empty : Way k p (.run .empty) (k, p)
  /-- The text lies ahead. -/
  | literal {s : List Char} {q : Place} (h : p.skip? s = some q) :
      Way k p (.run (.literal s)) (k, q)
  /-- One of the characters lies ahead. -/
  | set {s : CharSet} {q : Place} (h : p.step? s.contains = some q) :
      Way k p (.run (.set s)) (k, q)
  /-- The assertion holds here. -/
  | look {l : Look} (h : l.holds p.before p.after = true) : Way k p (.run (.look l)) (k, p)
  /-- What a group captures ends where its body does. -/
  | group {index : Nat} {e : Expr} :
      Way k p (.run (.group index e)) (.run e :: .close index :: k, p)
  /-- Both parts have to be matched. -/
  | seq {a b : Expr} : Way k p (.run (.seq a b)) (.run a :: .run b :: k, p)
  /-- The first alternative is tried. -/
  | first {a b : Expr} : Way k p (.run (.alt a b)) (.run a :: k, p)
  /-- The second alternative is tried. -/
  | second {a b : Expr} : Way k p (.run (.alt a b)) (.run b :: k, p)
  /-- A repetition goes on. -/
  | round {e : Expr} {min : Nat} {max : Option Nat} {greedy : Bool} {tasks : List Task}
      (h : Round e greedy k min max tasks) : Way k p (.run (.iter e min max greedy)) (tasks, p)

/-- **What a task leads to.** -/
theorem mem_ways {t : Task} {k : List Task} {p : Place} {way : State} :
    way ∈ t.ways k p ↔ Way k p t way := by
  constructor
  · intro h
    cases t with
    | close index =>
      obtain rfl : way = (k, p) := by simpa [Task.ways, Task.choices] using h
      exact .close
    | loop e greedy =>
      have hway : way = (.run e :: .loop e greedy :: k, p) ∨ way = (k, p) := by
        cases greedy <;> simpa [Task.ways, Task.choices, or_comm] using h
      rcases hway with rfl | rfl
      · exact .again
      · exact .leave
    | run e =>
      cases e with
      | empty =>
        obtain rfl : way = (k, p) := by simpa [Task.ways, Task.choices] using h
        exact .empty
      | literal s =>
        obtain ⟨q, hq, rfl⟩ := List.mem_map.mp h
        exact .literal (by simpa using hq)
      | set s =>
        obtain ⟨q, hq, rfl⟩ := List.mem_map.mp h
        exact .set (by simpa using hq)
      | look l =>
        obtain ⟨hl, rfl⟩ : l.holds p.before p.after = true ∧ way = (k, p) := by
          simpa [Task.ways] using h
        exact .look hl
      | group index e =>
        obtain rfl : way = (.run e :: .close index :: k, p) := by
          simpa [Task.ways, Task.choices] using h
        exact .group
      | seq a b =>
        obtain rfl : way = (.run a :: .run b :: k, p) := by
          simpa [Task.ways, Task.choices] using h
        exact .seq
      | alt a b =>
        have hway : way = (.run a :: k, p) ∨ way = (.run b :: k, p) := by
          simpa [Task.ways, Task.choices] using h
        rcases hway with rfl | rfl
        · exact .first
        · exact .second
      | iter e min max greedy =>
        obtain ⟨tasks, htasks, rfl⟩ := List.mem_map.mp h
        exact .round (mem_choices_iter.mp htasks)
  · intro h
    cases h with
    | @again e greedy => cases greedy <;> simp [Task.ways, Task.choices]
    | @leave e greedy => cases greedy <;> simp [Task.ways, Task.choices]
    | literal h => simp [Task.ways, h]
    | set h => simp [Task.ways, h]
    | look h => simp [Task.ways, h]
    | round h => exact List.mem_map_of_mem (mem_choices_iter.mpr h)
    | _ => simp [Task.ways, Task.choices]

/-! ### From steps to matches -/

/-- A repetition that leads to tasks that can be done can be done before those after it. -/
theorem allDone_of_round {e : Expr} {min : Nat} {max : Option Nat} {greedy : Bool}
    {k tasks : List Task} {p q : Place} (h : Round e greedy k min max tasks)
    (hdone : AllDone tasks p q) : AllDone (.run (.iter e min max greedy) :: k) p q := by
  cases h with
  | must =>
    obtain ⟨m, he, m', ⟨n, hn, htimes⟩, hk⟩ := hdone
    exact ⟨m', ⟨n + 1, allowed_succ.mpr hn, m, he, htimes⟩, hk⟩
  | last =>
    obtain ⟨m, he, m', ⟨n, htimes⟩, hk⟩ := hdone
    exact ⟨m', ⟨n + 1, allowed_succ.mpr allowed_none, m, he, htimes⟩, hk⟩
  | may =>
    obtain ⟨m, he, m', ⟨n, hn, htimes⟩, hk⟩ := hdone
    exact ⟨m', ⟨n + 1, allowed_some_succ.mpr hn, m, he, htimes⟩, hk⟩
  | stop => exact ⟨p, ⟨0, allowed_zero, rfl⟩, hdone⟩
  | enter =>
    obtain ⟨m, ⟨n, htimes⟩, hk⟩ := hdone
    exact ⟨m, ⟨n, allowed_none, htimes⟩, hk⟩
  | once =>
    obtain ⟨m, he, m', ⟨n, htimes⟩, hk⟩ := hdone
    exact ⟨m', ⟨n + 1, allowed_none, m, he, htimes⟩, hk⟩
  | skip => exact ⟨p, ⟨0, allowed_none, rfl⟩, hdone⟩

/-- A task that leads on to tasks that can be done can be done before those after it. -/
theorem allDone_of_way {t : Task} {k : List Task} {p q : Place} {way : State}
    (h : Way k p t way) (hdone : AllDone way.1 way.2 q) : AllDone (t :: k) p q := by
  cases h with
  | close => exact ⟨p, rfl, hdone⟩
  | again =>
    obtain ⟨m, he, m', ⟨n, htimes⟩, hk⟩ := hdone
    exact ⟨m', ⟨n + 1, m, he, htimes⟩, hk⟩
  | leave => exact ⟨p, ⟨0, rfl⟩, hdone⟩
  | empty => exact ⟨p, rfl, hdone⟩
  | literal h => exact ⟨_, h, hdone⟩
  | set h => exact ⟨_, h, hdone⟩
  | look h => exact ⟨p, ⟨rfl, h⟩, hdone⟩
  | group =>
    obtain ⟨m, he, m', rfl, hk⟩ := hdone
    exact ⟨m, he, hk⟩
  | seq =>
    obtain ⟨m, ha, m', hb, hk⟩ := hdone
    exact ⟨m', ⟨m, ha, hb⟩, hk⟩
  | first =>
    obtain ⟨m, ha, hk⟩ := hdone
    exact ⟨m, .inl ha, hk⟩
  | second =>
    obtain ⟨m, hb, hk⟩ := hdone
    exact ⟨m, .inr hb, hk⟩
  | round h => exact allDone_of_round h hdone

/-- A state that comes to no task left has tasks that can be done. -/
theorem allDone_of_reaches {s : State} {q : Place} (h : Reaches s ([], q)) :
    AllDone s.1 s.2 q := by
  induction h using Relation.ReflTransGen.head_induction_on with
  | refl => rfl
  | head hstep _ ih =>
    obtain ⟨h⟩ := hstep
    exact allDone_of_way (mem_ways.mp h) ih

/-! ### From matches to steps -/

/-- One of the ways of a task is a step. -/
theorem reaches_of_way {t : Task} {k : List Task} {p : Place} {way s : State}
    (h : Way k p t way) (hreaches : Reaches way s) : Reaches (t :: k, p) s :=
  .head (.step (mem_ways.mpr h)) hreaches

/-- One of the rounds of a repetition is a step. -/
theorem reaches_of_round {e : Expr} {min : Nat} {max : Option Nat} {greedy : Bool}
    {k tasks : List Task} {p : Place} {s : State} (h : Round e greedy k min max tasks)
    (hreaches : Reaches (tasks, p) s) :
    Reaches (.run (.iter e min max greedy) :: k, p) s :=
  reaches_of_way (.round h) hreaches

/-- A body that can be searched for can be searched for any number of times. -/
theorem reaches_loop {e : Expr} (he : ∀ k p m, e.Matches p m → Reaches (.run e :: k, p) (k, m))
    (greedy : Bool) (k : List Task) {n : Nat} {p q : Place} (h : Times e.Matches n p q) :
    Reaches (.loop e greedy :: k, p) (k, q) := by
  induction n generalizing p with
  | zero =>
    obtain rfl := h
    exact reaches_of_way .leave .refl
  | succ n ih =>
    obtain ⟨m, hm, h⟩ := h
    exact reaches_of_way .again ((he _ _ _ hm).trans (ih h))

/-- A body that can be searched for can be searched for as often as is allowed. -/
theorem reaches_iter {e : Expr} (he : ∀ k p m, e.Matches p m → Reaches (.run e :: k, p) (k, m))
    (greedy : Bool) (k : List Task) {min n : Nat} {max : Option Nat} {p q : Place}
    (hn : Allowed min max n) (h : Times e.Matches n p q) :
    Reaches (.run (.iter e min max greedy) :: k, p) (k, q) := by
  induction n generalizing min max p with
  | zero =>
    obtain rfl := h
    rcases min with _ | min
    · rcases max with _ | m
      · cases hconsumes : e.consumes with
        | true => exact reaches_of_round (.enter hconsumes) (reaches_loop he greedy k (n := 0) rfl)
        | false => exact reaches_of_round (.skip hconsumes) .refl
      · exact reaches_of_round .stop .refl
    · exact absurd hn not_allowed_zero
  | succ n ih =>
    obtain ⟨m, hm, h⟩ := h
    rcases min with _ | min
    · rcases max with _ | _ | max
      · cases hconsumes : e.consumes with
        | true =>
          exact reaches_of_round (.enter hconsumes)
            (reaches_loop he greedy k (n := n + 1) ⟨m, hm, h⟩)
        | false =>
          exact reaches_of_round (.once hconsumes)
            ((he _ _ _ hm).trans (reaches_loop he greedy k h))
      · exact absurd (allowed_some_zero.mp hn) (Nat.succ_ne_zero n)
      · exact reaches_of_round .may ((he _ _ _ hm).trans (ih (allowed_some_succ.mp hn) h))
    · have hn := allowed_succ.mp hn
      rcases min with _ | min
      · rcases max with _ | max
        · exact reaches_of_round .last ((he _ _ _ hm).trans (reaches_loop he greedy k h))
        · exact reaches_of_round (.must (.inr (by simp))) ((he _ _ _ hm).trans (ih hn h))
      · exact reaches_of_round (.must (.inl (Nat.succ_ne_zero min)))
          ((he _ _ _ hm).trans (ih hn h))

/-- **What an expression matches can be searched for**, whatever is to be done after it. -/
theorem reaches_of_matches (e : Expr) (k : List Task) {p q : Place} (h : e.Matches p q) :
    Reaches (.run e :: k, p) (k, q) := by
  induction e generalizing k p q with
  | empty =>
    obtain rfl := h
    exact reaches_of_way .empty .refl
  | literal s => exact reaches_of_way (.literal h) .refl
  | set s => exact reaches_of_way (.set h) .refl
  | look l =>
    obtain ⟨rfl, hl⟩ := h
    exact reaches_of_way (.look hl) .refl
  | group index e ih =>
    have hclose : Reaches (.close index :: k, q) (k, q) := reaches_of_way .close .refl
    exact reaches_of_way .group ((ih _ h).trans hclose)
  | seq a b iha ihb =>
    obtain ⟨m, ha, hb⟩ := h
    exact reaches_of_way .seq ((iha _ ha).trans (ihb _ hb))
  | alt a b iha ihb =>
    rcases h with ha | hb
    · exact reaches_of_way .first (iha _ ha)
    · exact reaches_of_way .second (ihb _ hb)
  | iter e min max greedy ih =>
    obtain ⟨n, hn, htimes⟩ := h
    exact reaches_iter (fun k _ _ he => ih k he) greedy k hn htimes

/-- **An expression is found where it matches**: a search for it comes to no task left at the places
up to which it matches. -/
theorem reaches_done_iff {e : Expr} {p q : Place} :
    Reaches ([.run e], p) ([], q) ↔ e.Matches p q := by
  constructor
  · intro h
    obtain ⟨m, he, rfl⟩ := allDone_of_reaches h
    exact he
  · intro h
    exact reaches_of_matches e [] h

end PathRouting.Regex
