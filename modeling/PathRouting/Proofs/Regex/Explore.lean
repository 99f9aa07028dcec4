import Mathlib.Data.Finset.Card
import Mathlib.Data.List.ProdSigma
import PathRouting.Proofs.Regex.Stages

/-!
# The search finds what there is to find

A search gives up where it comes to tasks that it has met at the same place before.  Nothing is lost
by that: when it fails, everything that it has met leads only to what it has met too, and nothing
that it has met is a match.  Nor does it run out of fuel, since it takes up no tasks twice at one place.

## Main definitions

* `Met` — whether a state has been met.
* `ClosedBut`, `Kept` — whether what has been met leads only to what has been met, and what else a
  search leaves behind that has failed.
* `unmet` — the number of states that have not been met.

## Main results

* `explore_none` — a search that fails leaves closed what it has met.
* `reaches_of_explore` — a search that succeeds has come to no task left.
* `search_isSome_iff`, `search_anchored` — a text has a match when the expression matches a stretch
  of it, or, between its ends, the whole of it.
-/

namespace PathRouting.Regex

variable {input : List Char} {seen seen' : Seen}

/-- Whether a state has been met. -/
def Met (seen : Seen) (s : State) : Prop := seen.has s.2.left s.1 = true

/-- Whether everything that has been met, but for some states, leads only to what has been met and
has tasks left. -/
def ClosedBut (input : List Char) (pending : State → Prop) (seen : Seen) : Prop :=
  ∀ s, s.2 ∈ places input → Met seen s → ¬pending s → ∀ s', Leads s s' → s'.1 ≠ [] ∧ Met seen s'

/-- What a search leaves behind that has failed. -/
structure Kept (input : List Char) (pending : State → Prop) (seen seen' : Seen) : Prop where
  /-- There is room for every place of the text. -/
  size : seen'.size = input.length + 1
  /-- What has been met leads only to what has been met. -/
  closed : ClosedBut input pending seen'
  /-- What had been met has still been met. -/
  grown : ∀ left tasks, seen.has left tasks = true → seen'.has left tasks = true

/-! ### States that have not been met -/

/-- The tasks of a search for an expression with the numbers of characters that may be ahead. -/
def table (e : Expr) (input : List Char) : Finset (List Task × Nat) :=
  ((e.stages []).product (List.range (input.length + 1))).toFinset

/-- The number of states that have not been met. -/
def unmet (e : Expr) (input : List Char) (seen : Seen) : Nat :=
  ((table e input).filter fun s => seen.has s.2 s.1 = false).card

theorem mem_table {e : Expr} {tasks : List Task} {p : Place} (htasks : tasks ∈ e.stages [])
    (hp : p ∈ places input) : (tasks, p.left) ∈ table e input := by
  rw [table, List.mem_toFinset]
  exact List.mem_product.mpr
    ⟨htasks, List.mem_range.mpr (Nat.lt_succ_of_le (left_le_length hp))⟩

/-- The more has been met, the less has not. -/
theorem unmet_mono (e : Expr) (input : List Char) (h : ∀ left tasks, seen.has left tasks = true →
    seen'.has left tasks = true) : unmet e input seen' ≤ unmet e input seen := by
  refine Finset.card_le_card fun s hs => ?_
  rw [Finset.mem_filter] at hs ⊢
  refine ⟨hs.1, ?_⟩
  by_contra hmet
  rw [h _ _ (by simpa using hmet)] at hs
  simp at hs

/-- Less is unmet once tasks are met that had not been. -/
theorem unmet_add {e : Expr} {tasks : List Task} {p : Place} (htasks : tasks ∈ e.stages [])
    (hp : p ∈ places input) (hsize : p.left < seen.size)
    (hnew : seen.has p.left tasks = false) :
    unmet e input (seen.add p.left tasks) < unmet e input seen := by
  have hhas := Seen.has_add hsize tasks
  refine Finset.card_lt_card (Finset.ssubset_iff_of_subset (fun s hs => ?_) |>.mpr
    ⟨(tasks, p.left), ?_, ?_⟩)
  · rw [Finset.mem_filter] at hs ⊢
    refine ⟨hs.1, ?_⟩
    by_contra hmet
    rw [(hhas _ _).mpr (.inl (by simpa using hmet))] at hs
    simp at hs
  · exact Finset.mem_filter.mpr ⟨mem_table htasks hp, hnew⟩
  · rw [Finset.mem_filter, (hhas _ _).mpr (.inr ⟨rfl, rfl⟩)]
    simp

/-- There are fewer states than the search has fuel for. -/
theorem unmet_lt_fuelFor (e : Expr) (input : List Char) (seen : Seen) :
    unmet e input seen < fuelFor e input.length := by
  have htable : (table e input).card ≤ (e.stages []).length * (input.length + 1) := by
    refine (List.toFinset_card_le _).trans (Nat.le_of_eq ?_)
    exact (List.length_product ..).trans (by rw [List.length_range])
  have hstages : (e.stages []).length * (input.length + 1)
      ≤ (e.weight + 2) * (input.length + 1) :=
    Nat.mul_le_mul_right _ (Nat.le_trans (length_stages e []) (Nat.le_add_right _ 2))
  have hfilter : unmet e input seen ≤ (table e input).card := Finset.card_filter_le _ _
  exact Nat.lt_succ_of_le (hfilter.trans (htable.trans hstages))

/-! ### Failure -/

/-- **A search that fails leaves closed what it has met.**  It was asked for some tasks and has met
them. -/
theorem explore_none {e : Expr} {fuel : Nat} {tasks : List Task} {p : Place} {slots : Slots}
    {pending : State → Prop} (hsize : seen.size = input.length + 1) (hp : p ∈ places input)
    (htasks : tasks = [] ∨ tasks ∈ e.stages []) (hfuel : unmet e input seen < fuel)
    (hclosed : ClosedBut input pending seen)
    (h : explore fuel tasks p slots seen = (none, seen')) :
    tasks ≠ [] ∧ Met seen' (tasks, p) ∧ Kept input pending seen seen' := by
  induction fuel generalizing tasks p slots seen seen' pending with
  | zero => exact absurd hfuel (Nat.not_lt_zero _)
  | succ fuel ih =>
    rcases tasks with _ | ⟨t, k⟩
    · simp [explore] at h
    have hstage := htasks.resolve_left (List.cons_ne_nil t k)
    have hleft : p.left < seen.size := hsize ▸ Nat.lt_succ_of_le (left_le_length hp)
    have hhas := Seen.has_add hleft (t :: k)
    rw [explore] at h
    split at h
    · next hmet =>
      obtain rfl : seen = seen' := (Prod.mk.inj h).2
      exact ⟨List.cons_ne_nil t k, hmet, hsize, hclosed, fun _ _ hmet => hmet⟩
    · next hnew =>
      have hless := unmet_add hstage hp hleft (by simpa using hnew)
      -- while the ways of a state are tried, the state itself is not settled
      let pending' : State → Prop := fun s => pending s ∨ s = (t :: k, p)
      have hadded : ClosedBut input pending' (seen.add p.left (t :: k)) := by
        intro s hs hmet hpending s' hleads
        obtain ⟨hpending, hne⟩ := not_or.mp hpending
        rcases (hhas _ _).mp hmet with hold | ⟨hplace, htasks⟩
        · obtain ⟨hne', hmet'⟩ := hclosed s hs hold hpending s' hleads
          exact ⟨hne', (hhas _ _).mpr (.inl hmet')⟩
        · exact absurd (Prod.ext htasks (eq_of_left_eq hs hp hplace)) hne
      have hway : ∀ way ∈ t.ways k p, ∀ m m', Kept input pending' (seen.add p.left (t :: k)) m →
          explore fuel way.1 way.2 (t.record slots p.left) m = (none, m') →
          Kept input pending' (seen.add p.left (t :: k)) m' ∧ (way.1 ≠ [] ∧ Met m' way) ∧
            ∀ way' : State, way'.1 ≠ [] ∧ Met m way' → way'.1 ≠ [] ∧ Met m' way' := by
        intro way hway m m' hm hexplore
        have hway := mem_ways.mp hway
        have hstage' : way.1 = [] ∨ way.1 ∈ e.stages [] := (stages_closed hstage hway).symm
        have hfuel' : unmet e input m < fuel := by
          have hmono := unmet_mono e input hm.grown
          omega
        obtain ⟨hne, hmet, hkept⟩ := ih hm.size (mem_places_of_way hp hway) hstage' hfuel'
          hm.closed hexplore
        exact ⟨⟨hkept.size, hkept.closed, fun left others h => hkept.grown _ _ (hm.grown _ _ h)⟩,
          ⟨hne, hmet⟩, fun way' h => ⟨h.1, hkept.grown _ _ h.2⟩⟩
      obtain ⟨hkept, hdone, -⟩ := firstWay_none _ (fun way m => way.1 ≠ [] ∧ Met m way) hway
        ⟨(Seen.size_add ..).trans hsize, hadded, fun _ _ hmet => hmet⟩ h
      refine ⟨List.cons_ne_nil t k, hkept.grown _ _ ((hhas _ _).mpr (.inr ⟨rfl, rfl⟩)),
        hkept.size, ?_, fun left others hmet => hkept.grown _ _ ((hhas _ _).mpr (.inl hmet))⟩
      intro s hs hmet hpending s' hleads
      by_cases heq : s = (t :: k, p)
      · subst heq
        obtain ⟨hway⟩ := hleads
        exact hdone _ hway
      · exact hkept.closed s hs hmet (not_or.mpr ⟨hpending, heq⟩) s' hleads

/-- Where everything that has been met leads only to what has been met, nothing that has been met
comes to a match. -/
theorem not_reaches_of_closed (hclosed : ClosedBut input (fun _ => False) seen) {s : State}
    (hs : s.2 ∈ places input) (hmet : Met seen s) (hne : s.1 ≠ []) (q : Place) :
    ¬Reaches s ([], q) := by
  intro h
  suffices hend : ∀ s', Reaches s s' → s'.1 ≠ [] ∧ s'.2 ∈ places input ∧ Met seen s' from
    (hend _ h).1 rfl
  intro s' h
  induction h with
  | refl => exact ⟨hne, hs, hmet⟩
  | tail _ hstep ih =>
    obtain ⟨-, hplace, hmet⟩ := ih
    obtain ⟨hne', hmet'⟩ := hclosed _ hplace hmet not_false _ hstep
    obtain ⟨hway⟩ := hstep
    exact ⟨hne', mem_places_of_way hplace (mem_ways.mp hway), hmet'⟩

/-! ### Success -/

/-- **A search that succeeds has come to no task left.** -/
theorem reaches_of_explore {fuel : Nat} {tasks : List Task} {p : Place} {slots found : Slots}
    (h : (explore fuel tasks p slots seen).1 = some found) : ∃ q, Reaches (tasks, p) ([], q) := by
  induction fuel generalizing tasks p slots seen with
  | zero => simp [explore] at h
  | succ fuel ih =>
    rcases tasks with _ | ⟨t, k⟩
    · exact ⟨p, .refl⟩
    · rw [explore] at h
      split at h
      · simp at h
      · generalize hresult : firstWay _ _ _ = result at h
        obtain ⟨found', seen'⟩ := result
        obtain rfl : found' = some found := h
        obtain ⟨way, hway, m, hsome⟩ := exists_of_firstWay_some hresult
        obtain ⟨q, hq⟩ := ih hsome
        exact ⟨q, reaches_of_way (mem_ways.mp hway) hq⟩

/-! ### Searching a text -/

theorem has_none (length left : Nat) (tasks : List Task) :
    (Seen.none length).has left tasks = false := by
  have hget : (Seen.none length).getD left .empty = .empty := by
    rw [Array.getD_eq_getD_getElem?, Seen.none, Array.getElem?_replicate]
    split <;> rfl
  simp [Seen.has, Seen.marked, hget]

/-- **A text has a match when the expression matches a stretch of it.** -/
theorem search_isSome_iff (e : Expr) (input : List Char) :
    (search e input).isSome = true ↔ ∃ p ∈ places input, ∃ q, e.Matches p q := by
  constructor
  · intro h
    obtain ⟨found, hfound⟩ := Option.isSome_iff_exists.mp h
    rw [search] at hfound
    generalize hresult : firstWay _ _ _ = result at hfound
    obtain ⟨found', seen'⟩ := result
    obtain rfl : found' = some found := hfound
    obtain ⟨p, hp, m, hsome⟩ := exists_of_firstWay_some hresult
    obtain ⟨q, hq⟩ := reaches_of_explore hsome
    exact ⟨p, hp, q, reaches_done_iff.mp hq⟩
  · rintro ⟨p, hp, q, hmatch⟩
    by_contra hnone
    rw [search] at hnone
    generalize hresult : firstWay _ _ _ = result at hnone
    obtain ⟨found, seen'⟩ := result
    obtain rfl : found = none := by simpa using hnone
    have hstart : Kept input (fun _ => False) (Seen.none input.length) (Seen.none input.length) :=
      ⟨by simp [Seen.none], fun s _ hmet => absurd hmet (by simp [Met, has_none]), fun _ _ h => h⟩
    obtain ⟨hkept, hmet, -⟩ := firstWay_none _ (fun p m => Met m ([.run e], p))
      (fun p hp m m' hm hexplore => by
        obtain ⟨-, hmet, hkept⟩ := explore_none hm.size hp (.inr (mem_stages_self e []))
          (unmet_lt_fuelFor e input m) hm.closed hexplore
        exact ⟨⟨hkept.size, hkept.closed, fun left others h => hkept.grown _ _ (hm.grown _ _ h)⟩,
          hmet, fun p' hmet' => hkept.grown _ _ hmet'⟩)
      hstart hresult
    exact not_reaches_of_closed hkept.closed hp (hmet p hp) (List.cons_ne_nil _ _) q
      (reaches_done_iff.mpr hmatch)

/-- **Between the ends of a text an expression is found when it matches the whole of it.** -/
theorem search_anchored (e : Expr) (input : List Char) :
    (search (Expr.sequence [.look .textStart, e, .look .textEnd]) input).isSome = true ↔
      e.Spans input := by
  rw [search_isSome_iff]
  simp only [matches_anchored, Expr.Spans]
  constructor
  · rintro ⟨p, hp, q, hbefore, he, hrest⟩
    obtain rfl := eq_start_of_before hp hbefore
    exact ⟨q, he, hrest⟩
  · rintro ⟨q, he, hrest⟩
    exact ⟨_, start_mem_places input, q, rfl, he, hrest⟩

end PathRouting.Regex
