/-!
# Alternatives in turn

Both searches of this library, the one for regular expressions and the one for patterns, try
alternatives in order of preference and carry a memory of what they met from each failed
alternative to the next.

## Main definitions

* `firstWay` — the first alternative that succeeds, together with the memory after it.
-/

namespace PathRouting

variable {α β σ : Type}

/-- The first success among alternatives.  The memory goes from one alternative to the next, and
those after a success are not tried. -/
def firstWay (attempt : α → σ → Option β × σ) : List α → σ → Option β × σ
  | [], memory => (none, memory)
  | a :: rest, memory =>
    match attempt a memory with
    | (some b, memory) => (some b, memory)
    | (none, memory) => firstWay attempt rest memory

@[simp] theorem firstWay_nil (attempt : α → σ → Option β × σ) (memory : σ) :
    firstWay attempt [] memory = (none, memory) := rfl

theorem firstWay_cons_some {attempt : α → σ → Option β × σ} {a : α} {memory memory' : σ} {b : β}
    (h : attempt a memory = (some b, memory')) (rest : List α) :
    firstWay attempt (a :: rest) memory = (some b, memory') := by
  rw [firstWay, h]

theorem firstWay_cons_none {attempt : α → σ → Option β × σ} {a : α} {memory memory' : σ}
    (h : attempt a memory = (none, memory')) (rest : List α) :
    firstWay attempt (a :: rest) memory = firstWay attempt rest memory' := by
  rw [firstWay, h]

/-- Where the memory keeps a property under which it does not matter, the first success is that of
`List.findSome?`, and the memory after it has the property. -/
theorem firstWay_sound {attempt : α → σ → Option β × σ} {plain : α → Option β} {Inv : σ → Prop}
    {ways : List α} (h : ∀ a ∈ ways, ∀ memory, Inv memory →
      (attempt a memory).1 = plain a ∧ Inv (attempt a memory).2) {memory : σ} (hm : Inv memory) :
    (firstWay attempt ways memory).1 = ways.findSome? plain ∧
      Inv (firstWay attempt ways memory).2 := by
  induction ways generalizing memory with
  | nil => exact ⟨rfl, hm⟩
  | cons a rest ih =>
    obtain ⟨hfst, hsnd⟩ := h a List.mem_cons_self memory hm
    rw [firstWay, List.findSome?_cons]
    rcases ha : attempt a memory with ⟨_ | b, memory'⟩
    · rw [ha] at hfst hsnd
      rw [← hfst]
      exact ih (fun a' ha' => h a' (List.mem_cons_of_mem a ha')) hsnd
    · rw [ha] at hfst hsnd
      rw [← hfst]
      exact ⟨rfl, hsnd⟩

/-- A success is that of one of the alternatives. -/
theorem exists_of_firstWay_some {attempt : α → σ → Option β × σ} {ways : List α}
    {memory memory' : σ} {b : β} (h : firstWay attempt ways memory = (some b, memory')) :
    ∃ a ∈ ways, ∃ m, (attempt a m).1 = some b := by
  induction ways generalizing memory with
  | nil => simp at h
  | cons a rest ih =>
    rcases ha : attempt a memory with ⟨_ | b', m⟩
    · rw [firstWay_cons_none ha] at h
      obtain ⟨a', ha', hb⟩ := ih h
      exact ⟨a', List.mem_cons_of_mem a ha', hb⟩
    · rw [firstWay_cons_some ha] at h
      obtain ⟨rfl, -⟩ : b' = b ∧ m = memory' := by simpa using h
      exact ⟨a, List.mem_cons_self, memory, by rw [ha]⟩

/-- What every failure keeps holds while alternatives are tried, and what follows from it of every
success holds after the first. -/
theorem firstWay_keeps {attempt : α → σ → Option β × σ} (Inv After : σ → Prop) {ways : List α}
    (h : ∀ a ∈ ways, ∀ m, Inv m →
      After (attempt a m).2 ∧ ((attempt a m).1 = none → Inv (attempt a m).2))
    (hinv : ∀ m, Inv m → After m) {memory : σ} (hm : Inv memory) :
    After (firstWay attempt ways memory).2 ∧
      ((firstWay attempt ways memory).1 = none → Inv (firstWay attempt ways memory).2) := by
  induction ways generalizing memory with
  | nil => exact ⟨hinv memory hm, fun _ => hm⟩
  | cons a rest ih =>
    obtain ⟨hafter, hnone⟩ := h a List.mem_cons_self memory hm
    rw [firstWay]
    rcases ha : attempt a memory with ⟨_ | b, m⟩
    · rw [ha] at hnone
      exact ih (fun a' ha' => h a' (List.mem_cons_of_mem a ha')) (hnone rfl)
    · rw [ha] at hafter
      exact ⟨hafter, fun hfail => by simp at hfail⟩

/-- When no alternative succeeds, each of them has failed.  What the failure of one leaves behind is
there still after the others have failed too. -/
theorem firstWay_none {attempt : α → σ → Option β × σ} (Inv : σ → Prop) (Done : α → σ → Prop)
    {ways : List α} (hstep : ∀ a ∈ ways, ∀ m m', Inv m → attempt a m = (none, m') →
      Inv m' ∧ Done a m' ∧ ∀ b, Done b m → Done b m') {memory memory' : σ} (hm : Inv memory)
    (h : firstWay attempt ways memory = (none, memory')) :
    Inv memory' ∧ (∀ a ∈ ways, Done a memory') ∧ ∀ b, Done b memory → Done b memory' := by
  induction ways generalizing memory with
  | nil =>
    obtain rfl : memory = memory' := by simpa using h
    exact ⟨hm, by simp, fun _ hb => hb⟩
  | cons a rest ih =>
    rcases ha : attempt a memory with ⟨_ | b', m⟩
    · rw [firstWay_cons_none ha] at h
      obtain ⟨hinv, hdone, hkeep⟩ := hstep a List.mem_cons_self memory m hm ha
      obtain ⟨hinv', hrest, hkeep'⟩ :=
        ih (fun a' ha' => hstep a' (List.mem_cons_of_mem a ha')) hinv h
      exact ⟨hinv', List.forall_mem_cons.mpr ⟨hkeep' a hdone, hrest⟩,
        fun b hb => hkeep' b (hkeep b hb)⟩
    · rw [firstWay_cons_some ha] at h
      simp at h

/-- While all failures keep a property, a success is that of the first alternative that does not
fail, and when there is none all alternatives fail. -/
theorem firstWay_cases {attempt : α → σ → Option β × σ} {Inv : σ → Prop} {Fails : α → Prop}
    {Gives : α → β → Prop} {ways : List α} (h : ∀ a ∈ ways, ∀ m, Inv m →
      (∀ b, (attempt a m).1 = some b → Gives a b) ∧
      ((attempt a m).1 = none → Fails a ∧ Inv (attempt a m).2)) {memory : σ} (hm : Inv memory) :
    (∀ b, (firstWay attempt ways memory).1 = some b → ∃ earlier a later,
      ways = earlier ++ a :: later ∧ (∀ a' ∈ earlier, Fails a') ∧ Gives a b) ∧
    ((firstWay attempt ways memory).1 = none →
      (∀ a ∈ ways, Fails a) ∧ Inv (firstWay attempt ways memory).2) := by
  induction ways generalizing memory with
  | nil => exact ⟨fun b hb => by simp at hb, fun _ => ⟨by simp, hm⟩⟩
  | cons a rest ih =>
    obtain ⟨hsome, hnone⟩ := h a List.mem_cons_self memory hm
    rcases ha : attempt a memory with ⟨_ | b, m⟩
    · rw [ha] at hnone
      obtain ⟨hfails, hinv⟩ := hnone rfl
      obtain ⟨hsome', hnone'⟩ := ih (fun a' ha' => h a' (List.mem_cons_of_mem a ha')) hinv
      rw [firstWay_cons_none ha]
      refine ⟨fun b hb => ?_, fun hall => ?_⟩
      · obtain ⟨earlier, a', later, rfl, hearlier, hgives⟩ := hsome' b hb
        exact ⟨a :: earlier, a', later, rfl, List.forall_mem_cons.mpr ⟨hfails, hearlier⟩, hgives⟩
      · obtain ⟨hrest, hinv'⟩ := hnone' hall
        exact ⟨List.forall_mem_cons.mpr ⟨hfails, hrest⟩, hinv'⟩
    · rw [firstWay_cons_some ha]
      refine ⟨fun b' hb => ⟨[], a, rest, rfl, by simp, hsome b' ?_⟩, fun hnone => by simp at hnone⟩
      rw [ha]
      exact hb

end PathRouting
