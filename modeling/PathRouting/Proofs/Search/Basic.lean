import Mathlib.Data.List.Chain
import PathRouting.Pattern.Search

/-!
# The search, element by element

The search looks at the first element of a pattern and goes on with the elements after it, or,
past a `**`, with the elements after the next one.  The equations for the kinds of elements are
stated here once, together with the induction that follows them, so that nothing else has to
unfold the search.

## Main definitions

* `ElementKind.takes` — the kinds for which `Query.take?` decides.
* `ElementKind.fixed` — the kinds that match exactly one element of a path.
* `ElementKind.startsAtSeparator`, `Adjoining` — which elements may follow one another.
* `Query.restBindings` — what an element that takes all that is left records.
* `attempt` — what the search makes of one place to restart at.

## Main results

* `search_induction` — induction over the elements of a pattern as the search goes through them.
* `mem_restarts`, `exists_restarts_cons` — the places to restart at, and the first of them.
-/

namespace PathRouting

/-! ### Kinds of elements -/

/-- Whether `Query.take?` decides: the element takes one segment, or fails. -/
def ElementKind.takes : ElementKind → Bool
  | literal .. => true
  | singleChars .. => true
  | capture .. => true
  | mixed .. => true
  | _ => false

/-- Whether the element is a separator or takes one segment that it decides on. -/
def ElementKind.fixed (k : ElementKind) : Bool := k.isSeparator || k.takes

theorem ElementKind.fixed_iff {k : ElementKind} :
    k.fixed = true ↔ k = .separator ∨ k.takes = true := by
  cases k <;> simp [fixed, isSeparator, takes]

/-- What takes one segment does not take all that is left. -/
theorem ElementKind.isCatchAll_of_takes {k : ElementKind} (h : k.takes = true) :
    k.isCatchAll = false := by
  cases k <;> first | rfl | simp [takes] at h

/-- The kinds of elements as the search tells them apart. -/
theorem ElementKind.cases_search (k : ElementKind) :
    k = separator ∨ k = wildcard ∨ k = segments ∨ k.isCatchAll = true ∨ k.takes = true := by
  cases k <;> simp [isCatchAll, takes]

/-- Whether the element matches only at a separator or at the end of a path. -/
def ElementKind.startsAtSeparator : ElementKind → Bool
  | separator => true
  | rest _ => true
  | captureRest _ (some _) => true
  | _ => false

/-- Of two neighbours the first is a separator, or the second starts at one. -/
def Adjoining (es : List PatternElement) : Prop :=
  es.IsChain fun e e' => e.kind = .separator ∨ e'.kind.startsAtSeparator = true

namespace Adjoining

variable {e : PatternElement} {after : List PatternElement}

theorem tail (h : Adjoining (e :: after)) : Adjoining after := List.IsChain.tail h

/-- Only after a separator there may be anything. -/
theorem startsAtSeparator (h : Adjoining (e :: after)) (he : e.kind ≠ .separator) :
    ∀ e' ∈ after.head?, e'.kind.startsAtSeparator = true :=
  fun _ he' => (List.IsChain.rel_head? h he').resolve_left he

end Adjoining

/-! ### Places in a path -/

namespace Query

variable {q : Query} {index : Nat}

theorem lt_of_isSeparator (h : q.isSeparator index = true) : index < q.length := by
  by_contra hge
  rw [isSeparator, Array.getElem?_eq_none (Nat.le_of_not_lt hge)] at h
  simp at h

theorem lt_of_segment? {s : Segment} (h : q.segment? index = some s) : index < q.length := by
  by_contra hge
  rw [segment?, Array.getElem?_eq_none (Nat.le_of_not_lt hge)] at h
  simp at h

/-- Where a segment is, there is no separator. -/
theorem isSeparator_of_segment? {s : Segment} (h : q.segment? index = some s) :
    q.isSeparator index = false := by
  obtain ⟨e, he, hs⟩ := Option.bind_eq_some_iff.mp h
  rw [isSeparator, he]
  cases e with
  | separator p c => simp [PathElement.segment?] at hs
  | segment s => rfl

/-- When the start of a path suffices, it ends at a separator or at the end of the path. -/
theorem finish_ofStart (hq : q.ofStart = true) {afterSegment : Bool} {o : Outcome} :
    q.finish index afterSegment = some o ↔
      (index < q.length → q.isSeparator index = true) ∧ o = ⟨[], some index⟩ := by
  rw [finish, if_pos hq, Option.ite_none_left_eq_some]
  simp [@eq_comm _ o]

/-- A whole path ends with the elements, or with one separator more. -/
theorem finish_whole (hq : q.ofStart = false) {afterSegment : Bool} {o : Outcome} :
    q.finish index afterSegment = some o ↔
      (index = q.length ∨ afterSegment = true ∧ q.optionalTrailingSeparator = true ∧
        index + 1 = q.length ∧ q.isSeparator index = true) ∧ o = ⟨[], none⟩ := by
  rw [finish, if_neg (by simp [hq]), Option.ite_none_right_eq_some]
  simp [@eq_comm _ o, and_assoc]

/-- The rest of a path is taken from a separator on or at the end of the path. -/
theorem finishWithRest_eq_some {bs : List Binding} {o : Outcome} :
    q.finishWithRest index bs = some o ↔ (index < q.length → q.isSeparator index = true) ∧
      o = ⟨q.recorded bs, if q.ofStart then some q.length else none⟩ := by
  rw [finishWithRest, Option.ite_none_left_eq_some]
  simp [@eq_comm _ o]

/-- What an element that takes all that is left records. -/
def restBindings (q : Query) (k : ElementKind) (index : Nat) : List Binding :=
  match k with
  | .captureRest name _ => [q.restBinding name index]
  | _ => []

end Query

/-! ### Equations -/

section Equations

variable {q : Query} {e : PatternElement}

/-- The attempt to match the elements after a `**` at one of the places to restart at. -/
def attempt (q : Query) (next : PatternElement) (later : List PatternElement) :
    Restart → Option Outcome
  | .atIndex i => search q (next :: later) i false
  | .pastSeparator => search q later 0 false

theorem search_nil (index : Nat) (afterSegment : Bool) :
    search q [] index afterSegment = q.finish index afterSegment := by
  rw [search]

theorem search_separator (h : e.kind = .separator) (after : List PatternElement) (index : Nat)
    (afterSegment : Bool) : search q (e :: after) index afterSegment
      = if q.isSeparator index then search q after (index + 1) false else none := by
  rw [search.eq_def]
  simp only [h]

theorem search_wildcard (h : e.kind = .wildcard) (after : List PatternElement) (index : Nat)
    (afterSegment : Bool) : search q (e :: after) index afterSegment
      = match q.segment? index with
        | some s =>
          if !after.isEmpty && s.value.isEmpty then none else search q after (index + 1) true
        | none => if q.length ≤ index && after.isEmpty then q.finish index false else none := by
  rw [search.eq_def]
  cases hs : q.segment? index <;> simp only [h, hs]

theorem search_lastSegments (h : e.kind = .segments) (index : Nat) (afterSegment : Bool) :
    search q [e] index afterSegment = q.finish q.length false := by
  rw [search.eq_def]
  simp only [h]

theorem search_segments (h : e.kind = .segments) (next : PatternElement)
    (later : List PatternElement) (index : Nat) (afterSegment : Bool) :
    search q (e :: next :: later) index afterSegment
      = (restarts q index next).findSome? (attempt q next later) := by
  obtain ⟨position, kind⟩ := e
  obtain rfl : kind = .segments := h
  exact search.eq_def ..

theorem search_catchAll (h : e.kind.isCatchAll = true) (after : List PatternElement) (index : Nat)
    (afterSegment : Bool) : search q (e :: after) index afterSegment
      = q.finishWithRest index (q.restBindings e.kind index) := by
  rw [search.eq_def]
  obtain ⟨position, k⟩ := e
  cases k <;> first | rfl | simp [ElementKind.isCatchAll] at h

theorem search_takes (h : e.kind.takes = true) (after : List PatternElement) (index : Nat)
    (afterSegment : Bool) : search q (e :: after) index afterSegment
      = ((q.segment? index).bind fun s => q.take? s e.kind).bind fun bs =>
          (search q after (index + 1) true).map (·.prepend bs) := by
  rw [Option.bind_assoc, search.eq_def]
  obtain ⟨position, k⟩ := e
  cases k <;> first | rfl | simp [ElementKind.takes] at h

end Equations

/-! ### Successes -/

section Successes

variable {q : Query} {e : PatternElement} {after : List PatternElement} {index : Nat}
  {afterSegment : Bool} {o : Outcome}

theorem search_separator_eq_some (h : e.kind = .separator) :
    search q (e :: after) index afterSegment = some o ↔
      q.isSeparator index = true ∧ search q after (index + 1) false = some o := by
  rw [search_separator h, Option.ite_none_right_eq_some]

/-- A `*` takes a segment, which must not be empty unless the `*` is the last element, or it is the
last element at the end of the path. -/
theorem search_wildcard_eq_some (h : e.kind = .wildcard) :
    search q (e :: after) index afterSegment = some o ↔
      (∃ s, q.segment? index = some s ∧ (after = [] ∨ s.value ≠ []) ∧
        search q after (index + 1) true = some o) ∨
      (q.length ≤ index ∧ after = [] ∧ q.finish index false = some o) := by
  rw [search_wildcard h]
  split
  · next s hs =>
    have hlt := Query.lt_of_segment? hs
    rw [Option.ite_none_left_eq_some]
    simp [hs, Nat.not_le.mpr hlt, Classical.or_iff_not_imp_left]
  · next hs =>
    rw [Option.ite_none_right_eq_some]
    simp [hs, and_assoc]

/-- Past a `**` one of the places to restart at leads on. -/
theorem exists_restart {next : PatternElement} {later : List PatternElement}
    (h : e.kind = .segments)
    (ho : search q (e :: next :: later) index afterSegment = some o) :
    ∃ r ∈ restarts q index next, attempt q next later r = some o := by
  rw [search_segments h] at ho
  exact List.exists_of_findSome?_eq_some ho

/-- Past a `**` the search succeeds when it does at one of the places to restart at. -/
theorem exists_search_of_restart {next : PatternElement} {later : List PatternElement}
    (h : e.kind = .segments) {r : Restart} (hr : r ∈ restarts q index next)
    (ho : ∃ o, attempt q next later r = some o) :
    ∃ o, search q (e :: next :: later) index afterSegment = some o := by
  obtain ⟨o, ho⟩ := ho
  rw [search_segments h]
  exact Option.isSome_iff_exists.mp (List.findSome?_isSome_iff.mpr ⟨r, hr, by simp [ho]⟩)

theorem search_catchAll_eq_some (h : e.kind.isCatchAll = true) :
    search q (e :: after) index afterSegment = some o ↔
      (index < q.length → q.isSeparator index = true) ∧
      o = ⟨q.recorded (q.restBindings e.kind index), if q.ofStart then some q.length else none⟩ := by
  rw [search_catchAll h, Query.finishWithRest_eq_some]

theorem search_takes_eq_some (h : e.kind.takes = true) :
    search q (e :: after) index afterSegment = some o ↔
      ∃ s bs o', q.segment? index = some s ∧ q.take? s e.kind = some bs ∧
        search q after (index + 1) true = some o' ∧ o = o'.prepend bs := by
  rw [search_takes h]
  simp only [Option.bind_eq_some_iff, Option.map_eq_some_iff]
  constructor
  · rintro ⟨bs, ⟨s, hs, hbs⟩, o', ho', rfl⟩
    exact ⟨s, bs, o', hs, hbs, ho', rfl⟩
  · rintro ⟨s, bs, o', hs, hbs, ho', rfl⟩
    exact ⟨bs, ⟨s, hs, hbs⟩, o', ho', rfl⟩

end Successes

/-! ### Induction -/

/-- Induction over the elements of a pattern as the search goes through them: one case for each
equation, and past a `**` also the elements after the next one. -/
@[elab_as_elim]
theorem search_induction {motive : List PatternElement → Prop}
    (nil : motive [])
    (separator : ∀ e after, e.kind = .separator → motive after → motive (e :: after))
    (wildcard : ∀ e after, e.kind = .wildcard → motive after → motive (e :: after))
    (lastSegments : ∀ e, e.kind = .segments → motive [e])
    (segments : ∀ e next later, e.kind = .segments → motive (next :: later) → motive later →
      motive (e :: next :: later))
    (catchAll : ∀ e after, e.kind.isCatchAll = true → motive (e :: after))
    (takes : ∀ e after, e.kind.takes = true → motive after → motive (e :: after))
    (es : List PatternElement) : motive es := by
  -- the elements and their tail together, because a `**` may skip the element after it
  have key : motive es ∧ motive es.tail := by
    induction es with
    | nil => exact ⟨nil, nil⟩
    | cons e after ih =>
      refine ⟨?_, ih.1⟩
      rcases e.kind.cases_search with h | h | h | h | h
      · exact separator e after h ih.1
      · exact wildcard e after h ih.1
      · cases after with
        | nil => exact lastSegments e h
        | cons next later => exact segments e next later h ih.1 ih.2
      · exact catchAll e after h
      · exact takes e after h ih.1
  exact key.1

/-- The last element of a list of two or more is that of its tail. -/
theorem forall_getLast?_of_cons {P : PatternElement → Prop} {e : PatternElement}
    {after : List PatternElement} (h : ∀ d ∈ (e :: after).getLast?, P d) :
    ∀ d ∈ after.getLast?, P d := by
  intro d hd
  cases after with
  | nil => simp at hd
  | cons e' after => exact h d (by rwa [List.getLast?_cons_cons])

/-! ### Restarts -/

theorem mem_countDown {start stop i : Nat} : i ∈ countDown start stop ↔ start ≤ i ∧ i ≤ stop := by
  simp only [countDown, List.mem_reverse, List.mem_range'_1]
  omega

/-- The first place to restart at is the end of the path. -/
theorem exists_restarts_cons {q : Query} {index : Nat} (hindex : index ≤ q.length)
    (next : PatternElement) : ∃ rest, restarts q index next = .atIndex q.length :: rest := by
  have hcount : q.length + 1 - index = (q.length - index) + 1 := by omega
  have hstop : index + (q.length - index) = q.length := by omega
  have hdown : countDown index q.length
      = q.length :: (List.range' index (q.length - index)).reverse := by
    rw [countDown, hcount, List.range'_1_concat, hstop, List.reverse_append]
    rfl
  rw [restarts, hdown]
  exact ⟨_, rfl⟩

/-- The places to restart at: every index from that of the `**` on, the separator before it, and,
at the front of a path, past the separator after it. -/
theorem mem_restarts {q : Query} {index : Nat} {next : PatternElement} {r : Restart} :
    r ∈ restarts q index next ↔
      (∃ i, index ≤ i ∧ i ≤ q.length ∧ r = .atIndex i) ∨
      (0 < index ∧ q.isSeparator (index - 1) = true ∧ r = .atIndex (index - 1)) ∨
      (index = 0 ∧ next.kind = .separator ∧ r = .pastSeparator) := by
  have hsep : next.kind.isSeparator = true ↔ next.kind = .separator := by
    cases next.kind <;> simp [ElementKind.isSeparator]
  simp only [restarts, List.mem_append, List.mem_map, mem_countDown, List.mem_ite_nil_right,
    List.mem_singleton, Bool.and_eq_true, decide_eq_true_eq, hsep, or_assoc, and_assoc]
  constructor
  · rintro (⟨i, h1, h2, rfl⟩ | h | h)
    · exact .inl ⟨i, h1, h2, rfl⟩
    · exact .inr (.inl h)
    · exact .inr (.inr h)
  · rintro (⟨i, h1, h2, rfl⟩ | h | h)
    · exact .inl ⟨i, h1, h2, rfl⟩
    · exact .inr (.inl h)
    · exact .inr (.inr h)

end PathRouting
