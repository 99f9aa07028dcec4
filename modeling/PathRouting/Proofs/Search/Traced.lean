import PathRouting.Proofs.Search.Memo

/-!
# The attempts of a search

An attempt is made when the search comes to an element at an index of the path.  The search is
written down once more here, with every attempt noted.  It is the same search: it finds the same and
remembers the same failures.

## Main definitions

* `Trace` — the failures remembered and the attempts made so far.
* `searchTraced` — the search that notes its attempts.
* `Pattern.runTraced`, `Pattern.matchWithTraced`, `Pattern.matchStartTraced` — matching with the
  attempts noted.

## Main results

* `untraced_searchTraced` — but for the notes it is the search that runs.
* `matchWithTraced_fst`, `matchStartTraced_fst` — what is matched is the same.
* `matchWithTraced_snd`, `matchStartTraced_snd` — and so are the attempts.
-/

namespace PathRouting

/-! ### Traces -/

/-- What a search keeps while it goes on. -/
structure Trace where
  /-- The attempts of a `**` that failed. -/
  failed : Failures
  /-- The attempts made, by the place of the element and the index, latest first. -/
  entered : List (Nat × Nat)

namespace Trace

/-- Nothing done yet. -/
def empty : Trace := ⟨∅, []⟩

/-- One more attempt. -/
def enter (t : Trace) (e : PatternElement) (index : Nat) : Trace :=
  { t with entered := (e.position, index) :: t.entered }

/-- One more failure. -/
def remember (t : Trace) (key : Nat × Nat) : Trace := { t with failed := t.failed.insert key }

/-- An attempt that is made only if it is not known to fail; a failure is remembered. -/
def guarded (key : Nat × Nat) (attempt : Trace → Option Outcome × Trace) (t : Trace) :
    Option Outcome × Trace :=
  if t.failed.contains key then (none, t)
  else match attempt t with
    | (none, t) => (none, t.remember key)
    | found => found

/-- An attempt at the elements of a list, guarded by the place of the first of them. -/
def guardedAt (elements : List PatternElement) (index : Nat)
    (attempt : Trace → Option Outcome × Trace) : Trace → Option Outcome × Trace :=
  match elements with
  | [] => attempt
  | e :: _ => guarded (e.position, index) attempt

end Trace

/-- The search that remembers failures, with its attempts noted. -/
def searchTraced (q : Query) : List PatternElement → Nat → Bool → Trace → Option Outcome × Trace
  | [], index, afterSegment, t => (q.finish index afterSegment, t)
  | e :: after, index, _, t =>
    match e.kind with
    | .separator =>
      if q.isSeparator index then searchTraced q after (index + 1) false (t.enter e index)
      else (none, t.enter e index)
    | .wildcard =>
      match q.segment? index with
      | some s =>
        if !after.isEmpty && s.value.isEmpty then (none, t.enter e index)
        else searchTraced q after (index + 1) true (t.enter e index)
      | none =>
        (if q.length ≤ index && after.isEmpty then q.finish index false else none, t.enter e index)
    | .segments =>
      match after with
      | [] => (q.finish q.length false, t.enter e index)
      | next :: later =>
        (t.enter e index).guarded (e.position, index) <|
          firstWay (fun
            | .atIndex i => Trace.guardedAt (next :: later) i (searchTraced q (next :: later) i false)
            | .pastSeparator => Trace.guardedAt later 0 (searchTraced q later 0 false))
            (restarts q index next)
    | .rest _ => (q.finishWithRest index [], t.enter e index)
    | .captureRest name _ =>
      (q.finishWithRest index [q.restBinding name index], t.enter e index)
    | kind =>
      match (q.segment? index).bind fun s => q.take? s kind with
      | some bs =>
        let (found, t) := searchTraced q after (index + 1) true (t.enter e index)
        (found.map (·.prepend bs), t)
      | none => (none, t.enter e index)

variable {q : Query} {e : PatternElement} {after : List PatternElement} {index : Nat}
  {afterSegment : Bool}

/-! ### Equations -/

section Equations

/-- The attempt at the elements after a `**` from one of the places to restart at. -/
def attemptTraced (q : Query) (next : PatternElement) (later : List PatternElement) :
    Restart → Trace → Option Outcome × Trace
  | .atIndex i => Trace.guardedAt (next :: later) i (searchTraced q (next :: later) i false)
  | .pastSeparator => Trace.guardedAt later 0 (searchTraced q later 0 false)

theorem searchTraced_nil (t : Trace) :
    searchTraced q [] index afterSegment t = (q.finish index afterSegment, t) := by
  rw [searchTraced]

theorem searchTraced_separator (h : e.kind = .separator) (t : Trace) :
    searchTraced q (e :: after) index afterSegment t
      = if q.isSeparator index then searchTraced q after (index + 1) false (t.enter e index)
        else (none, t.enter e index) := by
  rw [searchTraced.eq_def]
  simp only [h]

theorem searchTraced_wildcard (h : e.kind = .wildcard) (t : Trace) :
    searchTraced q (e :: after) index afterSegment t
      = match q.segment? index with
        | some s =>
          if !after.isEmpty && s.value.isEmpty then (none, t.enter e index)
          else searchTraced q after (index + 1) true (t.enter e index)
        | none => (if q.length ≤ index && after.isEmpty then q.finish index false else none,
            t.enter e index) := by
  rw [searchTraced.eq_def]
  cases hs : q.segment? index <;> simp only [h, hs]

theorem searchTraced_lastSegments (h : e.kind = .segments) (t : Trace) :
    searchTraced q [e] index afterSegment t = (q.finish q.length false, t.enter e index) := by
  rw [searchTraced.eq_def]
  simp only [h]

theorem searchTraced_segments (h : e.kind = .segments) {next : PatternElement}
    {later : List PatternElement} (t : Trace) :
    searchTraced q (e :: next :: later) index afterSegment t
      = (t.enter e index).guarded (e.position, index)
          (firstWay (attemptTraced q next later) (restarts q index next)) := by
  obtain ⟨position, kind⟩ := e
  obtain rfl : kind = .segments := h
  exact searchTraced.eq_def ..

theorem searchTraced_catchAll (h : e.kind.isCatchAll = true) (t : Trace) :
    searchTraced q (e :: after) index afterSegment t
      = (q.finishWithRest index (q.restBindings e.kind index), t.enter e index) := by
  rw [searchTraced.eq_def]
  obtain ⟨position, k⟩ := e
  cases k <;> first | rfl | simp [ElementKind.isCatchAll] at h

theorem searchTraced_takes (h : e.kind.takes = true) (t : Trace) :
    searchTraced q (e :: after) index afterSegment t
      = match (q.segment? index).bind fun s => q.take? s e.kind with
        | some bs =>
          ((searchTraced q after (index + 1) true (t.enter e index)).1.map (·.prepend bs),
            (searchTraced q after (index + 1) true (t.enter e index)).2)
        | none => (none, t.enter e index) := by
  rw [searchTraced.eq_def]
  obtain ⟨position, k⟩ := e
  cases k <;> first | rfl | simp [ElementKind.takes] at h

end Equations

/-! ### The same search -/

/-- What is found and the failures remembered, without the attempts. -/
def untraced (r : Option Outcome × Trace) : Option Outcome × Failures := (r.1, r.2.failed)

theorem untraced_guarded {key : Nat × Nat} {attempt : Trace → Option Outcome × Trace}
    {attempt' : Failures → Option Outcome × Failures}
    (h : ∀ t, untraced (attempt t) = attempt' t.failed) (t : Trace) :
    untraced (t.guarded key attempt) = t.failed.guarded key attempt' := by
  rw [Trace.guarded, Failures.guarded, ← h]
  split
  · rfl
  · rcases attempt t with ⟨_ | o, t'⟩ <;> rfl

theorem untraced_guardedAt {es : List PatternElement}
    {attempt : Trace → Option Outcome × Trace} {attempt' : Failures → Option Outcome × Failures}
    (h : ∀ t, untraced (attempt t) = attempt' t.failed) (t : Trace) :
    untraced (Trace.guardedAt es index attempt t) = Failures.guardedAt es index attempt' t.failed := by
  cases es with
  | nil => exact h t
  | cons e after => exact untraced_guarded h t

theorem untraced_firstWay {α : Type} {attempt : α → Trace → Option Outcome × Trace}
    {attempt' : α → Failures → Option Outcome × Failures}
    (h : ∀ a t, untraced (attempt a t) = attempt' a t.failed) (ways : List α) (t : Trace) :
    untraced (firstWay attempt ways t) = firstWay attempt' ways t.failed := by
  induction ways generalizing t with
  | nil => rfl
  | cons a rest ih =>
    rw [firstWay, firstWay, ← h]
    rcases attempt a t with ⟨_ | o, t'⟩
    · exact ih t'
    · rfl

/-- **But for the notes it is the search that runs.** -/
theorem untraced_searchTraced (es : List PatternElement) (t : Trace) :
    untraced (searchTraced q es index afterSegment t)
      = searchMemo q es index afterSegment t.failed := by
  induction es using search_induction generalizing index afterSegment t with
  | nil =>
    rw [searchTraced_nil, searchMemo]
    rfl
  | separator e after hkind ih =>
    rw [searchTraced_separator hkind, searchMemo_separator hkind]
    split
    · exact ih (t.enter e index)
    · rfl
  | wildcard e after hkind ih =>
    rw [searchTraced_wildcard hkind, searchMemo_wildcard hkind]
    cases q.segment? index with
    | none => rfl
    | some s =>
      dsimp only
      split
      · rfl
      · exact ih (t.enter e index)
  | lastSegments e hkind =>
    rw [searchTraced_lastSegments hkind, searchMemo_lastSegments hkind]
    rfl
  | segments e next later hkind ihnext ihlater =>
    rw [searchTraced_segments hkind, searchMemo_segments hkind]
    refine untraced_guarded (fun t => ?_) (t.enter e index)
    refine untraced_firstWay (fun r t => ?_) (restarts q index next) t
    cases r with
    | atIndex i => exact untraced_guardedAt ihnext t
    | pastSeparator => exact untraced_guardedAt ihlater t
  | catchAll e after hkind =>
    rw [searchTraced_catchAll hkind, searchMemo_catchAll hkind]
    rfl
  | takes e after hkind ih =>
    rw [searchTraced_takes hkind, searchMemo_takes hkind]
    cases (q.segment? index).bind fun s => q.take? s e.kind with
    | none => rfl
    | some bs =>
      have hafter : untraced (searchTraced q after (index + 1) true (t.enter e index))
          = searchMemo q after (index + 1) true t.failed := ih (t.enter e index)
      dsimp only
      rw [← hafter]
      rfl

/-! ### Matching -/

namespace Pattern

variable (p : Pattern) (path : Path)

/-- The way to match a path, if there is one, and the attempts made. -/
def runTraced (extract ofStart : Bool) : Option Outcome × List (Nat × Nat) :=
  let (found, t) := searchTraced (p.query path extract ofStart) p.elements 0 false .empty
  (found, t.entered)

/-- The match with a whole path, and the attempts made. -/
def matchWithTraced (extract : Bool) : Option MatchInfo × List (Nat × Nat) :=
  if p.elements.isEmpty then
    (if path.isEmpty || (p.options.optionalTrailingSeparator && path.isJustSeparator) then
      some .empty else none, [])
  else if path.isEmpty && !p.canMatchEmpty then (none, [])
  else
    let (found, entered) := p.runTraced path extract false
    (found.map fun o => .ofBindings o.bindings, entered)

/-- The match with the start of a path, and the attempts made. -/
def matchStartTraced : Option StartMatch × List (Nat × Nat) :=
  if p.elements.isEmpty then
    (some ⟨.empty path.options (path.generation + 1), path, .empty⟩, [])
  else if path.isEmpty then (none, [])
  else
    let (found, entered) := p.runTraced path true true
    (do
      let o ← found
      let index := o.restIndex.getD path.length
      let matched ← (path.subPath 0 index).toOption
      let remaining ← (path.subPathFrom index).toOption
      return ⟨matched, remaining, .ofBindings o.bindings⟩, entered)

theorem runTraced_fst (extract ofStart : Bool) :
    (p.runTraced path extract ofStart).1 = p.run path extract ofStart :=
  congrArg Prod.fst (untraced_searchTraced p.elements .empty)

theorem matchWithTraced_fst (extract : Bool) :
    (p.matchWithTraced path extract).1 = p.matchWith path extract := by
  rw [matchWithTraced, matchWith, ← runTraced_fst]
  split
  · rfl
  · split <;> rfl

theorem matchStartTraced_fst : (p.matchStartTraced path).1 = p.matchStart? path := by
  rw [matchStartTraced, matchStart?, ← runTraced_fst]
  split
  · rfl
  · split <;> rfl

/-- No attempts are made but those of the run. -/
theorem matchWithTraced_snd (extract : Bool) :
    (p.matchWithTraced path extract).2.Sublist (p.runTraced path extract false).2 := by
  rw [matchWithTraced]
  split
  · exact List.nil_sublist _
  · split
    · exact List.nil_sublist _
    · exact List.Sublist.refl _

theorem matchStartTraced_snd :
    (p.matchStartTraced path).2.Sublist (p.runTraced path true true).2 := by
  rw [matchStartTraced]
  split
  · exact List.nil_sublist _
  · split
    · exact List.nil_sublist _
    · exact List.Sublist.refl _

end Pattern

end PathRouting
