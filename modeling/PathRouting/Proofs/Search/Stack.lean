import PathRouting.Proofs.Pattern.Complete
import PathRouting.Proofs.Search.Memo

/-!
# The search on a stack

What captures record may be kept on a stack that the whole search shares.  An element pushes what
it records before the elements after it are tried, and drops it again when they fail; the attempts
of a `**` are made one after the other with what the earlier ones have left.  For this to be sound
an attempt that fails must leave nothing on the stack, although it may push and drop many times
before it fails, and may fail in many places.  The search is written down once more here in this
manner.  It is the same search: what it does to the stack and to the place of the rest is said by the
outcome alone, and it does nothing to them where there is none.

## Main definitions

* `SearchState` — the stack, the place of the rest, and the failures remembered.
* `searchInPlace` — the search that changes a state as it goes on.
* `SearchState.withOutcome` — the state after a search that came to an outcome.
* `Failures.Grows` — more failures, all of them at elements of a list.

## Main results

* `searchInPlace_eq` — but for where it records, it is the search that runs.
* `run_eq_searchInPlace` — a pattern is matched by it from an empty state.
* `grows_searchMemo` — failures are remembered at elements of the pattern only.
* `searchInPlace_untouched` — **a search that fails leaves no trace**, and one that succeeds leaves
  one binding for each capture.
-/

namespace PathRouting

/-! ### States -/

/-- What a search keeps while it goes on. -/
structure SearchState where
  /-- What captures have recorded, in order. -/
  bindings : List Binding
  /-- Where the rest of the path starts, once that is known. -/
  restIndex : Option Nat
  /-- The attempts of a `**` that failed. -/
  failed : Failures

/-- Whether one of several alternatives succeeds.  They are tried in turn, each from the state that
the one before it has left. -/
def anyWay {α σ : Type} (attempt : α → σ → Bool × σ) : List α → σ → Bool × σ
  | [], m => (false, m)
  | a :: rest, m =>
    match attempt a m with
    | (true, m) => (true, m)
    | (false, m) => anyWay attempt rest m

namespace SearchState

/-- Nothing recorded yet. -/
def empty : SearchState := ⟨[], none, ∅⟩

/-- The height of the stack. -/
def mark (m : SearchState) : Nat := m.bindings.length

/-- The stack cut down to a height. -/
def rollback (m : SearchState) (mark : Nat) : SearchState :=
  { m with bindings := m.bindings.take mark }

/-- One binding pushed, if captures are recorded. -/
def bind (q : Query) (m : SearchState) (b : Binding) : SearchState :=
  if q.extract then { m with bindings := m.bindings ++ [b] } else m

/-- Several bindings pushed one after the other. -/
def bindAll (q : Query) (m : SearchState) (bs : List Binding) : SearchState := bs.foldl (bind q) m

/-- One more failure. -/
def remember (m : SearchState) (key : Nat × Nat) : SearchState :=
  { m with failed := m.failed.insert key }

/-- The end of the elements at an index. -/
def finishAt (q : Query) (index : Nat) (afterSegment : Bool) (m : SearchState) :
    Bool × SearchState :=
  if q.ofStart then
    if index < q.length && !q.isSeparator index then (false, m)
    else (true, { m with restIndex := some index })
  else (index = q.length || (afterSegment && q.optionalTrailingSeparator
      && index + 1 = q.length && q.isSeparator index), m)

/-- The end of the elements by matching whatever is left from an index on. -/
def finishWithRest (q : Query) (index : Nat) (bs : List Binding) (m : SearchState) :
    Bool × SearchState :=
  if index < q.length && !q.isSeparator index then (false, m)
  else if q.ofStart then (true, bindAll q { m with restIndex := some q.length } bs)
  else (true, m.bindAll q bs)

/-- A result, the stack cut down where it is a failure. -/
def orRollback (mark : Nat) : Bool × SearchState → Bool × SearchState
  | (true, m) => (true, m)
  | (false, m) => (false, m.rollback mark)

/-- An attempt that is made only if it is not known to fail; a failure is remembered. -/
def guarded (key : Nat × Nat) (attempt : SearchState → Bool × SearchState) (m : SearchState) :
    Bool × SearchState :=
  if m.failed.contains key then (false, m)
  else match attempt m with
    | (true, m) => (true, m)
    | (false, m) => (false, m.remember key)

/-- An attempt at the elements of a list, guarded by the place of the first of them. -/
def guardedAt (elements : List PatternElement) (index : Nat)
    (attempt : SearchState → Bool × SearchState) : SearchState → Bool × SearchState :=
  match elements with
  | [] => attempt
  | e :: _ => guarded (e.position, index) attempt

end SearchState

/-- Whether the element pushes what it records before the elements after it are tried. -/
def ElementKind.pushes : ElementKind → Bool
  | capture .. => true
  | mixed .. => true
  | _ => false

/-- Whether the elements of a pattern match from an index on, and the state afterwards. -/
def searchInPlace (q : Query) :
    List PatternElement → Nat → Bool → SearchState → Bool × SearchState
  | [], index, afterSegment, m => m.finishAt q index afterSegment
  | e :: after, index, _, m =>
    match e.kind with
    | .separator =>
      if q.isSeparator index then searchInPlace q after (index + 1) false m else (false, m)
    | .wildcard =>
      match q.segment? index with
      | some s =>
        if !after.isEmpty && s.value.isEmpty then (false, m)
        else searchInPlace q after (index + 1) true m
      | none => if q.length ≤ index && after.isEmpty then m.finishAt q index false else (false, m)
    | .segments =>
      match after with
      | [] => m.finishAt q q.length false
      | next :: later =>
        m.guarded (e.position, index) <|
          anyWay (fun
            | .atIndex i =>
              SearchState.guardedAt (next :: later) i (searchInPlace q (next :: later) i false)
            | .pastSeparator => SearchState.guardedAt later 0 (searchInPlace q later 0 false))
            (restarts q index next)
    | .rest _ => m.finishWithRest q index []
    | .captureRest name _ => m.finishWithRest q index [q.restBinding name index]
    | kind =>
      match (q.segment? index).bind fun s => q.take? s kind with
      | some bs =>
        if kind.pushes then
          SearchState.orRollback m.mark (searchInPlace q after (index + 1) true (m.bindAll q bs))
        else searchInPlace q after (index + 1) true m
      | none => (false, m)

variable {q : Query} {e : PatternElement} {after : List PatternElement} {index : Nat}
  {afterSegment : Bool}

/-! ### Equations -/

section Equations

/-- The attempt at the elements after a `**` from one of the places to restart at. -/
def attemptInPlace (q : Query) (next : PatternElement) (later : List PatternElement) :
    Restart → SearchState → Bool × SearchState
  | .atIndex i => SearchState.guardedAt (next :: later) i (searchInPlace q (next :: later) i false)
  | .pastSeparator => SearchState.guardedAt later 0 (searchInPlace q later 0 false)

theorem searchInPlace_nil (m : SearchState) :
    searchInPlace q [] index afterSegment m = m.finishAt q index afterSegment := by
  rw [searchInPlace]

theorem searchInPlace_separator (h : e.kind = .separator) (m : SearchState) :
    searchInPlace q (e :: after) index afterSegment m
      = if q.isSeparator index then searchInPlace q after (index + 1) false m else (false, m) := by
  rw [searchInPlace.eq_def]
  simp only [h]

theorem searchInPlace_wildcard (h : e.kind = .wildcard) (m : SearchState) :
    searchInPlace q (e :: after) index afterSegment m
      = match q.segment? index with
        | some s =>
          if !after.isEmpty && s.value.isEmpty then (false, m)
          else searchInPlace q after (index + 1) true m
        | none =>
          if q.length ≤ index && after.isEmpty then m.finishAt q index false else (false, m) := by
  rw [searchInPlace.eq_def]
  cases hs : q.segment? index <;> simp only [h, hs]

theorem searchInPlace_lastSegments (h : e.kind = .segments) (m : SearchState) :
    searchInPlace q [e] index afterSegment m = m.finishAt q q.length false := by
  rw [searchInPlace.eq_def]
  simp only [h]

theorem searchInPlace_segments (h : e.kind = .segments) {next : PatternElement}
    {later : List PatternElement} (m : SearchState) :
    searchInPlace q (e :: next :: later) index afterSegment m
      = m.guarded (e.position, index)
          (anyWay (attemptInPlace q next later) (restarts q index next)) := by
  obtain ⟨position, kind⟩ := e
  obtain rfl : kind = .segments := h
  exact searchInPlace.eq_def ..

theorem searchInPlace_catchAll (h : e.kind.isCatchAll = true) (m : SearchState) :
    searchInPlace q (e :: after) index afterSegment m
      = m.finishWithRest q index (q.restBindings e.kind index) := by
  rw [searchInPlace.eq_def]
  obtain ⟨position, k⟩ := e
  cases k <;> first | rfl | simp [ElementKind.isCatchAll] at h

theorem searchInPlace_takes (h : e.kind.takes = true) (m : SearchState) :
    searchInPlace q (e :: after) index afterSegment m
      = match (q.segment? index).bind fun s => q.take? s e.kind with
        | some bs =>
          if e.kind.pushes then
            SearchState.orRollback m.mark (searchInPlace q after (index + 1) true (m.bindAll q bs))
          else searchInPlace q after (index + 1) true m
        | none => (false, m) := by
  rw [searchInPlace.eq_def]
  obtain ⟨position, k⟩ := e
  cases k <;> first | rfl | simp [ElementKind.takes] at h

end Equations

/-! ### The same search -/

namespace SearchState

/-- The state after a search: an outcome comes on top of the stack, and where there is none only the
failures are others. -/
def withOutcome (m : SearchState) (r : Option Outcome × Failures) : Bool × SearchState :=
  match r.1 with
  | some o => (true, ⟨m.bindings ++ o.bindings, o.restIndex.or m.restIndex, r.2⟩)
  | none => (false, { m with failed := r.2 })

variable {attempt : SearchState → Bool × SearchState}
  {attempt' : Failures → Option Outcome × Failures}

theorem finishAt_eq (m : SearchState) :
    m.finishAt q index afterSegment = m.withOutcome (q.finish index afterSegment, m.failed) := by
  rw [finishAt, Query.finish]
  split
  · split
    · rfl
    · simp [withOutcome]
  · split
    · next hend => simp [withOutcome, hend]
    · next hend => simp [withOutcome, hend]

@[simp] theorem fst_withOutcome (m : SearchState) (r : Option Outcome × Failures) :
    (m.withOutcome r).1 = r.1.isSome := by
  rcases r with ⟨_ | o, failed⟩ <;> rfl

@[simp] theorem failed_withOutcome (m : SearchState) (r : Option Outcome × Failures) :
    (m.withOutcome r).2.failed = r.2 := by
  rcases r with ⟨_ | o, failed⟩ <;> rfl

/-- Bindings are pushed in their order, all of them or none. -/
theorem bindAll_eq (m : SearchState) (bs : List Binding) :
    m.bindAll q bs = { m with bindings := m.bindings ++ q.recorded bs } := by
  induction bs generalizing m with
  | nil => simp [bindAll, Query.recorded]
  | cons b bs ih =>
    show (m.bind q b).bindAll q bs = _
    rw [ih, bind]
    cases hq : q.extract with
    | true => simp [Query.recorded, hq]
    | false => simp [Query.recorded, hq]

theorem finishWithRest_eq (m : SearchState) (bs : List Binding) :
    m.finishWithRest q index bs = m.withOutcome (q.finishWithRest index bs, m.failed) := by
  rw [finishWithRest, Query.finishWithRest]
  split
  · rfl
  split
  · simp [withOutcome, bindAll_eq]
  · simp [withOutcome, bindAll_eq]

theorem guarded_eq {key : Nat × Nat} (h : ∀ m, attempt m = m.withOutcome (attempt' m.failed))
    (m : SearchState) : m.guarded key attempt = m.withOutcome (m.failed.guarded key attempt') := by
  rw [guarded, Failures.guarded, h]
  split
  · rfl
  · rcases attempt' m.failed with ⟨_ | o, failed⟩ <;> rfl

theorem guardedAt_eq {es : List PatternElement}
    (h : ∀ m, attempt m = m.withOutcome (attempt' m.failed)) (m : SearchState) :
    guardedAt es index attempt m
      = m.withOutcome (Failures.guardedAt es index attempt' m.failed) := by
  cases es with
  | nil => exact h m
  | cons e after => exact guarded_eq h m

/-- An attempt that fails leaves the state to the next one as it was, but for the failures. -/
theorem anyWay_eq {α : Type} {attempt : α → SearchState → Bool × SearchState}
    {attempt' : α → Failures → Option Outcome × Failures}
    (h : ∀ a m, attempt a m = m.withOutcome (attempt' a m.failed)) (ways : List α)
    (m : SearchState) :
    anyWay attempt ways m = m.withOutcome (firstWay attempt' ways m.failed) := by
  induction ways generalizing m with
  | nil => rfl
  | cons a rest ih =>
    rw [anyWay, firstWay, h]
    rcases attempt' a m.failed with ⟨_ | o, failed⟩
    · exact ih { m with failed := failed }
    · rfl

/-- What was pushed before a search that fails is dropped, and otherwise stands before what the
search has pushed. -/
theorem orRollback_eq {bs : List Binding} (hbs : q.recorded bs = bs) (m : SearchState)
    (r : Option Outcome × Failures) : orRollback m.mark ((m.bindAll q bs).withOutcome r)
      = m.withOutcome (r.1.map (·.prepend bs), r.2) := by
  rw [bindAll_eq, hbs]
  rcases r with ⟨_ | o, failed⟩
  · simp [withOutcome, orRollback, rollback, mark]
  · simp [withOutcome, orRollback, Outcome.prepend]

end SearchState

/-- What an element takes is recorded as it is: nothing, where nothing is to be recorded. -/
theorem Query.recorded_of_take? {s : Segment} {k : ElementKind} {bs : List Binding}
    (h : q.take? s k = some bs) : q.recorded bs = bs ∧ (k.pushes = false → bs = []) := by
  cases k with
  | capture name constraint =>
    rw [Query.take?, Option.ite_none_left_eq_some] at h
    obtain ⟨-, rfl⟩ := h.imp_right Option.some.inj
    refine ⟨?_, fun hpushes => by cases hpushes⟩
    rw [Query.recorded, Query.recorded]
    split <;> rfl
  | mixed text pieces re =>
    refine ⟨?_, fun hpushes => by cases hpushes⟩
    rw [Query.take?] at h
    split at h
    · next hextract => rw [Query.recorded, if_pos hextract]
    · obtain rfl := Option.some.inj (Option.ite_none_right_eq_some.mp h).2
      simp [Query.recorded]
  | literal text caseSensitive =>
    obtain rfl := Option.some.inj (Option.ite_none_right_eq_some.mp h).2
    simp [Query.recorded]
  | singleChars text caseSensitive =>
    obtain rfl := Option.some.inj (Option.ite_none_right_eq_some.mp h).2
    simp [Query.recorded]
  | _ => simp [Query.take?] at h

/-- **But for where it records, it is the search that runs.** -/
theorem searchInPlace_eq (es : List PatternElement) (m : SearchState) :
    searchInPlace q es index afterSegment m
      = m.withOutcome (searchMemo q es index afterSegment m.failed) := by
  induction es using search_induction generalizing index afterSegment m with
  | nil =>
    rw [searchInPlace_nil, searchMemo]
    exact m.finishAt_eq
  | separator e after hkind ih =>
    rw [searchInPlace_separator hkind, searchMemo_separator hkind]
    split
    · exact ih m
    · rfl
  | wildcard e after hkind ih =>
    rw [searchInPlace_wildcard hkind, searchMemo_wildcard hkind]
    cases q.segment? index with
    | none =>
      dsimp only
      split
      · exact m.finishAt_eq
      · rfl
    | some s =>
      dsimp only
      split
      · rfl
      · exact ih m
  | lastSegments e hkind =>
    rw [searchInPlace_lastSegments hkind, searchMemo_lastSegments hkind]
    exact m.finishAt_eq
  | segments e next later hkind ihnext ihlater =>
    rw [searchInPlace_segments hkind, searchMemo_segments hkind]
    refine SearchState.guarded_eq (fun m => ?_) m
    refine SearchState.anyWay_eq (fun r m => ?_) (restarts q index next) m
    cases r with
    | atIndex i =>
      show SearchState.guardedAt (next :: later) i _ m = _
      exact SearchState.guardedAt_eq (fun m => ihnext m) m
    | pastSeparator =>
      show SearchState.guardedAt later 0 _ m = _
      exact SearchState.guardedAt_eq (fun m => ihlater m) m
  | catchAll e after hkind =>
    rw [searchInPlace_catchAll hkind, searchMemo_catchAll hkind]
    exact m.finishWithRest_eq _
  | takes e after hkind ih =>
    rw [searchInPlace_takes hkind, searchMemo_takes hkind]
    rcases htaken : (q.segment? index).bind fun s => q.take? s e.kind with _ | bs
    · rfl
    · obtain ⟨s, -, hbs⟩ := Option.bind_eq_some_iff.mp htaken
      obtain ⟨hrecorded, hnone⟩ := Query.recorded_of_take? hbs
      dsimp only
      split
      · rw [ih, SearchState.orRollback_eq hrecorded, SearchState.bindAll_eq]
      · next hpushes =>
        obtain rfl := hnone (by simpa using hpushes)
        rw [ih]
        rcases searchMemo q after (index + 1) true m.failed with ⟨_ | o, failed⟩ <;> rfl

/-- **A pattern is matched from an empty state**: what is on the stack in the end is what the
pattern records. -/
theorem run_eq_searchInPlace (p : Pattern) (path : Path) (extract ofStart : Bool) :
    p.run path extract ofStart
      = match searchInPlace (p.query path extract ofStart) p.elements 0 false .empty with
        | (true, m) => some ⟨m.bindings, m.restIndex⟩
        | (false, _) => none := by
  have hempty : SearchState.empty.failed = ∅ := rfl
  rw [searchInPlace_eq, Pattern.run, hempty]
  rcases searchMemo (p.query path extract ofStart) p.elements 0 false ∅ with ⟨_ | o, failed⟩
  · rfl
  · simp [SearchState.withOutcome, SearchState.empty]

/-! ### The failures remembered -/

/-- The failures remembered before and after a search of the elements of a list: none is forgotten,
and the new ones are attempts at these elements. -/
structure Failures.Grows (es : List PatternElement) (failed failed' : Failures) : Prop where
  /-- What was remembered still is. -/
  keeps : ∀ key, failed.contains key = true → failed'.contains key = true
  /-- What is new was attempted. -/
  added : ∀ key, failed'.contains key = true → failed.contains key = true ∨
    ∃ e after index, e :: after <:+ es ∧ key = (e.position, index)

namespace Failures.Grows

variable {es es' : List PatternElement} {failed failed' failed'' : Failures}

theorem refl (es : List PatternElement) (failed : Failures) : failed.Grows es failed :=
  ⟨fun _ h => h, fun _ h => .inl h⟩

theorem trans (h : failed.Grows es failed') (h' : failed'.Grows es failed'') :
    failed.Grows es failed'' where
  keeps key hkey := h'.keeps key (h.keeps key hkey)
  added key hkey := (h'.added key hkey).elim (h.added key) .inr

/-- The elements may be the end of a longer list. -/
theorem mono (hsuffix : es <:+ es') (h : failed.Grows es failed') : failed.Grows es' failed' where
  keeps := h.keeps
  added := by
    intro key hkey
    rcases h.added key hkey with hold | ⟨e, after, index, hat, rfl⟩
    · exact .inl hold
    · exact .inr ⟨e, after, index, hat.trans hsuffix, rfl⟩

theorem insert (h : failed.Grows (e :: after) failed') (index : Nat) :
    failed.Grows (e :: after) (failed'.insert (e.position, index)) where
  keeps key hkey := by
    rw [Std.HashSet.contains_insert, h.keeps key hkey, Bool.or_true]
  added key hkey := by
    rw [Std.HashSet.contains_insert, Bool.or_eq_true, beq_iff_eq] at hkey
    rcases hkey with rfl | hkey
    · exact .inr ⟨e, after, index, List.suffix_refl _, rfl⟩
    · exact h.added key hkey

/-- A guarded attempt adds its own failure to those of the attempt. -/
theorem guarded {attempt : Failures → Option Outcome × Failures}
    (h : ∀ failed : Failures, failed.Grows (e :: after) (attempt failed).2) (failed : Failures) :
    failed.Grows (e :: after) (failed.guarded (e.position, index) attempt).2 := by
  rw [Failures.guarded]
  split
  · exact refl _ failed
  · have hattempt := h failed
    rcases hresult : attempt failed with ⟨_ | o, failed'⟩
    · rw [hresult] at hattempt
      exact hattempt.insert index
    · rw [hresult] at hattempt
      exact hattempt

theorem guardedAt {attempt : Failures → Option Outcome × Failures}
    (h : ∀ failed : Failures, failed.Grows es (attempt failed).2) (failed : Failures) :
    failed.Grows es (Failures.guardedAt es index attempt failed).2 := by
  cases es with
  | nil => exact h failed
  | cons e after => exact guarded h failed

end Failures.Grows

/-- **Failures are remembered at the elements of the search only**, and none is forgotten. -/
theorem grows_searchMemo (q : Query) (es : List PatternElement) (index : Nat) (afterSegment : Bool)
    (failed : Failures) : failed.Grows es (searchMemo q es index afterSegment failed).2 := by
  induction es using search_induction generalizing index afterSegment failed with
  | nil =>
    rw [searchMemo]
    exact .refl _ failed
  | separator e after hkind ih =>
    rw [searchMemo_separator hkind]
    split
    · exact (ih (index + 1) false failed).mono (List.suffix_cons e after)
    · exact .refl _ failed
  | wildcard e after hkind ih =>
    rw [searchMemo_wildcard hkind]
    cases q.segment? index with
    | none => exact .refl _ failed
    | some s =>
      dsimp only
      split
      · exact .refl _ failed
      · exact (ih (index + 1) true failed).mono (List.suffix_cons e after)
  | lastSegments e hkind =>
    rw [searchMemo_lastSegments hkind]
    exact .refl _ failed
  | segments e next later hkind ihnext ihlater =>
    have hnext : next :: later <:+ e :: next :: later := List.suffix_cons e _
    rw [searchMemo_segments hkind]
    refine Failures.Grows.guarded (fun failed => ?_) failed
    -- one attempt after the other grows what the earlier ones have left
    have hway : ∀ r ∈ restarts q index next, ∀ m, failed.Grows (e :: next :: later) m →
        failed.Grows (e :: next :: later) ((match r with
          | .atIndex i =>
            Failures.guardedAt (next :: later) i (searchMemo q (next :: later) i false)
          | .pastSeparator => Failures.guardedAt later 0 (searchMemo q later 0 false)) m).2 := by
      intro r _ m hm
      cases r with
      | atIndex i =>
        exact hm.trans ((Failures.Grows.guardedAt (fun m => ihnext i false m) m).mono hnext)
      | pastSeparator =>
        exact hm.trans ((Failures.Grows.guardedAt (fun m => ihlater 0 false m) m).mono
          ((List.suffix_cons next later).trans hnext))
    exact (firstWay_keeps _ _ (fun r hr m hm => ⟨hway r hr m hm, fun _ => hway r hr m hm⟩)
      (fun m hm => hm) (.refl _ failed)).1
  | catchAll e after hkind =>
    rw [searchMemo_catchAll hkind]
    exact .refl _ failed
  | takes e after hkind ih =>
    rw [searchMemo_takes hkind]
    cases (q.segment? index).bind fun s => q.take? s e.kind with
    | none => exact .refl _ failed
    | some bs => exact (ih (index + 1) true failed).mono (List.suffix_cons e after)

/-! ### No trace of a failure -/

/-- Where nothing is to be recorded, nothing is. -/
theorem bindings_of_search (hq : q.extract = false) {es : List PatternElement} {o : Outcome}
    (ho : search q es index afterSegment = some o) : o.bindings = [] := by
  induction es using search_induction generalizing index afterSegment o with
  | nil => exact names_of_finish (search_nil index afterSegment ▸ ho)
  | separator e after hkind ih => exact ih ((search_separator_eq_some hkind).mp ho).2
  | wildcard e after hkind ih =>
    rcases (search_wildcard_eq_some hkind).mp ho with ⟨s, -, -, ho⟩ | ⟨-, -, ho⟩
    · exact ih ho
    · exact names_of_finish ho
  | lastSegments e hkind =>
    rw [search_lastSegments hkind] at ho
    exact names_of_finish ho
  | segments e next later hkind ihnext ihlater =>
    obtain ⟨r, -, ho⟩ := exists_restart hkind ho
    cases r with
    | atIndex i => exact ihnext ho
    | pastSeparator => exact ihlater ho
  | catchAll e after hkind =>
    obtain ⟨-, rfl⟩ := (search_catchAll_eq_some hkind).mp ho
    simp [Query.recorded, hq]
  | takes e after hkind ih =>
    obtain ⟨s, bs, o', -, hbs, ho', rfl⟩ := (search_takes_eq_some hkind).mp ho
    have hrecorded := (Query.recorded_of_take? hbs).1
    rw [Query.recorded, if_neg (by simp [hq])] at hrecorded
    rw [Outcome.prepend, ← hrecorded, ih ho']
    rfl

section Parsed

variable {o : PatternOptions} {text : List Char} {p : Pattern}

/-- In the end of a pattern, too, only the last element takes all that is left of a path. -/
theorem isCatchAll_dropLast_of_suffix (h : Pattern.parse o text = .ok p)
    (hsuffix : e :: after <:+ p.elements) :
    ∀ e' ∈ (e :: after).dropLast, e'.kind.isCatchAll = false := by
  intro e' he'
  obtain ⟨before, hbefore⟩ := hsuffix
  apply isCatchAll_dropLast_of_parse h
  rw [← hbefore, List.dropLast_append_of_ne_nil (List.cons_ne_nil e after)]
  exact List.mem_append_right before he'

theorem nodup_namesOf (h : Pattern.parse o text = .ok p) (hsuffix : e :: after <:+ p.elements) :
    (namesOf (e :: after)).Nodup := by
  obtain ⟨before, hbefore⟩ := hsuffix
  have hnames := names_nodup_of_parse h
  rw [← namesOf_elements, ← hbefore, namesOf, List.flatMap_append] at hnames
  exact (List.nodup_append.mp hnames).2.1

/-- **A search that fails leaves no trace**, from whatever element of a pattern and whatever index
it starts, and whatever is on the stack: the stack and the place of the rest are what they were, and
the failures that are new are real ones.  When it succeeds, what was on the stack still is, with one
binding on top of it for each capture of the elements, in their order, if captures are recorded. -/
theorem searchInPlace_untouched (h : Pattern.parse o text = .ok p) (q : Query)
    (hsuffix : e :: after <:+ p.elements) (index : Nat) (afterSegment : Bool) {m : SearchState}
    (hm : m.failed.Sound q p.elements) :
    let found := searchMemo q (e :: after) index afterSegment m.failed
    let r := searchInPlace q (e :: after) index afterSegment m
    (r.1 = found.1.isSome ∧ r.2.failed = found.2 ∧
      found.1 = search q (e :: after) index afterSegment) ∧
    (r.1 = false → r.2.bindings = m.bindings ∧ r.2.restIndex = m.restIndex) ∧
    (r.1 = true → ∃ new, r.2.bindings = m.bindings ++ new ∧ (new.map (·.name)).Nodup ∧
      new.map (·.name) = if q.extract then namesOf (e :: after) else []) ∧
    (∀ key, m.failed.contains key = true → r.2.failed.contains key = true) ∧
    ∀ key, r.2.failed.contains key = true → m.failed.contains key = true ∨
      ∃ e' after' i, e' :: after' <:+ p.elements ∧ key = (e'.position, i) ∧
        search q (e' :: after') i false = none := by
  intro found r
  obtain ⟨hfound, hsound⟩ :=
    searchMemo_sound (pairwise_position_of_parse h) (e :: after) hsuffix index afterSegment hm
  have hgrows := grows_searchMemo q (e :: after) index afterSegment m.failed
  have hr : r = m.withOutcome found := searchInPlace_eq (e :: after) m
  have hfailed : r.2.failed = found.2 := by rw [hr, SearchState.failed_withOutcome]
  have hfst : r.1 = found.1.isSome := by rw [hr, SearchState.fst_withOutcome]
  refine ⟨⟨hfst, hfailed, hfound⟩, ?failure, ?success, ?kept, ?added⟩
  case failure =>
    intro hfalse
    have hnone : found.1 = none := by simpa [hfst] using hfalse
    rw [hr, SearchState.withOutcome, hnone]
    exact ⟨rfl, rfl⟩
  case success =>
    intro htrue
    obtain ⟨out, hout⟩ : ∃ out, found.1 = some out :=
      Option.isSome_iff_exists.mp (hfst ▸ htrue)
    have hsearch : search q (e :: after) index afterSegment = some out := hfound ▸ hout
    refine ⟨out.bindings, ?_, (nodup_namesOf h hsuffix).sublist (names_of_search hsearch), ?_⟩
    · rw [hr, SearchState.withOutcome, hout]
    · split
      · next hextract =>
        exact names_of_search_extract hextract (isCatchAll_dropLast_of_suffix h hsuffix) hsearch
      · next hextract => rw [bindings_of_search (by simpa using hextract) hsearch, List.map_nil]
  case kept =>
    intro key hkey
    rw [hfailed]
    exact hgrows.keeps key hkey
  case added =>
    intro key hkey
    rw [hfailed] at hkey
    rcases hgrows.added key hkey with hold | ⟨e', after', i, hat, rfl⟩
    · exact .inl hold
    · have hwithin := hat.trans hsuffix
      exact .inr ⟨e', after', i, hwithin, rfl, hsound e' after' i hwithin hkey⟩

/-- In `/{a}/x` the capture takes the first segment of `/v/y` before the literal fails, and then the
stack is what it was, with a binding of something else on it. -/
theorem searchInPlace_untouched_capture :
    let q : Query := ⟨#[.separator 0 '/', .segment ⟨1, ['v'], ['v'], []⟩, .separator 2 '/',
      .segment ⟨3, ['y'], ['y'], []⟩], false, true, false⟩
    let e : PatternElement := ⟨1, .capture ['a'] none⟩
    let after : List PatternElement := [⟨4, .separator⟩, ⟨5, .literal ['x'] true⟩]
    let m : SearchState := ⟨[⟨['z'], ['1'], []⟩], some 7, ∅⟩
    ∃ p, Pattern.parse .default ['/', '{', 'a', '}', '/', 'x'] = .ok p ∧
      e :: after <:+ p.elements ∧ m.failed.Sound q p.elements ∧
      (q.segment? 1).bind (fun s => q.take? s e.kind) = some [⟨['a'], ['v'], []⟩] ∧
      (searchInPlace q (e :: after) 1 false m).1 = false ∧
      (searchInPlace q (e :: after) 1 false m).2.bindings = m.bindings ∧
      (searchInPlace q (e :: after) 1 false m).2.restIndex = some 7 := by
  intro q e after m
  have h : Pattern.parse .default ['/', '{', 'a', '}', '/', 'x']
      = .ok ⟨_, .default, ⟨0, .separator⟩ :: e :: after⟩ := rfl
  have hsuffix : e :: after <:+ ⟨0, .separator⟩ :: e :: after := List.suffix_cons _ _
  have hsound : m.failed.Sound q (⟨0, .separator⟩ :: e :: after) := Failures.sound_empty
  obtain ⟨-, hfailure, -⟩ := searchInPlace_untouched h q hsuffix 1 false hsound
  exact ⟨_, h, hsuffix, hsound, rfl, rfl, hfailure rfl⟩

end Parsed

end PathRouting
