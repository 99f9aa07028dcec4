import PathRouting.Proofs.Search.Basic

/-!
# Recording decides nothing

Captures are recorded on demand.  Whether they are makes no difference to which elements match
where, so it makes none to the success of the search nor to where the rest of the path starts.

## Main definitions

* `Query.recording` — the same question, captures recorded or not.

## Main results

* `restIndex_search_recording` — the search ends at the same index, or fails, either way.
-/

namespace PathRouting

variable {q : Query}

/-- The same question with captures recorded or not. -/
def Query.recording (q : Query) (extract : Bool) : Query := { q with extract := extract }

/-- A mixed segment is taken when its expression matches, whether or not its groups are found. -/
theorem isSome_take?_mixed (q : Query) (s : Segment) (text : List Char) (pieces : List Piece)
    (re : Regex) : (q.take? s (.mixed text pieces re)).isSome = re.isMatch s.value := by
  rw [Query.take?]
  split
  · rw [Option.isSome_map, Regex.isSome_captures?]
  · cases re.isMatch s.value <;> rfl

/-- An element takes the same segments. -/
theorem isSome_take?_recording (extract : Bool) (s : Segment) (k : ElementKind) :
    ((q.recording extract).take? s k).isSome = (q.take? s k).isSome := by
  cases k with
  | capture name constraint =>
    simp only [Query.take?]
    split <;> rfl
  | mixed text pieces re => rw [isSome_take?_mixed, isSome_take?_mixed]
  | _ => rfl

/-- Bindings put before an outcome do not move the rest of the path. -/
theorem restIndex_prepend (bs : List Binding) (o : Outcome) :
    (o.prepend bs).restIndex = o.restIndex := rfl

/-- **The search ends at the same index, or fails, whether or not captures are recorded.** -/
theorem restIndex_search_recording (extract : Bool) (es : List PatternElement) (index : Nat)
    (afterSegment : Bool) :
    (search (q.recording extract) es index afterSegment).map (·.restIndex)
      = (search q es index afterSegment).map (·.restIndex) := by
  induction es using search_induction generalizing index afterSegment with
  | nil => rfl
  | separator e after hkind ih =>
    rw [search_separator hkind, search_separator hkind]
    show Option.map _ (if q.isSeparator index then _ else _) = _
    split
    · exact ih (index + 1) false
    · rfl
  | wildcard e after hkind ih =>
    have hsegment : (q.recording extract).segment? index = q.segment? index := rfl
    rw [search_wildcard hkind, search_wildcard hkind, hsegment]
    cases q.segment? index with
    | none => rfl
    | some s =>
      dsimp only
      split
      · rfl
      · exact ih (index + 1) true
  | lastSegments e hkind =>
    rw [search_lastSegments hkind, search_lastSegments hkind]
    rfl
  | segments e next later hkind ihnext ihlater =>
    rw [search_segments hkind, search_segments hkind, List.map_findSome?, List.map_findSome?]
    show List.findSome? _ (restarts q index next) = _
    congr 1
    funext r
    cases r with
    | atIndex i => exact ihnext i false
    | pastSeparator => exact ihlater 0 false
  | catchAll e after hkind =>
    rw [search_catchAll hkind, search_catchAll hkind]
    show Option.map _ (if index < q.length && !q.isSeparator index then _ else _) = _
    rw [Query.finishWithRest]
    split <;> rfl
  | takes e after hkind ih =>
    rw [search_takes hkind, search_takes hkind]
    show Option.map _ (((q.segment? index).bind _).bind _) = _
    cases q.segment? index with
    | none => rfl
    | some s =>
      have htake := isSome_take?_recording (q := q) extract s e.kind
      have hafter := ih (index + 1) true
      rcases h₁ : (q.recording extract).take? s e.kind with _ | bs₁ <;>
        rcases h₂ : q.take? s e.kind with _ | bs₂ <;>
        simp_all [Option.map_map, Function.comp_def, restIndex_prepend]

/-- The search succeeds, or fails, whether or not captures are recorded. -/
theorem isSome_search_recording (extract : Bool) (es : List PatternElement) (index : Nat)
    (afterSegment : Bool) :
    (search (q.recording extract) es index afterSegment).isSome
      = (search q es index afterSegment).isSome := by
  have h := congrArg Option.isSome
    (restIndex_search_recording (q := q) extract es index afterSegment)
  rwa [Option.isSome_map, Option.isSome_map] at h

end PathRouting
