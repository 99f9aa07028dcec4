import PathRouting.Proofs.Path.Place
import PathRouting.Proofs.Search.Basic

/-!
# The search looks at values only

A pattern looks at the values and the variables of segments and at which elements are separators, so
two paths that differ only in their texts and in the places of their elements are matched the same.

## Main definitions

* `Query.seen` — the same question about what is seen of the elements.

## Main results

* `search_seen` — the search finds the same.
-/

namespace PathRouting

variable {q : Query}

/-- The same question about what is seen of the elements. -/
def Query.seen (q : Query) : Query :=
  { q with elements := q.elements.map PathElement.seen }

namespace Query

theorem length_seen (q : Query) : q.seen.length = q.length := by
  simp [length, seen]

theorem isSeparator_seen (q : Query) (index : Nat) :
    q.seen.isSeparator index = q.isSeparator index := by
  simp only [isSeparator, seen, Array.getElem?_map, Option.any_map]
  congr 1
  funext e
  exact e.isSeparator_seen

theorem segment?_seen (q : Query) (index : Nat) :
    q.seen.segment? index = (q.segment? index).map Segment.seen := by
  simp only [segment?, seen, Array.getElem?_map, Option.bind_map, Option.map_bind]
  congr 1
  funext e
  exact e.segment?_seen

theorem take?_seen (q : Query) (s : Segment) (k : ElementKind) :
    q.seen.take? s.seen k = q.take? s k := by
  cases k <;> rfl

theorem restBindings_seen (q : Query) (k : ElementKind) (index : Nat) :
    q.seen.restBindings k index = q.restBindings k index := by
  cases k with
  | captureRest name constraint =>
    simp only [restBindings, restBinding, seen, Array.toList_map, ← List.map_drop,
      List.flatMap_map, List.map_map, Function.comp_def, PathElement.value_seen,
      PathElement.matrix_seen]
  | _ => rfl

theorem finish_seen (q : Query) (index : Nat) (afterSegment : Bool) :
    q.seen.finish index afterSegment = q.finish index afterSegment := by
  simp only [finish, length_seen, isSeparator_seen]
  rfl

theorem finishWithRest_seen (q : Query) (index : Nat) (bs : List Binding) :
    q.seen.finishWithRest index bs = q.finishWithRest index bs := by
  simp only [finishWithRest, length_seen, isSeparator_seen]
  rfl

end Query

theorem restarts_seen (q : Query) (index : Nat) (next : PatternElement) :
    restarts q.seen index next = restarts q index next := by
  simp only [restarts, Query.length_seen, Query.isSeparator_seen]

/-- **The search looks at what is seen of the elements only.** -/
theorem search_seen (es : List PatternElement) (index : Nat) (afterSegment : Bool) :
    search q.seen es index afterSegment = search q es index afterSegment := by
  induction es using search_induction generalizing index afterSegment with
  | nil => rw [search_nil, search_nil, Query.finish_seen]
  | separator e after hkind ih =>
    rw [search_separator hkind, search_separator hkind, Query.isSeparator_seen, ih]
  | wildcard e after hkind ih =>
    rw [search_wildcard hkind, search_wildcard hkind, Query.segment?_seen,
      Query.length_seen, Query.finish_seen]
    cases q.segment? index with
    | none => rfl
    | some s =>
      show (if _ then none else search q.seen after (index + 1) true) = _
      rw [ih]
      rfl
  | lastSegments e hkind =>
    rw [search_lastSegments hkind, search_lastSegments hkind, Query.length_seen,
      Query.finish_seen]
  | segments e next later hkind ihnext ihlater =>
    rw [search_segments hkind, search_segments hkind, restarts_seen]
    congr 1
    funext r
    cases r with
    | atIndex i => exact ihnext i false
    | pastSeparator => exact ihlater 0 false
  | catchAll e after hkind =>
    rw [search_catchAll hkind, search_catchAll hkind, Query.finishWithRest_seen,
      Query.restBindings_seen]
  | takes e after hkind ih =>
    rw [search_takes hkind, search_takes hkind, Query.segment?_seen, Option.bind_map, ih]
    simp only [Function.comp_def, Query.take?_seen]

end PathRouting
