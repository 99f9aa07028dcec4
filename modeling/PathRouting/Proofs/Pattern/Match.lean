import PathRouting.Proofs.Search.Memo
import PathRouting.Proofs.Search.Recorded
import PathRouting.Proofs.Search.Recording

/-!
# Matching a whole path

## Main results

* `matchWith_eq` — matching a path is a question to the plain search.
* `isMatch_eq` — a path matches when there is something that it records.
* `isMatch_eq_search`, `isMatch_of_elements_nil` — whether a path matches.
* `nodup_of_search` — a pattern records no name twice.
-/

namespace PathRouting

variable {o : PatternOptions} {text : List Char} {p : Pattern}

@[simp] theorem length_query (p : Pattern) (path : Path) (extract ofStart : Bool) :
    (p.query path extract ofStart).length = path.length := by
  simp [Query.length, Pattern.query, Path.length]

/-- Matching a whole path is a question to the plain search, but for the empty path. -/
theorem matchWith_eq (h : Pattern.parse o text = .ok p) (hne : p.elements ≠ []) (path : Path)
    (extract : Bool) : p.matchWith path extract
      = if path.isEmpty && !p.canMatchEmpty then none
        else (search (p.query path extract false) p.elements 0 false).map fun o =>
          .ofBindings o.bindings := by
  rw [Pattern.matchWith, if_neg (by simpa using hne), run_of_parse h]

/-- A path matches when there is something that it records, if only nothing. -/
theorem isMatch_eq (h : Pattern.parse o text = .ok p) (path : Path) :
    p.isMatch path = (p.match? path).isSome := by
  rw [Pattern.isMatch, Pattern.match?]
  by_cases hne : p.elements = []
  · simp only [Pattern.matchWith, hne, List.isEmpty_nil, if_true]
  · rw [matchWith_eq h hne, matchWith_eq h hne]
    split
    · rfl
    · rw [Option.isSome_map, Option.isSome_map]
      exact isSome_search_recording (q := p.query path true false) false p.elements 0 false

/-- Whether a path that has elements matches is a question to the plain search. -/
theorem isMatch_eq_search (h : Pattern.parse o text = .ok p) (hne : p.elements ≠ []) {path : Path}
    (hpath : path.elements ≠ []) (extract : Bool) :
    p.isMatch path = (search (p.query path extract false) p.elements 0 false).isSome := by
  have hnonempty : path.isEmpty = false := by simpa [Path.isEmpty] using hpath
  rw [Pattern.isMatch, matchWith_eq h hne, hnonempty, Bool.false_and, if_neg (by simp),
    Option.isSome_map]
  exact isSome_search_recording (q := p.query path extract false) false p.elements 0 false

/-- What matches is found by the search. -/
theorem exists_search_of_isMatch (h : Pattern.parse o text = .ok p) (hne : p.elements ≠ [])
    {path : Path} (hmatch : p.isMatch path = true) :
    ∃ out, search (p.query path false false) p.elements 0 false = some out := by
  rw [Pattern.isMatch, matchWith_eq h hne] at hmatch
  split at hmatch
  · simp at hmatch
  · rw [Option.isSome_map] at hmatch
    exact Option.isSome_iff_exists.mp hmatch

/-- A pattern without elements matches the empty path and, where a trailing separator is optional,
the path of just one. -/
theorem isMatch_of_elements_nil (hnil : p.elements = []) (path : Path) :
    p.isMatch path
      = (path.isEmpty || (p.options.optionalTrailingSeparator && path.isJustSeparator)) := by
  rw [Pattern.isMatch, Pattern.matchWith, hnil, List.isEmpty_nil, if_pos rfl]
  split
  · next h => rw [h, Option.isSome_some]
  · next h => rw [Bool.not_eq_true] at h; rw [h, Option.isSome_none]

/-- Without elements and without a separator that may follow, only the empty path matches. -/
theorem elements_eq_nil_of_isMatch (hnil : p.elements = [])
    (htrailing : p.options.optionalTrailingSeparator = false) {path : Path}
    (hmatch : p.isMatch path = true) : path.elements = [] := by
  rw [isMatch_of_elements_nil hnil, htrailing, Bool.false_and, Bool.or_false] at hmatch
  exact List.isEmpty_iff.mp hmatch

/-! ### Names -/

/-- The names that a pattern records are those of its elements. -/
theorem namesOf_elements (p : Pattern) : namesOf p.elements = p.names := by
  rw [namesOf, Pattern.names, Pattern.kinds, List.flatMap_map]

/-- No name is recorded twice. -/
theorem nodup_of_search (h : Pattern.parse o text = .ok p) {q : Query} {index : Nat}
    {afterSegment : Bool} {out : Outcome}
    (ho : search q p.elements index afterSegment = some out) :
    (out.bindings.map (·.name)).Nodup :=
  (names_nodup_of_parse h).sublist (namesOf_elements p ▸ names_of_search ho)

end PathRouting
