import PathRouting.Proofs.Path.Views
import PathRouting.Proofs.Pattern.StartMatch
import PathRouting.Proofs.Search.Place

/-!
# Paths of one text are matched the same

Two paths count as equal when they have the same text, wherever they were cut from.  Since the text
of a path holds its elements, patterns cannot tell such paths apart.

## Main definitions

* `StartMatch.shown` — what is seen of the match of the start of a path.
* `Path.Views` — what a part of parts has to do with the path it was first cut from.

## Main results

* `matchWith_of_seen` — patterns match paths that are seen the same alike.
* `matchWith_congr`, `matchStart?_congr` — so they do paths of the same elements.
* `views_of_isPart` — parts of parts, and paths that count as equal.
-/

namespace PathRouting

variable {o : PatternOptions} {text : List Char} {pattern : Pattern} {p p' : Path}

/-! ### Paths that are seen the same -/

section Seen

variable (hseen : p.elements.map PathElement.seen = p'.elements.map PathElement.seen)
include hseen

theorem Path.length_congr : p.length = p'.length := by
  simpa [Path.length] using congrArg List.length hseen

theorem Path.isEmpty_congr : p.isEmpty = p'.isEmpty := by
  simpa [Path.isEmpty] using congrArg List.isEmpty hseen

theorem Path.isJustSeparator_congr : p.isJustSeparator = p'.isJustSeparator := by
  have hlist : ∀ path : Path, path.isJustSeparator
      = ((path.elements.map PathElement.seen).map PathElement.isSeparator == [true]) := by
    intro path
    rw [isJustSeparator, List.map_map]
    rcases path.elements with _ | ⟨_ | s, _ | ⟨e, es⟩⟩ <;> rfl
  rw [hlist, hlist, hseen]

/-- The search finds the same in paths that are seen the same. -/
theorem search_query_congr (pattern : Pattern) (extract ofStart : Bool)
    (es : List PatternElement) (index : Nat) (afterSegment : Bool) :
    search (pattern.query p extract ofStart) es index afterSegment
      = search (pattern.query p' extract ofStart) es index afterSegment := by
  have hquery : (pattern.query p extract ofStart).seen
      = (pattern.query p' extract ofStart).seen := by
    simp [Query.seen, Pattern.query, hseen]
  rw [← search_seen, hquery, search_seen]

/-- **Paths that are seen the same match the same** and record the same. -/
theorem matchWith_of_seen (h : Pattern.parse o text = .ok pattern) (extract : Bool) :
    pattern.matchWith p extract = pattern.matchWith p' extract := by
  by_cases hne : pattern.elements = []
  · simp only [Pattern.matchWith, hne, Path.isEmpty_congr hseen, Path.isJustSeparator_congr hseen]
    rfl
  · rw [matchWith_eq h hne, matchWith_eq h hne, Path.isEmpty_congr hseen,
      search_query_congr hseen pattern extract false]

end Seen

/-! ### Paths of the same elements -/

section Elements

variable (heq : p.elements.map PathElement.unplaced = p'.elements.map PathElement.unplaced)
include heq

/-- Paths of the same elements match the same and record the same. -/
theorem matchWith_congr (h : Pattern.parse o text = .ok pattern) (extract : Bool) :
    pattern.matchWith p extract = pattern.matchWith p' extract :=
  matchWith_of_seen (PathElement.map_seen_congr heq) h extract

theorem Path.InStep.text_congr (hp : p.InStep) (hp' : p'.InStep) : p.text = p'.text := by
  rw [hp.text_eq, hp'.text_eq, ← PathElement.flatMap_raw_unplaced, heq,
    PathElement.flatMap_raw_unplaced]

/-- Parts of paths of the same elements have the same texts. -/
theorem map_text_subPath_congr (hp : p.InStep) (hp' : p'.InStep) (start stop : Nat) :
    (p.subPath start stop).map Path.text = (p'.subPath start stop).map Path.text := by
  have hraw : ∀ path : Path, ((path.elements.take stop).drop start).flatMap PathElement.raw
      = (((path.elements.map PathElement.unplaced).take stop).drop start).flatMap
          PathElement.raw := by
    intro path
    rw [← List.map_take, ← List.map_drop, PathElement.flatMap_raw_unplaced]
  rw [hp.map_text_subPath, hp'.map_text_subPath, hraw, hraw, heq,
    Path.length_congr (PathElement.map_seen_congr heq)]

/-- When a part of a path is asked for, there is one of a path of the same elements, with the same
text. -/
theorem exists_subPath_congr (hp : p.InStep) (hp' : p'.InStep) {start stop : Nat} {part : Path}
    (hpart : p.subPath start stop = .ok part) :
    ∃ part', p'.subPath start stop = .ok part' ∧ part'.text = part.text := by
  have htext := map_text_subPath_congr heq hp hp' start stop
  rw [hpart] at htext
  exact map_eq_ok.mp htext.symm

end Elements

/-! ### The start of a path -/

/-- What is seen of the match of the start of a path: the text of the start, the text of the rest
and what was recorded. -/
def StartMatch.shown (r : StartMatch) : List Char × List Char × MatchInfo :=
  (r.matched.text, r.remaining.text, r.info)

/-- A path of the same elements has a start that matches, with the same text. -/
theorem exists_matchStart?_congr (h : Pattern.parse o text = .ok pattern) (hp : p.InStep)
    (hp' : p'.InStep)
    (heq : p.elements.map PathElement.unplaced = p'.elements.map PathElement.unplaced)
    {r : StartMatch} (hr : pattern.matchStart? p = some r) :
    ∃ r', pattern.matchStart? p' = some r' ∧ r'.shown = r.shown := by
  by_cases hne : pattern.elements = []
  · -- nothing is taken, and the rest is all of the path
    have hstart : ∀ path : Path, pattern.matchStart? path
        = some ⟨.empty path.options (path.generation + 1), path, .empty⟩ := fun path => by
      rw [Pattern.matchStart?, if_pos (by simpa using hne)]
    obtain rfl := Option.some.inj ((hstart p).symm.trans hr)
    refine ⟨_, hstart p', ?_⟩
    simp [StartMatch.shown, hp.text_congr heq hp']
  · obtain ⟨hpath, bs, stop, hsearch, hmatched, hremaining, hinfo⟩ :=
      (matchStart?_eq_some h hne).mp hr
    obtain ⟨matched, hmatched', htext⟩ := exists_subPath_congr heq hp hp' hmatched
    obtain ⟨remaining, hremaining', htext'⟩ := exists_subPath_congr heq hp hp' hremaining
    rw [search_query_congr (PathElement.map_seen_congr heq)] at hsearch
    rw [Path.length_congr (PathElement.map_seen_congr heq)] at hremaining'
    have hpath' : p'.elements ≠ [] := by
      intro hnil
      rw [hnil, List.map_nil, List.map_eq_nil_iff] at heq
      exact hpath heq
    refine ⟨⟨matched, remaining, r.info⟩, (matchStart?_eq_some h hne).mpr
      ⟨hpath', bs, stop, hsearch, hmatched', hremaining', hinfo⟩, ?_⟩
    rw [StartMatch.shown, htext, htext', StartMatch.shown]

/-- **The starts of paths of the same elements match the same.** -/
theorem matchStart?_congr (h : Pattern.parse o text = .ok pattern) (hp : p.InStep)
    (hp' : p'.InStep)
    (heq : p.elements.map PathElement.unplaced = p'.elements.map PathElement.unplaced) :
    (pattern.matchStart? p).map StartMatch.shown
      = (pattern.matchStart? p').map StartMatch.shown := by
  ext shown
  simp only [Option.map_eq_some_iff]
  constructor
  · rintro ⟨r, hr, rfl⟩
    exact exists_matchStart?_congr h hp hp' heq hr
  · rintro ⟨r, hr, rfl⟩
    exact exists_matchStart?_congr h hp' hp heq.symm hr

/-! ### Parts of parts -/

/-- What a part of parts, cut out between two indices, has to do with the path it was first cut
from. -/
structure Path.Views (root : Path) (r : Indices) (p : Path) : Prop where
  /-- The path has elements for the indices. -/
  bounds : r.start ≤ r.stop ∧ r.stop ≤ root.length
  /-- The elements are those between the indices. -/
  elements : p.elements = (root.elements.take r.stop).drop r.start
  /-- There are as many elements as the part has indices. -/
  length : p.length = p.range.stop - p.range.start
  /-- The options are those of the path. -/
  options : p.options = root.options
  /-- The text is that of the elements. -/
  text : p.text = p.elements.flatMap PathElement.raw
  /-- There is no further part just when the indices are out of order or too large. -/
  fault : ∀ start stop, p.subPath start stop = .error ⟨start, stop, p.length⟩ ↔
    stop < start ∨ p.length < stop
  /-- Otherwise there is one. -/
  part : ∀ start stop, (∃ part, p.subPath start stop = .ok part) ↔
    start ≤ stop ∧ stop ≤ p.length
  /-- A part of a part is a part. -/
  nested : ∀ start stop first last part inner, p.subPath start stop = .ok part →
    part.subPath first last = .ok inner →
    ∃ direct, p.subPath (start + first) (start + last) = .ok direct ∧
      direct.text = inner.text ∧ direct.elements = inner.elements
  /-- Reading the text again gives the elements again, but for their places. -/
  reread : ∃ again, Path.parse p.text p.options = .ok again ∧
    again.elements.map PathElement.unplaced = p.elements.map PathElement.unplaced

/-- **Parts of parts are parts**, and no pattern can tell apart two of them that count as equal and
have the same options. -/
theorem views_of_isPart {options : PathOptions} {root : Path} {r : Indices}
    (h : Path.parse text options = .ok root) (hp : root.IsPart r p) :
    root.Views r p ∧ ∀ text' options' root' r' p', Path.parse text' options' = .ok root' →
      root'.IsPart r' p' → p.options = p'.options → (p == p') = true →
      ∀ o t pattern, Pattern.parse o t = .ok pattern →
        pattern.isMatch p = pattern.isMatch p' ∧ pattern.match? p = pattern.match? p' ∧
        (pattern.matchStart? p).map StartMatch.shown
          = (pattern.matchStart? p').map StartMatch.shown := by
  have hstep := hp.inStep (Path.inStep_of_parse h)
  obtain ⟨horder, hinside, helements⟩ := hp.elements_eq
  constructor
  · refine ⟨⟨horder, hinside⟩, helements, hstep.length_eq, hp.options_eq, hstep.text_eq,
      Path.subPath_error p, ?_, ?_, hstep.reread⟩
    · intro start stop
      constructor
      · rintro ⟨part, hpart⟩
        exact ⟨(Path.subPath_ok hpart).1, (Path.subPath_ok hpart).2.1⟩
      · rintro ⟨hle, hstop⟩
        exact Path.exists_subPath hle hstop
    · intro start stop first last part inner hpart hinner
      exact Path.subPath_subPath hstep hpart hinner
  · intro text' options' root' r' p' h' hp' hoptions hbeq o t pattern hpattern
    have hstep' := hp'.inStep (Path.inStep_of_parse h')
    have heq := hstep.unplaced_eq hstep' hoptions (Path.beq_iff.mp hbeq)
    exact ⟨congrArg Option.isSome (matchWith_congr heq hpattern false),
      matchWith_congr heq hpattern true, matchStart?_congr hpattern hstep hstep' heq⟩

/-- The second segment of a path with the separator before it, and the path that its text holds. -/
theorem views_of_isPart_nested : ∃ root part inner other pattern,
    Path.parse "/w/é%2Fb;k=1/c".toList .http = .ok root ∧ root.subPathFrom 2 = .ok part ∧
    part.subPath 0 2 = .ok inner ∧ Path.parse "/é%2Fb;k=1".toList .http = .ok other ∧
    Pattern.parse .default ['/', '{', 'x', '}'] = .ok pattern ∧ root.Views ⟨2, 4⟩ inner ∧
    (inner == other) = true ∧ pattern.match? inner = pattern.match? other := by
  let segment (offset : Nat) : PathElement :=
    .segment ⟨offset, "é%2Fb;k=1".toList, "é/b".toList, [(['k'], [['1']])]⟩
  let root : Path := .whole "/w/é%2Fb;k=1/c".toList [.separator 0 '/',
    .segment ⟨1, ['w'], ['w'], []⟩, .separator 2 '/', segment 3, .separator 13 '/',
    .segment ⟨14, ['c'], ['c'], []⟩] .http
  let other : Path := .whole "/é%2Fb;k=1".toList [.separator 0 '/', segment 1] .http
  let pattern : Pattern :=
    ⟨['/', '{', 'x', '}'], .default, [⟨0, .separator⟩, ⟨1, .capture ['x'] none⟩]⟩
  have hroot : Path.parse "/w/é%2Fb;k=1/c".toList .http = .ok root :=
    map_eq_ok.mpr ⟨_, by decide +kernel, rfl⟩
  have hother : Path.parse "/é%2Fb;k=1".toList .http = .ok other :=
    map_eq_ok.mpr ⟨_, by decide +kernel, rfl⟩
  have hpart : root.subPathFrom 2 = .ok (root.cut 2 6) := rfl
  have hinner : (root.cut 2 6).subPath 0 2 = .ok ((root.cut 2 6).cut 0 2) := rfl
  have hbeq : ((root.cut 2 6).cut 0 2 == other) = true := by decide +kernel
  have hpattern : Pattern.parse .default ['/', '{', 'x', '}'] = .ok pattern := rfl
  obtain ⟨hviews, hsame⟩ :=
    views_of_isPart hroot ((Path.IsPart.whole.subPathFrom hpart).subPath hinner)
  obtain ⟨-, hmatch, -⟩ := hsame _ _ _ _ _ hother .whole rfl hbeq _ _ _ hpattern
  exact ⟨root, _, _, other, pattern, hroot, hpart, hinner, hother, hpattern, hviews, hbeq, hmatch⟩

end PathRouting
