import PathRouting.Proofs.Pattern.Layout
import PathRouting.Proofs.Pattern.StartMatch
import PathRouting.Proofs.Search.Trailing

/-!
# An optional trailing separator

A pattern that is read with an optional trailing separator has the elements that it has without.
It matches a path that ends with a separator one element earlier as well, but only where the
pattern itself ends in a segment and the path has a segment before the separator.

## Main definitions

* `Pattern.trailing` — a pattern, a trailing separator optional or not.
* `Path.WithoutSeparator` — a path without the separator it ends with.

## Main results

* `parse_trailing` — the option does not change how a pattern is read.
* `isMatch_trailing` — what the option adds to the paths that match.
-/

namespace PathRouting

variable {o : PatternOptions} {text : List Char} {p : Pattern}

/-- The options, a trailing separator being optional or not. -/
def PatternOptions.trailing (o : PatternOptions) (optional : Bool) : PatternOptions :=
  { o with optionalTrailingSeparator := optional }

/-- The pattern, a trailing separator being optional or not. -/
def Pattern.trailing (p : Pattern) (optional : Bool) : Pattern :=
  { p with options := p.options.trailing optional }

/-! ### Reading -/

theorem placeAll_trailing (o : PatternOptions) (optional : Bool) (ch : Chain) (ts : List Token) :
    Chain.placeAll (o.trailing optional) ch ts = Chain.placeAll o ch ts := by
  induction ts generalizing ch with
  | nil => rfl
  | cons t rest ih =>
    have hplace : Chain.place (o.trailing optional) rest.isEmpty ch t
        = Chain.place o rest.isEmpty ch t := rfl
    rw [Chain.placeAll, Chain.placeAll, hplace]
    simp only [ih]

/-- A pattern is read the same way whether or not a trailing separator is optional. -/
theorem parse_trailing (h : Pattern.parse o text = .ok p) (optional : Bool) :
    Pattern.parse (o.trailing optional) text = .ok (p.trailing optional) := by
  obtain ⟨ts, ch, hts, hch, rfl⟩ := parse_ok h
  exact parse_of_placeAll hts ((placeAll_trailing o optional _ ts).trans hch)

/-! ### Paths that end with a separator -/

namespace Path

variable {path part : Path}

/-- The path `part` is `path` without the separator that `path` ends with. -/
structure WithoutSeparator (path part : Path) : Prop where
  /-- The path ends with a separator. -/
  last : ∃ e ∈ path.elements.getLast?, e.isSeparator = true
  /-- The part is all that stands before it. -/
  before : path.subPath 0 (path.length - 1) = .ok part

theorem WithoutSeparator.elements_eq (h : path.WithoutSeparator part) :
    part.elements = path.elements.dropLast := by
  obtain ⟨-, -, helements, -⟩ := subPath_ok h.before
  rw [helements, List.drop_zero, List.dropLast_eq_take]
  rfl

/-- A path that ends with a separator has a part before it. -/
theorem exists_withoutSeparator (h : ∃ e ∈ path.elements.getLast?, e.isSeparator = true) :
    ∃ part, path.WithoutSeparator part := by
  obtain ⟨part, hpart⟩ := exists_subPath (p := path) (Nat.zero_le (path.length - 1)) (Nat.sub_le _ _)
  exact ⟨part, h, hpart⟩

theorem isJustSeparator_iff :
    path.isJustSeparator = true ↔ ∃ e, path.elements = [e] ∧ e.isSeparator = true := by
  rw [isJustSeparator]
  rcases path.elements with _ | ⟨_ | s, _ | ⟨e, es⟩⟩ <;> simp

/-- A path is just a separator when nothing stands before the separator it ends with. -/
theorem isJustSeparator_iff_withoutSeparator : path.isJustSeparator = true ↔
    ∃ part, path.WithoutSeparator part ∧ part.elements = [] := by
  rw [isJustSeparator_iff]
  constructor
  · rintro ⟨e, helements, hsep⟩
    have hlast : ∃ e ∈ path.elements.getLast?, e.isSeparator = true :=
      ⟨e, by rw [helements]; rfl, hsep⟩
    obtain ⟨part, hpart⟩ := exists_withoutSeparator hlast
    exact ⟨part, hpart, by rw [hpart.elements_eq, helements, List.dropLast_singleton]⟩
  · rintro ⟨part, hpart, hnil⟩
    obtain ⟨e, he, hsep⟩ := hpart.last
    rw [hpart.elements_eq] at hnil
    exact ⟨e, by rw [← List.dropLast_append_getLast? e he, hnil, List.nil_append], hsep⟩

end Path

/-- What is asked about the path without its last separator. -/
theorem query_withoutSeparator {path part : Path} (h : path.WithoutSeparator part) (p : Pattern)
    (extract : Bool) :
    (p.query path extract false).upTo ((p.query path extract false).length - 1)
      = p.query part extract false := by
  rw [length_query]
  exact query_upTo (by rw [h.elements_eq, List.dropLast_eq_take, Path.length]) extract

/-- A path has a separator to spare when it ends with one and there is a segment before it. -/
theorem spare_query_iff {path : Path} (p : Pattern) (extract ofStart : Bool) :
    (p.query path extract ofStart).Spare ↔
      ∃ part s, path.WithoutSeparator part ∧ part.elements.getLast? = some (.segment s) := by
  have hlast : (p.query path extract ofStart).isSeparator (path.length - 1) = true ↔
      ∃ e ∈ path.elements.getLast?, e.isSeparator = true := by
    simp [Query.isSeparator, Pattern.query, List.getLast?_eq_getElem?, Path.length,
      Option.any_eq_true]
  have hbefore : 1 < path.length → ∀ s,
      ((p.query path extract ofStart).segment? (path.length - 2) = some s ↔
        path.elements.dropLast.getLast? = some (.segment s)) := by
    intro hlength s
    have hsegment : ∀ e : PathElement, e.segment? = some s ↔ e = .segment s := by
      rintro (_ | s') <;> simp [PathElement.segment?]
    have hlt : path.elements.length - 1 - 1 < path.elements.length - 1 := by
      rw [Path.length] at hlength
      omega
    rw [List.getLast?_eq_getElem?, List.length_dropLast, List.getElem?_dropLast, if_pos hlt]
    simp [Query.segment?, Pattern.query, Path.length, Nat.sub_sub, Option.bind_eq_some_iff, hsegment]
  constructor
  · intro h
    have hlength : 1 < path.length := by simpa using h.one_lt
    obtain ⟨hsep, s, hs⟩ := h
    rw [length_query] at hsep hs
    obtain ⟨part, hpart⟩ := Path.exists_withoutSeparator (hlast.mp hsep)
    exact ⟨part, s, hpart, by rw [hpart.elements_eq, (hbefore hlength s).mp hs]⟩
  · rintro ⟨part, s, hpart, hs⟩
    rw [hpart.elements_eq] at hs
    have hlength : 1 < path.length := by
      have hpos := List.length_pos_of_mem (List.mem_of_getLast? hs)
      rw [List.length_dropLast] at hpos
      rw [Path.length]
      omega
    exact ⟨by rw [length_query]; exact hlast.mpr hpart.last, s,
      by rw [length_query]; exact (hbefore hlength s).mpr hs⟩

/-! ### Matching -/

/-- What the last of the elements takes. -/
theorem endsInSegment_elements (p : Pattern) : endsInSegment p.elements false = true ↔
    ∃ k ∈ p.kinds.getLast?, k.takesSegment = true := by
  rw [endsInSegment_eq, Pattern.kinds, List.getLast?_map]
  cases p.elements.getLast? <;> simp

/-- Without elements the option adds the path of just a separator. -/
theorem isMatch_trailing_of_elements_nil (hnil : p.elements = []) (path : Path) :
    (p.trailing true).isMatch path = true ↔ (p.trailing false).isMatch path = true ∨
      ∃ part, path.WithoutSeparator part ∧ (p.trailing false).isMatch part = true ∧
        part.elements = [] := by
  have hoff : ∀ path : Path, (p.trailing false).isMatch path = path.isEmpty := fun path => by
    rw [isMatch_of_elements_nil (p := p.trailing false) hnil]
    exact Bool.or_false _
  have hon : (p.trailing true).isMatch path = (path.isEmpty || path.isJustSeparator) :=
    isMatch_of_elements_nil (p := p.trailing true) hnil path
  rw [hon, Bool.or_eq_true, Path.isJustSeparator_iff_withoutSeparator, hoff]
  simp only [hoff, Path.isEmpty, List.isEmpty_iff, and_self]

/-- To the empty path the option makes no difference. -/
theorem isMatch_trailing_of_empty (h : Pattern.parse o text = .ok p) (hne : p.elements ≠ [])
    {path : Path} (hpath : path.elements = []) :
    (p.trailing true).isMatch path = (p.trailing false).isMatch path := by
  have hspare : ¬(p.query path false false).Spare := fun hspare => by
    have hpos := hspare.pos
    rw [length_query, Path.length, hpath] at hpos
    exact absurd hpos (Nat.lt_irrefl 0)
  have hsearch := search_trailing (q := p.query path false false) rfl (adjoining_of_parse h)
  rw [Pattern.isMatch, Pattern.isMatch, matchWith_eq (parse_trailing h true) hne,
    matchWith_eq (parse_trailing h false) hne]
  show Option.isSome (if path.isEmpty && !p.canMatchEmpty then _ else _)
    = Option.isSome (if path.isEmpty && !p.canMatchEmpty then _ else _)
  split
  · rfl
  · rw [Option.isSome_map, Option.isSome_map, Bool.eq_iff_iff]
    exact hsearch.trans (or_iff_left fun hshort => hspare hshort.1)

/-- **What an optional trailing separator adds to the paths that match**: paths that end with a
separator and match without it, if the text and the rest of the path are empty or both the elements
and the rest of the path end in a segment. -/
theorem isMatch_trailing (h : Pattern.parse o text = .ok p) : ∃ p₀ p₁,
    Pattern.parse (o.trailing false) text = .ok p₀ ∧
    Pattern.parse (o.trailing true) text = .ok p₁ ∧
    ∀ path : Path, p₁.isMatch path = true ↔ p₀.isMatch path = true ∨
      ∃ part, path.WithoutSeparator part ∧ p₀.isMatch part = true ∧
        (text = [] ∧ part.elements = [] ∨
          (∃ k ∈ p₀.kinds.getLast?, k.takesSegment = true) ∧
            ∃ s, part.elements.getLast? = some (.segment s)) := by
  have hoff := parse_trailing h false
  have hon := parse_trailing h true
  refine ⟨_, _, hoff, hon, fun path => ?_⟩
  by_cases htext : text = []
  · subst htext
    have hnil : p.elements = [] := congrArg Pattern.elements (Except.ok.inj h).symm
    have hkinds : (p.trailing false).kinds = [] := congrArg (List.map PatternElement.kind) hnil
    simpa [hkinds] using isMatch_trailing_of_elements_nil hnil path
  have hne : p.elements ≠ [] := elements_ne_nil_of_parse h htext
  have hkinds : (∃ k ∈ (p.trailing false).kinds.getLast?, k.takesSegment = true) ↔
      endsInSegment p.elements false = true := (endsInSegment_elements p).symm
  simp only [htext, false_and, false_or, hkinds]
  by_cases hpath : path.elements = []
  -- the empty path does not end with a separator
  · rw [isMatch_trailing_of_empty h hne hpath, iff_self_or]
    rintro ⟨part, ⟨⟨e, he, -⟩, -⟩, -⟩
    simp [hpath] at he
  rw [isMatch_eq_search hon hne hpath false, isMatch_eq_search hoff hne hpath false]
  refine (search_trailing (q := p.query path false false) rfl (adjoining_of_parse h)).trans
    (or_congr_right ?_)
  rw [spare_query_iff]
  constructor
  · rintro ⟨⟨part, s, hpart, hs⟩, hlast, hmatch⟩
    have hnonempty : part.elements ≠ [] := List.ne_nil_of_mem (List.mem_of_getLast? hs)
    refine ⟨part, hpart, ?_, hlast, s, hs⟩
    rw [isMatch_eq_search hoff hne hnonempty false]
    rwa [query_withoutSeparator hpart] at hmatch
  · rintro ⟨part, hpart, hmatch, hlast, s, hs⟩
    have hnonempty : part.elements ≠ [] := List.ne_nil_of_mem (List.mem_of_getLast? hs)
    refine ⟨⟨part, s, hpart, hs⟩, hlast, ?_⟩
    rw [isMatch_eq_search hoff hne hnonempty false] at hmatch
    rwa [query_withoutSeparator hpart]

/-- The pattern `/{a}` and the path `/x/`. -/
theorem isMatch_trailing_capture : ∃ p₀ p₁ path,
    Pattern.parse .default ['/', '{', 'a', '}'] = .ok p₀ ∧
    Pattern.parse (PatternOptions.default.trailing true) ['/', '{', 'a', '}'] = .ok p₁ ∧
    Path.parse ['/', 'x', '/'] .http = .ok path ∧
    p₀.isMatch path = false ∧ p₁.isMatch path = true := by
  let path : Path := .whole ['/', 'x', '/']
    [.separator 0 '/', .segment ⟨1, ['x'], ['x'], []⟩, .separator 2 '/'] .http
  have h : Pattern.parse .default ['/', '{', 'a', '}']
      = .ok ⟨['/', '{', 'a', '}'], .default, [⟨0, .separator⟩, ⟨1, .capture ['a'] none⟩]⟩ := rfl
  obtain ⟨p₀, p₁, hp₀, hp₁, hiff⟩ := isMatch_trailing h
  obtain rfl := Except.ok.inj (hp₀.symm.trans h)
  have hpart : path.WithoutSeparator (path.cut 0 2) := ⟨⟨_, rfl, rfl⟩, rfl⟩
  exact ⟨_, p₁, path, hp₀, hp₁, rfl, rfl,
    (hiff path).mpr (.inr ⟨_, hpart, rfl, .inr ⟨⟨_, rfl, rfl⟩, _, rfl⟩⟩)⟩

end PathRouting
