import PathRouting.Proofs.Pattern.AfterSeparator
import PathRouting.Proofs.Pattern.RestCapture

/-!
# `**` and a capture of the rest at the end

A text that ends with the separator matches the same paths with `**` after it and with a capture of
the rest.  Both take in the separator and become elements that match whatever is left.  Alone they
differ: `**` is then the element for any number of segments and matches every path, while the
capture matches, as always, only from a separator on or at the end of the path.

## Main results

* `isSome_search_concat` — of what may stand last, all that takes what is left matches alike.
* `kinds_lastRest`, `kinds_lastCapture` — the elements of both patterns.
* `isMatch_lastRest` — the paths that both match.
-/

namespace PathRouting

/-! ### The search -/

section Search

variable {q : Query}

theorem isSome_findSome?_congr {α β : Type} {f g : α → Option β} {l : List α}
    (h : ∀ x ∈ l, (f x).isSome = (g x).isSome) :
    (l.findSome? f).isSome = (l.findSome? g).isSome := by
  rw [Bool.eq_iff_iff, List.findSome?_isSome_iff, List.findSome?_isSome_iff]
  exact exists_congr fun x => and_congr_right fun hx => by rw [h x hx]

/-- Whether the rest of a path is taken does not depend on what is recorded of it. -/
theorem isSome_finishWithRest (q : Query) (index : Nat) (bs : List Binding) :
    (q.finishWithRest index bs).isSome = !(index < q.length && !q.isSeparator index) := by
  rw [Query.finishWithRest]
  cases (index < q.length && !q.isSeparator index : Bool) <;> rfl

/-- **All elements that take what is left match alike** as the last one of a pattern. -/
theorem isSome_search_concat {e e' : PatternElement} (he : e.kind.isCatchAll = true)
    (he' : e'.kind.isCatchAll = true) (es : List PatternElement) (index : Nat)
    (afterSegment : Bool) : (search q (es ++ [e]) index afterSegment).isSome
      = (search q (es ++ [e']) index afterSegment).isSome := by
  have hsep : ∀ {e : PatternElement}, e.kind.isCatchAll = true → e.kind.isSeparator = false := by
    rintro ⟨position, k⟩ h
    cases k <;> first | rfl | simp [ElementKind.isCatchAll] at h
  have hend : ∀ index afterSegment, (search q [e] index afterSegment).isSome
      = (search q [e'] index afterSegment).isSome := by
    intro index afterSegment
    rw [search_catchAll he, search_catchAll he', isSome_finishWithRest, isSome_finishWithRest]
  induction es using search_induction generalizing index afterSegment with
  | nil => exact hend index afterSegment
  | separator d after hkind ih =>
    rw [List.cons_append, List.cons_append, search_separator hkind, search_separator hkind]
    split
    · exact ih (index + 1) false
    · rfl
  | wildcard d after hkind ih =>
    have hne : ∀ e : PatternElement, (after ++ [e]).isEmpty = false := by simp
    rw [List.cons_append, List.cons_append, search_wildcard hkind, search_wildcard hkind, hne, hne]
    rcases q.segment? index with _ | s
    · simp only [Bool.and_false]
    · dsimp only
      split
      · rfl
      · exact ih (index + 1) true
  | lastSegments d hkind =>
    have hrestarts : restarts q index e = restarts q index e' := by
      rw [restarts, restarts, hsep he, hsep he']
    rw [List.singleton_append, List.singleton_append, search_segments hkind, search_segments hkind,
      hrestarts]
    refine isSome_findSome?_congr fun r hr => ?_
    -- there is no separator after the `**` that it could skip
    rcases mem_restarts.mp hr with ⟨i, -, -, rfl⟩ | ⟨-, -, rfl⟩ | ⟨-, hnext, -⟩
    · exact hend i false
    · exact hend (index - 1) false
    · simp [hnext, ElementKind.isCatchAll] at he'
  | segments d next later hkind ihnext ihlater =>
    simp only [List.cons_append, search_segments hkind]
    refine isSome_findSome?_congr fun r _ => ?_
    cases r with
    | atIndex i => exact ihnext i false
    | pastSeparator => exact ihlater 0 false
  | catchAll d after hkind =>
    rw [List.cons_append, List.cons_append, search_catchAll hkind, search_catchAll hkind]
  | takes d after hkind ih =>
    rw [List.cons_append, List.cons_append, search_takes hkind, search_takes hkind]
    rcases (q.segment? index).bind fun s => q.take? s d.kind with _ | bs
    · rfl
    · simp only [Option.bind_some, Option.isSome_map]
      exact ih (index + 1) true

end Search

/-! ### The elements -/

section Elements

variable {o : PatternOptions} {text name : List Char} {p c d : Pattern}

/-- The elements of a text with one more segment that takes in the separator before it. -/
theorem kinds_of_pushWithSeparator (ho : o.validate = .ok o) (h : Pattern.parse o text = .ok p)
    (hlast : text = [] ∨ text.getLast? = some o.separator) {t : List Char}
    (ht : contentsFrom o.separator .outside t = some [some t]) {kind : Bool → ElementKind}
    (hplace : ∀ l l' : Outline, l.place o true (some t) = some l' →
      ∃ names, l' = { l with names }.pushWithSeparator kind)
    (hd : Pattern.parse o (text ++ t) = .ok d) :
    (text = [] → d.kinds = [kind false]) ∧ (text ≠ [] →
      ∃ first, p.kinds = first ++ [.separator] ∧ d.kinds = first ++ [kind true]) := by
  obtain ⟨hempty, hhead, hread⟩ := Outline.read_append_last ho (read_of_parse h) hlast
  have hd' := read_of_parse hd
  rw [hread, ht, Option.bind_some] at hd'
  obtain ⟨l', hl', hend⟩ := Option.bind_eq_some_iff.mp hd'
  obtain ⟨names, rfl⟩ := hplace _ _ hl'
  have hkinds := congrArg (fun l : Outline => l.kinds.reverse) (Option.some.inj hend)
  simp only [List.reverse_reverse] at hkinds
  refine ⟨fun hnil => ?_, fun hne => ?_⟩
  · have hnone : p.kinds.reverse = [] := congrArg Outline.kinds (hempty hnil)
    rw [← hkinds, hnone]
    rfl
  · obtain ⟨before, hbefore⟩ : ∃ before, p.kinds.reverse = .separator :: before :=
      List.head?_eq_some_iff.mp (hhead hne)
    refine ⟨before.reverse, ?_, ?_⟩
    · rw [← List.reverse_reverse p.kinds, hbefore, List.reverse_cons]
    · rw [← hkinds, hbefore]
      exact List.reverse_cons ..

/-- The elements of a text with `**` after it. -/
theorem kinds_lastRest (ho : o.validate = .ok o) (h : Pattern.parse o text = .ok p)
    (hlast : text = [] ∨ text.getLast? = some o.separator)
    (hd : Pattern.parse o (text ++ ['*', '*']) = .ok d) :
    (text = [] → d.kinds = [.segments]) ∧ (text ≠ [] →
      ∃ first, p.kinds = first ++ [.separator] ∧ d.kinds = first ++ [.rest o.separator]) := by
  obtain ⟨-, -, hstar⟩ := separator_ne ho
  have hplace : ∀ l l' : Outline, l.place o true (some ['*', '*']) = some l' →
      ∃ names, l' = { l with names }.pushWithSeparator fun taken =>
        if taken then .rest o.separator else .segments := by
    intro l l' hl'
    rw [Outline.place, Option.ite_none_left_eq_some] at hl'
    exact ⟨l.names, (Option.some.inj hl'.2).symm⟩
  exact kinds_of_pushWithSeparator ho h hlast (contentsFrom_segments hstar) hplace hd

/-- The elements of a text with a capture of the rest after it. -/
theorem kinds_lastCapture (ho : o.validate = .ok o) (h : Pattern.parse o text = .ok p)
    (hlast : text = [] ∨ text.getLast? = some o.separator) (hname : IsName name)
    (hc : Pattern.parse o (text ++ restCapture name) = .ok c) :
    (text = [] → c.kinds = [.captureRest name none]) ∧ (text ≠ [] →
      ∃ first, p.kinds = first ++ [.separator] ∧
        c.kinds = first ++ [.captureRest name (some o.separator)]) := by
  have hplace : ∀ l l' : Outline, l.place o true (some (restCapture name)) = some l' →
      ∃ names, l' = { l with names }.pushWithSeparator fun taken =>
        .captureRest name (if taken then some o.separator else none) := by
    intro l l' hl'
    rw [Outline.place, Option.ite_none_left_eq_some] at hl'
    obtain ⟨name', hread, hadd⟩ := Option.bind_eq_some_iff.mp hl'.2
    obtain rfl : name = name' := by
      rw [readRestName_restCapture hname] at hread
      exact Option.some.inj hread
    obtain ⟨names, -, rfl⟩ := Option.map_eq_some_iff.mp hadd
    exact ⟨names, rfl⟩
  exact kinds_of_pushWithSeparator ho h hlast (contentsFrom_restCapture hname _) hplace hc

end Elements

/-! ### Matching -/

section Matching

variable {o : PatternOptions} {text text' name : List Char} {p c d : Pattern}

/-- Patterns that are the same but for the element that takes what is left at their end match the
same paths. -/
theorem isMatch_of_concat_catchAll (hc : Pattern.parse o text = .ok c)
    (hd : Pattern.parse o text' = .ok d) {first : List ElementKind} {k k' : ElementKind}
    (hk : k.isCatchAll = true) (hk' : k'.isCatchAll = true) (hckinds : c.kinds = first ++ [k])
    (hdkinds : d.kinds = first ++ [k']) (path : Path) : c.isMatch path = d.isMatch path := by
  have hne : ∀ {p : Pattern} {k}, p.kinds = first ++ [k] → p.elements ≠ [] := by
    rintro p k hkinds hnil
    simp [Pattern.kinds, hnil] at hkinds
  have hempty : c.canMatchEmpty = d.canMatchEmpty := by
    rw [Pattern.canMatchEmpty, Pattern.canMatchEmpty, hckinds, hdkinds]
    rcases first with _ | ⟨k₀, first⟩
    · simp [hk, hk']
    · have hmore : ∀ k, (first ++ [k]).isEmpty = false := by simp
      simp only [List.cons_append, hmore]
  have hquery : c.query path false false = d.query path false false := by
    simp [Pattern.query, (text_of_parse hc).2, (text_of_parse hd).2]
  have helements : ∀ {p : Pattern} {k}, p.kinds = first ++ [k] → p.elements.map (·.kind)
      = (first.map (PatternElement.mk 0) ++ [PatternElement.mk 0 k]).map (·.kind) := by
    intro p k hkinds
    simpa [Pattern.kinds, Function.comp_def] using hkinds
  rw [Pattern.isMatch, Pattern.isMatch, matchWith_eq hc (hne hckinds),
    matchWith_eq hd (hne hdkinds), hempty, hquery]
  split
  · rfl
  · rw [Option.isSome_map, Option.isSome_map, search_congr (helements hckinds),
      search_congr (helements hdkinds)]
    exact isSome_search_concat hk hk' _ 0 false

/-- A `**` that is all of a pattern matches every path. -/
theorem isMatch_of_segments (hd : Pattern.parse o text = .ok d) (hkinds : d.kinds = [.segments])
    (path : Path) : d.isMatch path = true := by
  obtain ⟨e, helements, hkind⟩ : ∃ e, d.elements = [e] ∧ e.kind = .segments :=
    List.map_eq_singleton_iff.mp hkinds
  have hempty : d.canMatchEmpty = true := by
    rw [Pattern.canMatchEmpty, hkinds]
    rfl
  have hend : (d.query path false false).finish (d.query path false false).length false
      = some ⟨[], none⟩ := (Query.finish_whole rfl).mpr ⟨.inl rfl, rfl⟩
  rw [Pattern.isMatch, matchWith_eq hd (by simp [helements]), hempty, Bool.not_true,
    Bool.and_false, if_neg (by simp), Option.isSome_map, helements, search_lastSegments hkind, hend]
  rfl

/-- A capture of the rest that is all of a pattern matches the paths that do not start with a
segment. -/
theorem isMatch_of_captureRest (hc : Pattern.parse o text = .ok c) {separator : Option Char}
    (hkinds : c.kinds = [.captureRest name separator]) (path : Path) :
    c.isMatch path = true ↔ ¬∃ s, path.elements.head? = some (.segment s) := by
  obtain ⟨e, helements, hkind⟩ : ∃ e, c.elements = [e] ∧ e.kind = .captureRest name separator :=
    List.map_eq_singleton_iff.mp hkinds
  have hempty : c.canMatchEmpty = true := by
    rw [Pattern.canMatchEmpty, hkinds]
    rfl
  have hcatchAll : e.kind.isCatchAll = true := by rw [hkind]; rfl
  rw [Pattern.isMatch, matchWith_eq hc (by simp [helements]), hempty, Bool.not_true,
    Bool.and_false, if_neg (by simp), Option.isSome_map, helements, search_catchAll hcatchAll,
    isSome_finishWithRest, length_query, Path.length, Query.isSeparator, Pattern.query]
  rcases path.elements with _ | ⟨_ | s, es⟩ <;> simp [PathElement.isSeparator]

/-- **`**` and a capture of the rest at the end**, after nothing or after a text that ends with the
separator, match the same paths, but for one exception: alone the `**` matches every path, and the
capture matches none that starts with a segment. -/
theorem isMatch_lastRest (ho : o.validate = .ok o) (h : Pattern.parse o text = .ok p)
    (hlast : text = [] ∨ text.getLast? = some o.separator) (hname : IsName name)
    (hc : Pattern.parse o (text ++ '{' :: '*' :: name ++ ['}']) = .ok c)
    (hd : Pattern.parse o (text ++ ['*', '*']) = .ok d) (path : Path) :
    (text ≠ [] ∨ ¬(∃ s, path.elements.head? = some (.segment s)) →
      (c.isMatch path = true ↔ d.isMatch path = true)) ∧
    (text = [] → (∃ s, path.elements.head? = some (.segment s)) →
      c.isMatch path = false ∧ d.isMatch path = true) := by
  have hc' : Pattern.parse o (text ++ restCapture name) = .ok c := by simpa [restCapture] using hc
  obtain ⟨hcalone, hcafter⟩ := kinds_lastCapture ho h hlast hname hc'
  obtain ⟨hdalone, hdafter⟩ := kinds_lastRest ho h hlast hd
  by_cases hnil : text = []
  · have hcmatch := isMatch_of_captureRest hc' (hcalone hnil) path
    have hdmatch := isMatch_of_segments hd (hdalone hnil) path
    refine ⟨fun hfront => ?_, fun _ hfront => ⟨?_, hdmatch⟩⟩
    · exact iff_of_true (hcmatch.mpr (hfront.resolve_left (not_not.mpr hnil))) hdmatch
    · exact Bool.eq_false_iff.mpr fun hmatch => hcmatch.mp hmatch hfront
  · obtain ⟨first, hfirst, hckinds⟩ := hcafter hnil
    obtain ⟨first', hfirst', hdkinds⟩ := hdafter hnil
    obtain rfl : first = first' := List.append_cancel_right (hfirst.symm.trans hfirst')
    have hsame := isMatch_of_concat_catchAll hc' hd rfl rfl hckinds hdkinds path
    exact ⟨fun _ => by rw [hsame], fun h => absurd h hnil⟩

/-- The patterns `/a/{*x}` and `/a/**` and the path `/a/b`. -/
theorem isMatch_lastRest_afterLiteral : ∃ c d path,
    Pattern.parse .default ['/', 'a', '/', '{', '*', 'x', '}'] = .ok c ∧
    Pattern.parse .default ['/', 'a', '/', '*', '*'] = .ok d ∧
    Path.parse ['/', 'a', '/', 'b'] .http = .ok path ∧
    c.isMatch path = true ∧ d.isMatch path = true := by
  have ho : PatternOptions.default.validate = .ok .default := rfl
  have h : Pattern.parse .default ['/', 'a', '/'] = .ok _ := rfl
  have hname : IsName ['x'] := ⟨by decide, by simp⟩
  have hc : Pattern.parse .default ['/', 'a', '/', '{', '*', 'x', '}'] = .ok _ := rfl
  have hd : Pattern.parse .default ['/', 'a', '/', '*', '*'] = .ok _ := rfl
  have hpath : Path.parse ['/', 'a', '/', 'b'] .http = .ok _ := rfl
  refine ⟨_, _, _, hc, hd, hpath, ?_, by decide +kernel⟩
  exact ((isMatch_lastRest ho h (.inr rfl) hname hc hd _).1 (.inl (by decide))).mpr
    (by decide +kernel)

/-- Alone the two do not match the same paths: `**` matches `a` and `{*x}` does not. -/
theorem not_isMatch_lastRest_alone : ∃ c d path,
    PatternOptions.default.validate = .ok .default ∧ IsName ['x'] ∧
    Pattern.parse .default ([] ++ '{' :: '*' :: ['x'] ++ ['}']) = .ok c ∧
    Pattern.parse .default ([] ++ ['*', '*']) = .ok d ∧
    Path.parse ['a'] .http = .ok path ∧
    ¬(c.isMatch path = true ↔ d.isMatch path = true) := by
  have hc : Pattern.parse .default ([] ++ '{' :: '*' :: ['x'] ++ ['}']) = .ok _ := rfl
  have hd : Pattern.parse .default ([] ++ ['*', '*']) = .ok _ := rfl
  have hpath : Path.parse ['a'] .http = .ok _ := rfl
  exact ⟨_, _, _, rfl, ⟨by decide, by simp⟩, hc, hd, hpath, by decide +kernel⟩

end Matching

end PathRouting
