import PathRouting.Proofs.Pattern.StartMatch
import Mathlib.Data.List.Nodup

/-!
# Bindings are complete

A match of a whole path or of its start has a value for every capture of the pattern and for nothing
else, and what a capture of one segment has taken is a segment of the path.  What attempts have
recorded that failed is never seen.

## Main definitions

* `MatchInfo.Completes` — a record with a value for every capture of a pattern.

## Main results

* `names_of_search_extract` — every capture records once, in the order of the pattern.
* `exists_segment_of_search` — an element that takes one segment records what that segment gives.
* `completes_of_match` — matches are complete.
-/

namespace PathRouting

variable {q : Query}

/-! ### Names -/

/-- As many groups are read off as are asked for. -/
theorem Regex.length_of_captures? {re : Regex} {n : Nat} {input : List Char}
    {values : List (List Char)} (h : re.captures? n input = some values) : values.length = n := by
  obtain ⟨slots, -, rfl⟩ := Option.map_eq_some_iff.mp h
  simp

/-- When captures are to be recorded, an element records all of its names. -/
theorem names_of_take?_extract (hq : q.extract = true) {s : Segment} {k : ElementKind}
    {bs : List Binding} (h : q.take? s k = some bs) : bs.map (·.name) = k.names := by
  cases k with
  | capture name constraint =>
    rw [Query.take?, Option.ite_none_left_eq_some] at h
    obtain ⟨-, rfl⟩ := h.imp_right Option.some.inj
    rw [Query.recorded, if_pos hq]
    rfl
  | mixed text pieces re =>
    rw [Query.take?, if_pos hq] at h
    obtain ⟨values, hvalues, rfl⟩ := Option.map_eq_some_iff.mp h
    have hlength := Regex.length_of_captures? hvalues
    rw [List.map_map]
    exact List.map_fst_zip (Nat.le_of_eq hlength.symm)
  | literal text caseSensitive =>
    obtain rfl := Option.some.inj (Option.ite_none_right_eq_some.mp h).2
    rfl
  | singleChars text caseSensitive =>
    obtain rfl := Option.some.inj (Option.ite_none_right_eq_some.mp h).2
    rfl
  | _ => simp [Query.take?] at h

/-- What holds of all elements but the last one holds of all but the last of those after the
first. -/
theorem forall_dropLast_of_cons {P : PatternElement → Prop} {e : PatternElement}
    {after : List PatternElement} (h : ∀ e' ∈ (e :: after).dropLast, P e') :
    ∀ e' ∈ after.dropLast, P e' := by
  cases after with
  | nil => simp
  | cons e' after => exact (List.forall_mem_cons.mp h).2

/-- **Every capture records once**, in the order of the pattern. -/
theorem names_of_search_extract (hq : q.extract = true) {es : List PatternElement} {index : Nat}
    {afterSegment : Bool} {o : Outcome}
    (hlast : ∀ e ∈ es.dropLast, e.kind.isCatchAll = false)
    (ho : search q es index afterSegment = some o) : o.bindings.map (·.name) = namesOf es := by
  have hnameless : ∀ {k : ElementKind}, k.names = [] → ∀ (position : Nat) after,
      namesOf (⟨position, k⟩ :: after) = namesOf after := by
    intro k hk position after
    rw [namesOf, List.flatMap_cons, hk, List.nil_append, namesOf]
  induction es using search_induction generalizing index afterSegment o with
  | nil =>
    rw [names_of_finish (search_nil index afterSegment ▸ ho)]
    rfl
  | separator e after hkind ih =>
    rw [show namesOf (e :: after) = namesOf after from hnameless (by rw [hkind]; rfl) _ _]
    exact ih (forall_dropLast_of_cons hlast) ((search_separator_eq_some hkind).mp ho).2
  | wildcard e after hkind ih =>
    rw [show namesOf (e :: after) = namesOf after from hnameless (by rw [hkind]; rfl) _ _]
    rcases (search_wildcard_eq_some hkind).mp ho with ⟨s, -, -, ho⟩ | ⟨-, rfl, hfinish⟩
    · exact ih (forall_dropLast_of_cons hlast) ho
    · rw [names_of_finish hfinish]
      rfl
  | lastSegments e hkind =>
    rw [show namesOf [e] = namesOf [] from hnameless (by rw [hkind]; rfl) _ _]
    rw [search_lastSegments hkind] at ho
    rw [names_of_finish ho]
    rfl
  | segments e next later hkind ihnext ihlater =>
    rw [show namesOf (e :: next :: later) = namesOf (next :: later) from
      hnameless (by rw [hkind]; rfl) _ _]
    have hnext := forall_dropLast_of_cons hlast
    obtain ⟨r, hr, ho⟩ := exists_restart hkind ho
    cases r with
    | atIndex i => exact ihnext hnext ho
    | pastSeparator =>
      -- only a separator is left out, which has no name
      obtain ⟨-, hseparator⟩ : index = 0 ∧ next.kind = .separator := by
        simpa using mem_restarts.mp hr
      rw [show namesOf (next :: later) = namesOf later from
        hnameless (by rw [hseparator]; rfl) _ _]
      exact ihlater (forall_dropLast_of_cons hnext) ho
  | catchAll e after hkind =>
    obtain ⟨-, rfl⟩ := (search_catchAll_eq_some hkind).mp ho
    obtain rfl : after = [] := by
      by_contra hne
      have hfalse := hlast e (by rw [List.dropLast_cons_of_ne_nil hne]; exact List.mem_cons_self)
      simp [hkind] at hfalse
    rw [Query.recorded, if_pos hq, names_restBindings hkind]
    simp [namesOf]
  | takes e after hkind ih =>
    obtain ⟨s, bs, o', -, hbs, ho', rfl⟩ := (search_takes_eq_some hkind).mp ho
    rw [Outcome.prepend, List.map_append, names_of_take?_extract hq hbs,
      ih (forall_dropLast_of_cons hlast) ho']
    rfl

/-! ### Segments -/

/-- **An element that takes one segment records what a segment of the path gives.** -/
theorem exists_segment_of_search {es : List PatternElement} {index : Nat} {afterSegment : Bool}
    {o : Outcome} (hlast : ∀ e ∈ es.dropLast, e.kind.isCatchAll = false)
    (ho : search q es index afterSegment = some o) {e : PatternElement} (he : e ∈ es)
    (htakes : e.kind.takes = true) :
    ∃ i s bs, q.segment? i = some s ∧ q.take? s e.kind = some bs ∧ bs ⊆ o.bindings := by
  have hother : ∀ {e' : PatternElement} {after : List PatternElement}, e ∈ e' :: after →
      e'.kind.takes = false → e ∈ after := by
    intro e' after hmem hfalse
    refine (List.mem_cons.mp hmem).resolve_left fun heq => ?_
    rw [← heq, htakes] at hfalse
    simp at hfalse
  induction es using search_induction generalizing index afterSegment o with
  | nil => simp at he
  | separator e' after hkind ih =>
    exact ih (forall_dropLast_of_cons hlast) ((search_separator_eq_some hkind).mp ho).2
      (hother he (by rw [hkind]; rfl))
  | wildcard e' after hkind ih =>
    have hmem := hother he (by rw [hkind]; rfl)
    rcases (search_wildcard_eq_some hkind).mp ho with ⟨s, -, -, ho⟩ | ⟨-, rfl, -⟩
    · exact ih (forall_dropLast_of_cons hlast) ho hmem
    · simp at hmem
  | lastSegments e' hkind => simpa using hother he (by rw [hkind]; rfl)
  | segments e' next later hkind ihnext ihlater =>
    have hmem := hother he (by rw [hkind]; rfl)
    have hnext := forall_dropLast_of_cons hlast
    obtain ⟨r, hr, ho⟩ := exists_restart hkind ho
    cases r with
    | atIndex i => exact ihnext hnext ho hmem
    | pastSeparator =>
      obtain ⟨-, hseparator⟩ : index = 0 ∧ next.kind = .separator := by
        simpa using mem_restarts.mp hr
      exact ihlater (forall_dropLast_of_cons hnext) ho (hother hmem (by rw [hseparator]; rfl))
  | catchAll e' after hkind =>
    have hmem := hother he (by
      obtain ⟨position, k⟩ := e'
      cases k <;> first | rfl | simp [ElementKind.isCatchAll] at hkind)
    have hne : after ≠ [] := List.ne_nil_of_mem hmem
    have hfalse := hlast e' (by rw [List.dropLast_cons_of_ne_nil hne]; exact List.mem_cons_self)
    simp [hkind] at hfalse
  | takes e' after hkind ih =>
    obtain ⟨s, bs, o', hs, hbs, ho', rfl⟩ := (search_takes_eq_some hkind).mp ho
    rcases List.mem_cons.mp he with rfl | hmem
    · exact ⟨index, s, bs, hs, hbs, List.subset_append_left ..⟩
    · obtain ⟨i, s', bs', hs', hbs', hsub⟩ := ih (forall_dropLast_of_cons hlast) ho' hmem
      exact ⟨i, s', bs', hs', hbs', List.Subset.trans hsub (List.subset_append_right ..)⟩

/-! ### Records -/

/-- In a list of pairs with different keys every key has the value it stands with. -/
theorem lookup_of_mem {β : Type} {l : List (List Char × β)} {name : List Char} {b : β}
    (hnodup : (l.map Prod.fst).Nodup) (h : (name, b) ∈ l) : l.lookup name = some b := by
  obtain ⟨before, after, rfl⟩ := List.append_of_mem h
  rw [List.map_append, List.map_cons, List.nodup_append] at hnodup
  refine List.lookup_eq_some_iff.mpr ⟨before, after, rfl, fun p hp => ?_⟩
  have hne := hnodup.2.2 p.1 (List.mem_map_of_mem hp) name List.mem_cons_self
  simpa using Ne.symm hne

/-- What a binding records among others with different names. -/
theorem lookup_ofBindings {bs : List Binding} (h : (bs.map (·.name)).Nodup) {b : Binding}
    (hb : b ∈ bs) : (MatchInfo.ofBindings bs).get? b.name = some b.value ∧
      (MatchInfo.ofBindings bs).matrices.lookup b.name
        = if b.matrix = [] then none else some b.matrix := by
  rw [ofBindings_eq h, MatchInfo.get?]
  have hmatrices : ((bs.filter (·.matrix ≠ [])).map (·.name)).Nodup :=
    h.sublist (List.filter_sublist.map _)
  refine ⟨lookup_of_mem (by simpa [Function.comp_def] using h) (List.mem_map_of_mem hb), ?_⟩
  split
  · next hnil =>
    -- another binding of this name would be the same one
    refine List.lookup_eq_none_iff.mpr fun p hp => ?_
    obtain ⟨b', hb', rfl⟩ := List.mem_map.mp hp
    obtain ⟨hmem, hne⟩ := List.mem_filter.mp hb'
    have hname : b.name ≠ b'.name := fun heq => by
      rw [List.inj_on_of_nodup_map h hb hmem heq] at hnil
      simp [hnil] at hne
    simpa using hname
  · next hne =>
    refine lookup_of_mem (by simpa [Function.comp_def] using hmatrices) ?_
    exact List.mem_map_of_mem (List.mem_filter.mpr ⟨hb, by simpa using hne⟩)

/-- Whether a record has a value for every capture of a pattern and for nothing else, the captures
of one segment having taken segments of the path. -/
structure MatchInfo.Completes (p : Pattern) (path : Path) (info : MatchInfo) : Prop where
  /-- There is one value for every name, in the order of the pattern. -/
  names : info.values.map Prod.fst = p.names
  /-- No name comes twice. -/
  nodup : p.names.Nodup
  /-- There are as many values as captures. -/
  count : info.values.length = p.captureCount
  /-- Matrix variables belong to one of the names. -/
  matrices : ∀ name ∈ info.matrices.map Prod.fst, name ∈ p.names
  /-- A capture of one segment has a value that is not empty and satisfies the constraint, and the
  matrix variables of the segment, if there are any. -/
  captured : ∀ name constraint, .capture name constraint ∈ p.kinds →
    ∃ s, .segment s ∈ path.elements ∧ s.value ≠ [] ∧
      (∀ c re, constraint = some (c, re) → re.isMatch s.value = true) ∧
      info.get? name = some s.value ∧
      info.matrices.lookup name = if s.matrix = [] then none else some s.matrix

section Patterns

variable {o : PatternOptions} {text : List Char} {p : Pattern} {path : Path}

theorem Pattern.length_names (p : Pattern) : p.names.length = p.captureCount := by
  rw [Pattern.names, Pattern.captureCount, Pattern.total]
  induction p.kinds with
  | nil => rfl
  | cons k ks ih => rw [List.flatMap_cons, List.length_append, ih, List.foldr_cons]; rfl

/-- The segment at an index is an element of the path. -/
theorem mem_of_segment?_query {extract ofStart : Bool} {i : Nat} {s : Segment}
    (h : (p.query path extract ofStart).segment? i = some s) : .segment s ∈ path.elements := by
  obtain ⟨e, he, hs⟩ := Option.bind_eq_some_iff.mp h
  have hmem : e ∈ path.elements := by
    simpa [Pattern.query] using Array.mem_of_getElem? he
  cases e with
  | separator p c => simp [PathElement.segment?] at hs
  | segment s' =>
    obtain rfl := Option.some.inj hs
    exact hmem

/-- A successful search completes the record of the pattern. -/
theorem completes_of_search (h : Pattern.parse o text = .ok p) {ofStart : Bool} {out : Outcome}
    (hout : search (p.query path true ofStart) p.elements 0 false = some out) :
    (MatchInfo.ofBindings out.bindings).Completes p path := by
  have hlast := isCatchAll_dropLast_of_parse h
  have hnodup := nodup_of_search h hout
  have hnames : out.bindings.map (·.name) = p.names :=
    (names_of_search_extract rfl hlast hout).trans (namesOf_elements p)
  have hvalues : (MatchInfo.ofBindings out.bindings).values.map Prod.fst = p.names := by
    rw [ofBindings_eq hnodup, ← hnames, List.map_map]
    rfl
  refine ⟨hvalues, names_nodup_of_parse h, ?_, ?_, ?_⟩
  · rw [← p.length_names, ← hvalues, List.length_map]
  · intro name hname
    rw [ofBindings_eq hnodup, List.map_map] at hname
    obtain ⟨b, hb, rfl⟩ := List.mem_map.mp hname
    rw [← hnames]
    exact List.mem_map_of_mem (List.mem_filter.mp hb).1
  · intro name constraint hk
    obtain ⟨e, he, hkind⟩ := List.mem_map.mp hk
    obtain ⟨i, s, bs, hs, hbs, hsub⟩ :=
      exists_segment_of_search hlast hout he (by rw [hkind]; rfl)
    rw [hkind, Query.take?, Option.ite_none_left_eq_some] at hbs
    obtain ⟨haccepts, hbs⟩ := hbs
    obtain ⟨hvalue, hconstraint⟩ : s.value ≠ [] ∧
        (constraint.any fun x => !x.2.isMatch s.value) = false := by
      simpa using haccepts
    have hmem : ⟨name, s.value, s.matrix⟩ ∈ out.bindings :=
      hsub (by rw [← Option.some.inj hbs]; exact List.mem_singleton_self _)
    refine ⟨s, mem_of_segment?_query hs, hvalue, ?_, lookup_ofBindings hnodup hmem⟩
    rintro c re rfl
    simpa using hconstraint

/-- Without elements nothing is recorded, and there is nothing to record. -/
theorem completes_empty (hnil : p.elements = []) : MatchInfo.empty.Completes p path := by
  have hkinds : p.kinds = [] := by rw [Pattern.kinds, hnil, List.map_nil]
  have hnames : p.names = [] := by rw [Pattern.names, hkinds, List.flatMap_nil]
  refine ⟨hnames.symm, hnames ▸ .nil, ?_, by simp [MatchInfo.empty], by simp [hkinds]⟩
  rw [← p.length_names, hnames]
  rfl

/-- **Matches are complete.**  What a match of a whole path or of its start has recorded has a value
for every capture of the pattern and for nothing else, and captures of one segment have taken
segments of the path that they accept. -/
theorem completes_of_match (h : Pattern.parse o text = .ok p) (path : Path) :
    (∀ info, p.match? path = some info → info.Completes p path) ∧
      ∀ r, p.matchStart? path = some r → r.info.Completes p path := by
  by_cases hne : p.elements = []
  · constructor
    · intro info hinfo
      rw [Pattern.match?, Pattern.matchWith, if_pos (by simpa using hne),
        Option.ite_none_right_eq_some] at hinfo
      rw [← Option.some.inj hinfo.2]
      exact completes_empty hne
    · intro r hr
      rw [Pattern.matchStart?, if_pos (by simpa using hne)] at hr
      rw [← Option.some.inj hr]
      exact completes_empty hne
  · constructor
    · intro info hinfo
      rw [Pattern.match?, matchWith_eq h hne, Option.ite_none_left_eq_some] at hinfo
      obtain ⟨out, hout, rfl⟩ := Option.map_eq_some_iff.mp hinfo.2
      exact completes_of_search h hout
    · intro r hr
      obtain ⟨-, bs, stop, hout, -, -, hinfo⟩ := (matchStart?_eq_some h hne).mp hr
      rw [hinfo]
      exact completes_of_search h hout

/-- A path for which `**` is tried twice in vain, the first time after both captures have been
recorded. -/
theorem completes_of_match_segments : ∃ p path info,
    Pattern.parse .default "/**/{a}/{b:[0-9]+}/c".toList = .ok p ∧
    Path.parse "/x/1/u;k=v/7/c".toList .http = .ok path ∧ p.match? path = some info ∧
    info = ⟨[(['a'], ['u']), (['b'], ['7'])], [(['a'], [(['k'], [['v']])])]⟩ ∧
    info.Completes p path := by
  have hread : ((Pattern.parse .default "/**/{a}/{b:[0-9]+}/c".toList).toOption.bind fun p =>
      (Path.parse "/x/1/u;k=v/7/c".toList .http).toOption.map fun path =>
        (p.elements.isEmpty, path.isEmpty, search (p.query path true false) p.elements 0 false))
      = some (false, false,
          some ⟨[⟨['a'], ['u'], [(['k'], [['v']])]⟩, ⟨['b'], ['7'], []⟩], none⟩) := by
    decide +kernel
  obtain ⟨p, hp, hread⟩ := Option.bind_eq_some_iff.mp hread
  obtain ⟨path, hpath, heq⟩ := Option.map_eq_some_iff.mp hread
  rw [toOption_eq_some] at hp hpath
  simp only [Prod.mk.injEq] at heq
  obtain ⟨hne, hpathne, hsearch⟩ := heq
  have hinfo : p.match? path
      = some ⟨[(['a'], ['u']), (['b'], ['7'])], [(['a'], [(['k'], [['v']])])]⟩ := by
    rw [Pattern.match?, matchWith_eq hp (by simpa using hne), hsearch, hpathne]
    rfl
  exact ⟨p, path, _, hp, hpath, hinfo, rfl, (completes_of_match hp path).1 _ hinfo⟩

end Patterns

end PathRouting
