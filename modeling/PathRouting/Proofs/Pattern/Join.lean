import PathRouting.Proofs.Pattern.StartMatch
import PathRouting.Proofs.Search.Offset

/-!
# Matching with one pattern after another

A pattern whose elements are those of two patterns matches a path when the first matches the start
of it and the second matches the rest, and it records what both record.

## Main definitions

* `MatchInfo.union` — what two matches record.
* `Joins` — the elements of a pattern are those of two patterns.

## Main results

* `match?_eq_search` — a pattern that starts with the separator asks the search about any path.
* `Joins.match?_eq` — matching with the elements of two patterns.
* `Joins.disjoint` — the two do not record the same names.
-/

namespace PathRouting

/-- What two matches record, one after the other. -/
def MatchInfo.union (first second : MatchInfo) : MatchInfo :=
  ⟨first.values ++ second.values, first.matrices ++ second.matrices⟩

/-- Whether two matches record different names. -/
def MatchInfo.Disjoint (first second : MatchInfo) : Prop :=
  (first.values.map Prod.fst).Disjoint (second.values.map Prod.fst) ∧
    (first.matrices.map Prod.fst).Disjoint (second.matrices.map Prod.fst)

theorem union_ofBindings {bs bs' : List Binding} (h : ((bs ++ bs').map (·.name)).Nodup) :
    MatchInfo.ofBindings (bs ++ bs') = (MatchInfo.ofBindings bs).union (.ofBindings bs') := by
  have hparts := h
  rw [List.map_append, List.nodup_append] at hparts
  rw [ofBindings_eq h, ofBindings_eq hparts.1, ofBindings_eq hparts.2.1]
  simp [MatchInfo.union]

theorem disjoint_ofBindings {bs bs' : List Binding} (h : ((bs ++ bs').map (·.name)).Nodup) :
    (MatchInfo.ofBindings bs).Disjoint (.ofBindings bs') := by
  rw [List.map_append, List.nodup_append] at h
  obtain ⟨hbs, hbs', hapart⟩ := h
  have hnames : ∀ b ∈ bs, ∀ b' ∈ bs', b.name ≠ b'.name := fun b hb b' hb' =>
    hapart _ (List.mem_map_of_mem hb) _ (List.mem_map_of_mem hb')
  rw [ofBindings_eq hbs, ofBindings_eq hbs']
  constructor
  · intro n hn hn'
    simp only [List.map_map, List.mem_map, Function.comp_apply] at hn hn'
    obtain ⟨b, hb, rfl⟩ := hn
    obtain ⟨b', hb', heq⟩ := hn'
    exact hnames b hb b' hb' heq.symm
  · intro n hn hn'
    simp only [List.map_map, List.mem_map, List.mem_filter, Function.comp_apply] at hn hn'
    obtain ⟨b, ⟨hb, -⟩, rfl⟩ := hn
    obtain ⟨b', ⟨hb', -⟩, heq⟩ := hn'
    exact hnames b hb b' hb' heq.symm

/-! ### The part of a path that is taken -/

section TakeAll

variable {q q' : Query} {es : List PatternElement} {index : Nat} {bs : List Binding}

theorem takeAll_congr (helements : q.elements = q'.elements) (hextract : q.extract = q'.extract)
    (es : List PatternElement) (index : Nat) : q.takeAll es index = q'.takeAll es index := by
  obtain ⟨elements, trailing, extract, ofStart⟩ := q
  obtain ⟨elements', trailing', extract', ofStart'⟩ := q'
  obtain rfl : elements = elements' := helements
  obtain rfl : extract = extract' := hextract
  have htake : ∀ s k, Query.take? ⟨elements, trailing, extract, ofStart⟩ s k
      = Query.take? ⟨elements, trailing', extract, ofStart'⟩ s k := by
    intro s k
    cases k <;> rfl
  have htakeAt : ∀ k i, Query.takeAt ⟨elements, trailing, extract, ofStart⟩ k i
      = Query.takeAt ⟨elements, trailing', extract, ofStart'⟩ k i := by
    intro k i
    simp only [Query.takeAt, htake]
    rfl
  induction es generalizing index with
  | nil => rfl
  | cons e after ih => rw [Query.takeAll, Query.takeAll, htakeAt, ih]

/-- What is taken of a path does not depend on the pattern that asks, nor on how the path may
end. -/
theorem takeAll_query (p c : Pattern) (path : Path) (ofStart ofStart' : Bool)
    (es : List PatternElement) (index : Nat) :
    (p.query path true ofStart).takeAll es index = (c.query path true ofStart').takeAll es index :=
  takeAll_congr (by rfl) (by rfl) es index

theorem lt_of_takeAt {k : ElementKind} (h : q.takeAt k index = some bs) : index < q.length := by
  rw [Query.takeAt] at h
  split at h
  · exact Query.lt_of_isSeparator (Option.ite_none_right_eq_some.mp h).1
  · obtain ⟨s, hs, -⟩ := Option.bind_eq_some_iff.mp h
    exact Query.lt_of_segment? hs

/-- What is taken is a part of the path. -/
theorem le_of_takeAll (h : q.takeAll es index = some bs) (hindex : index ≤ q.length) :
    index + es.length ≤ q.length := by
  induction es generalizing index bs with
  | nil => exact hindex
  | cons e after ih =>
    obtain ⟨bs₁, hbs₁, h⟩ := Option.bind_eq_some_iff.mp h
    obtain ⟨bs₂, hbs₂, -⟩ := Option.map_eq_some_iff.mp h
    have := ih hbs₂ (lt_of_takeAt hbs₁)
    rw [List.length_cons]
    omega

/-- Elements that start at a separator match only there or at the end of the path. -/
theorem isSeparator_of_search (hes : es ≠ [])
    (hhead : ∀ e ∈ es.head?, e.kind.startsAtSeparator = true) {afterSegment : Bool} {o : Outcome}
    (ho : search q es index afterSegment = some o) :
    index < q.length → q.isSeparator index = true := by
  rcases es with _ | ⟨e, after⟩
  · exact absurd rfl hes
  have he := hhead e rfl
  rcases e.kind.cases_search with h | h | h | h | h
  · exact fun _ => ((search_separator_eq_some h).mp ho).1
  · simp [h, ElementKind.startsAtSeparator] at he
  · simp [h, ElementKind.startsAtSeparator] at he
  · exact ((search_catchAll_eq_some h).mp ho).1
  · generalize e.kind = k at he h
    cases k <;> simp [ElementKind.startsAtSeparator, ElementKind.takes] at he h

end TakeAll

/-! ### Patterns -/

section Patterns

variable {o : PatternOptions} {text text' text'' : List Char} {p p' c : Pattern} {path : Path}

/-- A pattern that starts with the separator asks the search about any path, the empty one too. -/
theorem match?_eq_search (h : Pattern.parse o text = .ok p) (hne : p.elements ≠ [])
    (hhead : ∀ e ∈ p.elements.head?, e.kind.startsAtSeparator = true) (path : Path) :
    p.match? path = (search (p.query path true false) p.elements 0 false).map fun o =>
      .ofBindings o.bindings := by
  rw [Pattern.match?, matchWith_eq h hne]
  split
  · next hguard =>
    simp only [Path.isEmpty, Bool.and_eq_true, List.isEmpty_iff, Bool.not_eq_true'] at hguard
    obtain ⟨hempty, hcannot⟩ := hguard
    rcases helements : p.elements with _ | ⟨e, after⟩
    · exact absurd helements hne
    -- elements that take the rest are let through, and a separator fails
    have hsep : e.kind = .separator := by
      have he := hhead e (by rw [helements]; rfl)
      rw [Pattern.canMatchEmpty, Pattern.kinds, helements, List.map_cons] at hcannot
      generalize e.kind = k at he hcannot
      cases k <;> simp [ElementKind.startsAtSeparator, ElementKind.isCatchAll] at he hcannot ⊢
    have hnone : (p.query path true false).isSeparator 0 = false := by
      simp [Query.isSeparator, Pattern.query, hempty]
    rw [search_separator hsep, hnone]
    rfl
  · rfl

/-- The elements of `c` are those of `p`, each of which matches one element of a path, and those of
`p'` after them, which start at a separator. -/
structure Joins (o : PatternOptions) (p p' c : Pattern) : Prop where
  /-- The first pattern is read from a text. -/
  first : Pattern.parse o p.text = .ok p
  /-- The second pattern is read from a text. -/
  second : Pattern.parse o p'.text = .ok p'
  /-- So is the whole. -/
  whole : Pattern.parse o c.text = .ok c
  /-- The whole has the elements of both. -/
  kinds : c.kinds = p.kinds ++ p'.kinds
  /-- The first pattern has elements. -/
  ne : p.elements ≠ []
  /-- Each of them matches one element of a path. -/
  fixed : ∀ e ∈ p.elements, e.kind.fixed = true
  /-- The second pattern has elements. -/
  ne' : p'.elements ≠ []
  /-- They start at a separator. -/
  starts : ∀ e ∈ p'.elements.head?, e.kind.startsAtSeparator = true

namespace Joins

/-- The search for the whole is one for the first pattern and one for the second. -/
theorem search_eq (h : Joins o p p' c) (q : Query) : search q c.elements 0 false
    = (q.takeAll p.elements 0).bind fun bs =>
        (search q p'.elements p.elements.length false).map (·.prepend bs) := by
  have hkinds : c.elements.map (·.kind) = (p.elements ++ p'.elements).map (·.kind) := by
    rw [List.map_append]
    exact h.kinds
  have hflag : ∀ index f g,
      search q p'.elements index f = search q p'.elements index g := by
    rcases helements : p'.elements with _ | ⟨e, after⟩
    · exact absurd helements h.ne'
    · exact search_cons_flag q e after
  rw [search_congr hkinds, search_fixed_append h.fixed hflag, Nat.zero_add]

/-- What the first pattern matches at the start of a path. -/
theorem matchStart?_eq_some (h : Joins o p p' c) {r : StartMatch} :
    p.matchStart? path = some r ↔ ∃ bs,
      (p.query path true true).takeAll p.elements 0 = some bs ∧
      (p.elements.length < path.length →
        (p.query path true true).isSeparator p.elements.length = true) ∧
      path.subPath 0 p.elements.length = .ok r.matched ∧
      path.subPathFrom p.elements.length = .ok r.remaining ∧ r.info = .ofBindings bs := by
  have hq : (p.query path true true).ofStart = true := rfl
  have hflag : ∀ index f g, search (p.query path true true) [] index f
      = search (p.query path true true) [] index g := fun index f g => by
    rw [search_nil, search_nil]
    rfl
  have hsearch := search_fixed_append h.fixed hflag 0 false
  rw [List.append_nil, Nat.zero_add, search_nil] at hsearch
  rw [PathRouting.matchStart?_eq_some h.first h.ne, hsearch]
  simp only [Option.bind_eq_some_iff, Option.map_eq_some_iff, Query.finish_ofStart hq,
    length_query]
  constructor
  · rintro ⟨-, bs, stop, ⟨bs', hbs', o', ⟨hsep, rfl⟩, heq⟩, hmatched, hremaining, hinfo⟩
    simp only [Outcome.prepend, List.append_nil, Outcome.mk.injEq, Option.some.injEq] at heq
    obtain ⟨rfl, rfl⟩ := heq
    exact ⟨bs', hbs', hsep, hmatched, hremaining, hinfo⟩
  · rintro ⟨bs, hbs, hsep, hmatched, hremaining, hinfo⟩
    refine ⟨?_, bs, _, ⟨bs, hbs, _, ⟨hsep, rfl⟩, by simp [Outcome.prepend]⟩, hmatched,
      hremaining, hinfo⟩
    intro hnil
    have hle := le_of_takeAll hbs (Nat.zero_le _)
    have hpos := List.length_pos_iff.mpr h.ne
    rw [length_query, Path.length, hnil, List.length_nil] at hle
    omega

/-- What the second pattern matches of the rest is searched for from where the rest starts. -/
theorem match?_remaining (h : Joins o p p' c) {remaining : Path}
    (hremaining : path.subPathFrom p.elements.length = .ok remaining) :
    p'.match? remaining
      = (search (c.query path true false) p'.elements p.elements.length false).map fun o =>
          .ofBindings o.bindings := by
  obtain ⟨hle, -, helements, -⟩ := Path.subPath_ok hremaining
  have hquery : p'.query remaining true false
      = (c.query path true false).startingAt p.elements.length := by
    simp [Pattern.query, Query.startingAt, helements, Path.length, (text_of_parse h.second).2,
      (text_of_parse h.whole).2, List.take_of_length_le]
  have hfront : ∀ e ∈ p'.elements.head?, e.kind = .segments → 0 < 0 := by
    intro e he hkind
    have hstarts := h.starts e he
    simp [hkind, ElementKind.startsAtSeparator] at hstarts
  rw [match?_eq_search h.second h.ne' h.starts, hquery, search_startingAt rfl (by simpa using hle)
    (adjoining_of_parse h.second) hfront, Nat.add_zero]

/-- What the whole matches is searched for with the elements of both. -/
theorem match?_whole (h : Joins o p p' c) (path : Path) : c.match? path
    = ((c.query path true false).takeAll p.elements 0).bind fun bs =>
        (search (c.query path true false) p'.elements p.elements.length false).map fun o =>
          .ofBindings (bs ++ o.bindings) := by
  have hne : c.elements ≠ [] := by
    intro hnil
    have hkinds := h.kinds
    rw [Pattern.kinds, hnil, List.map_nil, eq_comm, List.append_eq_nil_iff] at hkinds
    exact h.ne (List.map_eq_nil_iff.mp hkinds.1)
  rw [Pattern.match?, matchWith_eq h.whole hne]
  split
  · next hguard =>
    -- the elements of the first pattern take something, so they refuse the empty path as well
    simp only [Path.isEmpty, Bool.and_eq_true, List.isEmpty_iff] at hguard
    have hnone : (c.query path true false).takeAll p.elements 0 = none := by
      refine Option.eq_none_iff_forall_ne_some.mpr fun bs hbs => ?_
      have hle := le_of_takeAll hbs (Nat.zero_le _)
      have hpos := List.length_pos_iff.mpr h.ne
      rw [length_query, Path.length, hguard.1, List.length_nil] at hle
      omega
    rw [hnone, Option.bind_none]
  · rw [h.search_eq, Option.map_bind]
    congr 1
    funext bs
    rw [Function.comp_apply, Option.map_map]
    rfl

/-- What the two searches record differs in all names. -/
theorem nodup (h : Joins o p p' c) {q : Query} {bs : List Binding} {out : Outcome}
    (hbs : q.takeAll p.elements 0 = some bs)
    (hout : search q p'.elements p.elements.length false = some out) :
    ((bs ++ out.bindings).map (·.name)).Nodup := by
  have hsearch := h.search_eq q
  rw [hbs, hout] at hsearch
  exact nodup_of_search h.whole hsearch

/-- **A pattern with the elements of two patterns** matches a path when the first of them matches
the start of the path and the second one the rest, and it records what both record. -/
theorem match?_eq (h : Joins o p p' c) (path : Path) : c.match? path
    = (p.matchStart? path).bind fun r => (p'.match? r.remaining).map r.info.union := by
  have htakeAll : (p.query path true true).takeAll p.elements 0
      = (c.query path true false).takeAll p.elements 0 := takeAll_query p c path true false _ _
  rw [h.match?_whole]
  rcases htake : (c.query path true false).takeAll p.elements 0 with _ | bs
  · have hnone : p.matchStart? path = none := by
      refine Option.eq_none_iff_forall_ne_some.mpr fun r hr => ?_
      obtain ⟨bs, hbs, -⟩ := h.matchStart?_eq_some.mp hr
      simp [htakeAll, htake] at hbs
    rw [hnone, Option.bind_none, Option.bind_none]
  rw [Option.bind_some]
  have hle : p.elements.length ≤ path.length := by
    simpa using le_of_takeAll htake (Nat.zero_le _)
  by_cases hsep : p.elements.length < path.length →
      (p.query path true true).isSeparator p.elements.length = true
  · obtain ⟨matched, hmatched⟩ := Path.exists_subPath (Nat.zero_le _) hle
    obtain ⟨remaining, hremaining⟩ := Path.exists_subPath hle (Nat.le_refl path.length)
    have hr : p.matchStart? path = some ⟨matched, remaining, .ofBindings bs⟩ :=
      h.matchStart?_eq_some.mpr ⟨bs, htakeAll.trans htake, hsep, hmatched, hremaining, rfl⟩
    rw [hr, Option.bind_some, h.match?_remaining hremaining]
    rcases hout : search (c.query path true false) p'.elements p.elements.length false
      with _ | out
    · rfl
    · rw [Option.map_some, Option.map_some, Option.map_some,
        union_ofBindings (h.nodup htake hout)]
  · -- what starts at a separator fails where the start of the path may not end
    have hnone : p.matchStart? path = none := by
      refine Option.eq_none_iff_forall_ne_some.mpr fun r hr => hsep ?_
      obtain ⟨-, -, hsep', -⟩ := h.matchStart?_eq_some.mp hr
      exact hsep'
    have hout : search (c.query path true false) p'.elements p.elements.length false = none := by
      refine Option.eq_none_iff_forall_ne_some.mpr fun out hout => hsep ?_
      intro hlt
      have hsep' := isSeparator_of_search h.ne' h.starts hout (by simpa using hlt)
      exact hsep'
    rw [hnone, hout, Option.map_none, Option.bind_none]

/-- The two patterns do not record the same names. -/
theorem disjoint (h : Joins o p p' c) {r : StartMatch} {info : MatchInfo}
    (hr : p.matchStart? path = some r) (hinfo : p'.match? r.remaining = some info) :
    r.info.Disjoint info := by
  obtain ⟨bs, hbs, -, -, hremaining, hrinfo⟩ := h.matchStart?_eq_some.mp hr
  rw [h.match?_remaining hremaining, Option.map_eq_some_iff] at hinfo
  obtain ⟨out, hout, rfl⟩ := hinfo
  rw [hrinfo]
  exact disjoint_ofBindings (h.nodup ((takeAll_query c p path false true _ _).trans hbs) hout)

end Joins

end Patterns

end PathRouting
