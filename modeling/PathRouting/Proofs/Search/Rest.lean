import PathRouting.Proofs.Search.Basic

/-!
# Where the rest of a path starts

When the start of a path suffices, the search ends at an index.  A `**` may give back the separator
before it, but the element after it takes that separator again or takes all that is left, so the
search never ends before the index it began at.

## Main definitions

* `Query.EndsAt` — what an index has to be for a search to end there.
* `Query.RestAt` — how that index stands to the one where the search began.

## Main results

* `restAt_of_search` — the search ends at such an index.
* `kinds_of_search_zero` — elements that take nothing of a path are pairs of a `**` and a separator.
-/

namespace PathRouting

variable {q : Query}

/-- An index where the elements `es` may end. -/
structure Query.EndsAt (q : Query) (es : List PatternElement) (stop : Nat) : Prop where
  /-- The rest is a part of the path. -/
  le : stop ≤ q.length
  /-- The rest is empty or starts with a separator. -/
  ends : stop = q.length ∨ q.isSeparator stop = true
  /-- A last `*` has taken a segment, or nothing is left. -/
  wildcard : ∀ e, [e] <:+ es → e.kind = .wildcard →
    stop = q.length ∨ q.isSeparator (stop - 1) = false

/-- An index where the elements `es` may end that began at `index`. -/
structure Query.RestAt (q : Query) (es : List PatternElement) (index stop : Nat) : Prop
    extends q.EndsAt es stop where
  /-- Nothing before the beginning is given back. -/
  ge : index ≤ stop
  /-- An element that matches only at a separator takes that separator or all that is left. -/
  past : ∀ e ∈ es.head?, e.kind.startsAtSeparator = true → index < stop ∨ stop = q.length

/-- An element alone at the end of a list of two or more is alone at the end of its tail. -/
theorem singleton_suffix_cons {e e' : PatternElement} {after : List PatternElement}
    (h : [e'] <:+ e :: after) : (e' = e ∧ after = []) ∨ [e'] <:+ after := by
  rcases List.suffix_cons_iff.mp h with heq | hsuffix
  · obtain ⟨rfl, rfl⟩ := List.cons.inj heq
    exact .inl ⟨rfl, rfl⟩
  · exact .inr hsuffix

theorem Query.EndsAt.tail {e : PatternElement} {after : List PatternElement} {stop : Nat}
    (h : q.EndsAt (e :: after) stop) : q.EndsAt after stop where
  le := h.le
  ends := h.ends
  wildcard := fun e' hsuffix => h.wildcard e' (hsuffix.trans (List.suffix_cons e after))

namespace Query.RestAt

variable {e : PatternElement} {after : List PatternElement} {index stop : Nat}

/-- All of the path may be taken. -/
theorem length (es : List PatternElement) (h : index ≤ q.length) :
    q.RestAt es index q.length where
  ge := h
  le := Nat.le_refl _
  past := fun _ _ _ => .inr rfl
  ends := .inl rfl
  wildcard := fun _ _ _ => .inl rfl

/-- One element more has taken what stands at `index`. -/
theorem cons (h : q.RestAt after (index + 1) stop)
    (he : e.kind = .wildcard → after = [] → stop = q.length ∨ q.isSeparator (stop - 1) = false) :
    q.RestAt (e :: after) index stop where
  ge := Nat.le_of_succ_le h.ge
  le := h.le
  past := fun _ _ _ => .inl h.ge
  ends := h.ends
  wildcard := fun e' hsuffix hkind => by
    rcases singleton_suffix_cons hsuffix with ⟨rfl, rfl⟩ | hsuffix
    · exact he hkind rfl
    · exact h.wildcard e' hsuffix hkind

/-- A `**` has gone on to `k`, which is not before the separator in front of it. -/
theorem segments {next : PatternElement} {later : List PatternElement} {k : Nat}
    (h : q.RestAt (next :: later) k stop) (he : e.kind = .segments)
    (hnext : next.kind.startsAtSeparator = true) (hindex : index ≤ q.length) (hk : index ≤ k + 1) :
    q.RestAt (e :: next :: later) index stop where
  ge := by
    rcases h.past next rfl hnext with hlt | rfl
    · omega
    · exact hindex
  le := h.le
  past := by simp [he, ElementKind.startsAtSeparator]
  ends := h.ends
  wildcard := fun e' hsuffix hkind => by
    rcases singleton_suffix_cons hsuffix with ⟨-, hnil⟩ | hsuffix
    · simp at hnil
    · exact h.wildcard e' hsuffix hkind

/-- A `**` at the front has skipped the separator after it. -/
theorem pastSeparator {next : PatternElement} {later : List PatternElement}
    (h : q.RestAt later 0 stop) (he : e.kind = .segments) (hnext : next.kind = .separator) :
    q.RestAt (e :: next :: later) 0 stop where
  ge := h.ge
  le := h.le
  past := by simp [he, ElementKind.startsAtSeparator]
  ends := h.ends
  wildcard := fun e' hsuffix hkind => by
    rcases singleton_suffix_cons hsuffix with ⟨-, hnil⟩ | hsuffix
    · simp at hnil
    rcases singleton_suffix_cons hsuffix with ⟨rfl, -⟩ | hsuffix
    · simp [hnext] at hkind
    · exact h.wildcard e' hsuffix hkind

end Query.RestAt

/-- **The search ends no earlier than it begins.**  It ends at a separator or at the end of the
path. -/
theorem restAt_of_search (hq : q.ofStart = true) {es : List PatternElement} (hes : Adjoining es)
    {index : Nat} (hindex : index ≤ q.length) {afterSegment : Bool} {o : Outcome}
    (ho : search q es index afterSegment = some o) :
    ∃ stop, o.restIndex = some stop ∧ q.RestAt es index stop := by
  induction es using search_induction generalizing index afterSegment o with
  | nil =>
    rw [search_nil, Query.finish_ofStart hq] at ho
    obtain ⟨hend, rfl⟩ := ho
    exact ⟨index, rfl, ⟨hindex, (Nat.eq_or_lt_of_le hindex).imp_right hend, by simp⟩,
      Nat.le_refl _, by simp⟩
  | separator e after hkind ih =>
    obtain ⟨hsep, ho⟩ := (search_separator_eq_some hkind).mp ho
    obtain ⟨stop, hstop, hrest⟩ := ih hes.tail (Query.lt_of_isSeparator hsep) ho
    exact ⟨stop, hstop, hrest.cons fun hw => by simp [hkind] at hw⟩
  | wildcard e after hkind ih =>
    rcases (search_wildcard_eq_some hkind).mp ho with ⟨s, hs, -, ho⟩ | ⟨hge, rfl, hend⟩
    · obtain ⟨stop, hstop, hrest⟩ := ih hes.tail (Query.lt_of_segment? hs) ho
      refine ⟨stop, hstop, hrest.cons fun _ hnil => .inr ?_⟩
      -- a last `*` ends just after its segment
      rw [hnil, search_nil, Query.finish_ofStart hq] at ho
      obtain ⟨-, rfl⟩ := ho
      obtain rfl : index + 1 = stop := Option.some.inj hstop
      exact Query.isSeparator_of_segment? hs
    · obtain rfl : index = q.length := Nat.le_antisymm hindex hge
      obtain ⟨-, rfl⟩ := (Query.finish_ofStart hq).mp hend
      exact ⟨_, rfl, .length _ hindex⟩
  | lastSegments e hkind =>
    rw [search_lastSegments hkind, Query.finish_ofStart hq] at ho
    obtain ⟨-, rfl⟩ := ho
    exact ⟨_, rfl, .length _ hindex⟩
  | segments e next later hkind ihnext ihlater =>
    have hnext : next.kind.startsAtSeparator = true :=
      hes.startsAtSeparator (by simp [hkind]) next rfl
    obtain ⟨r, hr, ho⟩ := exists_restart hkind ho
    rcases mem_restarts.mp hr with ⟨k, hge, hle, rfl⟩ | ⟨hpos, hsep, rfl⟩ | ⟨rfl, hsep, rfl⟩
    · obtain ⟨stop, hstop, hrest⟩ := ihnext hes.tail hle ho
      exact ⟨stop, hstop, hrest.segments hkind hnext hindex (Nat.le_succ_of_le hge)⟩
    · obtain ⟨stop, hstop, hrest⟩ := ihnext hes.tail (by omega) ho
      exact ⟨stop, hstop, hrest.segments hkind hnext hindex (by omega)⟩
    · obtain ⟨stop, hstop, hrest⟩ := ihlater hes.tail.tail hindex ho
      exact ⟨stop, hstop, hrest.pastSeparator hkind hsep⟩
  | catchAll e after hkind =>
    obtain ⟨-, rfl⟩ := (search_catchAll_eq_some hkind).mp ho
    exact ⟨_, if_pos hq, .length _ hindex⟩
  | takes e after hkind ih =>
    obtain ⟨s, bs, o', hs, -, ho', rfl⟩ := (search_takes_eq_some hkind).mp ho
    obtain ⟨stop, hstop, hrest⟩ := ih hes.tail (Query.lt_of_segment? hs) ho'
    exact ⟨stop, hstop, hrest.cons fun hw => by simp [hw, ElementKind.takes] at hkind⟩

/-- An index where the search ends is one where the elements may end. -/
theorem restAt_of_restIndex (hq : q.ofStart = true) {es : List PatternElement} (hes : Adjoining es)
    {index stop : Nat} (hindex : index ≤ q.length) {afterSegment : Bool} {o : Outcome}
    (ho : search q es index afterSegment = some o) (hstop : o.restIndex = some stop) :
    q.RestAt es index stop := by
  obtain ⟨stop', hstop', hrest⟩ := restAt_of_search hq hes hindex ho
  obtain rfl : stop' = stop := Option.some.inj (hstop'.symm.trans hstop)
  exact hrest

/-- Elements that take nothing of a path that has elements are pairs of a `**` and a separator. -/
theorem kinds_of_search_zero (hq : q.ofStart = true) (hpos : 0 < q.length)
    {es : List PatternElement} (hes : Adjoining es) {afterSegment : Bool} {o : Outcome}
    (ho : search q es 0 afterSegment = some o) (hzero : o.restIndex = some 0) :
    ∃ n, es.map (·.kind) = (List.replicate n [.segments, .separator]).flatten := by
  -- whatever ends later than it begins is excluded
  have hlate : ∀ {es index afterSegment}, Adjoining es → index ≤ q.length →
      search q es index afterSegment = some o → q.RestAt es index 0 :=
    fun hes hindex ho => restAt_of_restIndex hq hes hindex ho hzero
  induction es using search_induction generalizing afterSegment with
  | nil => exact ⟨0, rfl⟩
  | separator e after hkind ih =>
    obtain ⟨-, ho⟩ := (search_separator_eq_some hkind).mp ho
    have := (hlate hes.tail hpos ho).ge
    omega
  | wildcard e after hkind ih =>
    rcases (search_wildcard_eq_some hkind).mp ho with ⟨s, -, -, ho⟩ | ⟨hge, -, -⟩
    · have := (hlate hes.tail hpos ho).ge
      omega
    · omega
  | lastSegments e hkind =>
    rw [search_lastSegments hkind, Query.finish_ofStart hq] at ho
    obtain ⟨-, rfl⟩ := ho
    have := Option.some.inj hzero
    omega
  | segments e next later hkind ihnext ihlater =>
    have hnext : next.kind.startsAtSeparator = true :=
      hes.startsAtSeparator (by simp [hkind]) next rfl
    obtain ⟨r, hr, hor⟩ := exists_restart hkind ho
    rcases mem_restarts.mp hr with ⟨k, -, hle, rfl⟩ | ⟨hlt, -, -⟩ | ⟨-, hsep, rfl⟩
    · have := (hlate hes.tail hle hor).past next rfl hnext
      omega
    · omega
    · obtain ⟨n, hn⟩ := ihlater hes.tail.tail hor
      exact ⟨n + 1, by simp [hkind, hsep, hn, List.replicate_succ]⟩
  | catchAll e after hkind =>
    obtain ⟨-, rfl⟩ := (search_catchAll_eq_some hkind).mp ho
    simp [hq] at hzero
    omega
  | takes e after hkind ih =>
    obtain ⟨s, bs, o', hs, -, ho', rfl⟩ := (search_takes_eq_some hkind).mp ho
    have := (restAt_of_restIndex hq hes.tail (Query.lt_of_segment? hs) ho' hzero).ge
    omega

end PathRouting
