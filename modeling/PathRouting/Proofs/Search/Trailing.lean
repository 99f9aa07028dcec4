import PathRouting.Proofs.Search.Cut

/-!
# One separator more

Where a trailing separator is optional, a path may have one separator more than the elements take,
if the last of them has taken a segment.  What this adds to the matches is the matches of the path
without that separator; a `*` at the end that has taken nothing, a `**` and an element that takes
all that is left add nothing, because they have taken the separator already or would have.

## Main definitions

* `Query.trailing` — the same question, a trailing separator optional or not.
* `ElementKind.takesSegment`, `endsInSegment` — whether the last element takes a segment.
* `Query.Spare` — a path that ends with a segment and a separator.

## Main results

* `search_trailing` — what an optional trailing separator adds to the matches.
-/

namespace PathRouting

variable {q : Query} {e : PatternElement} {es : List PatternElement} {index : Nat}
  {afterSegment : Bool}

/-- The same question, a separator after the last segment being optional or not. -/
def Query.trailing (q : Query) (optional : Bool) : Query :=
  { q with optionalTrailingSeparator := optional }

/-- Whether the element takes a segment.  A `*` at the end may also take nothing. -/
def ElementKind.takesSegment : ElementKind → Bool
  | wildcard => true
  | k => k.takes

theorem ElementKind.takesSegment_of_takes {k : ElementKind} (h : k.takes = true) :
    k.takesSegment = true := by
  cases k <;> first | exact h | simp [takes] at h

/-- Whether the last of the elements takes a segment; `afterSegment` if the element before them
does. -/
def endsInSegment : List PatternElement → Bool → Bool
  | [], afterSegment => afterSegment
  | e :: after, _ => endsInSegment after e.kind.takesSegment

/-- What counts is the last element, if there is one. -/
theorem endsInSegment_eq (es : List PatternElement) (afterSegment : Bool) :
    endsInSegment es afterSegment = (es.getLast?.elim afterSegment fun e => e.kind.takesSegment) := by
  induction es generalizing afterSegment with
  | nil => rfl
  | cons e after ih =>
    rw [endsInSegment, ih]
    cases after with
    | nil => rfl
    | cons e' later => rw [List.getLast?_cons_cons, List.getLast?_cons]; rfl

/-- A path that ends with a segment and a separator. -/
structure Query.Spare (q : Query) : Prop where
  /-- The last element is a separator. -/
  separator : q.isSeparator (q.length - 1) = true
  /-- The element before it is a segment. -/
  segment : ∃ s, q.segment? (q.length - 2) = some s

namespace Query.Spare

theorem pos (h : q.Spare) : 0 < q.length :=
  Nat.zero_lt_of_lt (lt_of_isSeparator h.separator)

/-- Before the last separator there is no other. -/
theorem isSeparator_eq_false (h : q.Spare) : q.isSeparator (q.length - 2) = false := by
  obtain ⟨s, hs⟩ := h.segment
  exact isSeparator_of_segment? hs

theorem one_lt (h : q.Spare) : 1 < q.length := by
  have hpos := h.pos
  by_contra hle
  have hlast := h.separator
  rw [show q.length - 1 = q.length - 2 by omega, h.isSeparator_eq_false] at hlast
  simp at hlast

end Query.Spare

/-! ### The question with and without the option -/

section

variable (q : Query) (optional : Bool) (index : Nat)

@[simp] theorem length_trailing : (q.trailing optional).length = q.length := rfl

@[simp] theorem isSeparator_trailing :
    (q.trailing optional).isSeparator index = q.isSeparator index := rfl

@[simp] theorem segment?_trailing :
    (q.trailing optional).segment? index = q.segment? index := rfl

@[simp] theorem restarts_trailing (next : PatternElement) :
    restarts (q.trailing optional) index next = restarts q index next := rfl

@[simp] theorem take?_trailing (s : Segment) (k : ElementKind) :
    (q.trailing optional).take? s k = q.take? s k := by
  cases k <;> rfl

end

/-- Without the option the elements end where the path ends. -/
theorem finish_trailing_false (hq : q.ofStart = false) {o : Outcome} :
    (q.trailing false).finish index afterSegment = some o ↔ index = q.length ∧ o = ⟨[], none⟩ := by
  rw [Query.finish_whole (by exact hq)]
  simp [Query.trailing, Query.length]

/-- With the option they may end before a last separator, after a segment. -/
theorem finish_trailing_true (hq : q.ofStart = false) {o : Outcome} :
    (q.trailing true).finish index afterSegment = some o ↔
      (index = q.length ∨
        afterSegment = true ∧ index + 1 = q.length ∧ q.isSeparator index = true) ∧
      o = ⟨[], none⟩ := by
  rw [Query.finish_whole (by exact hq)]
  simp [Query.trailing, Query.length, Query.isSeparator]

/-! ### What the option adds -/

/-- What matches a whole path also matches it where a trailing separator is optional. -/
theorem search_trailing_true (hq : q.ofStart = false) {o : Outcome}
    (ho : search (q.trailing false) es index afterSegment = some o) :
    ∃ o', search (q.trailing true) es index afterSegment = some o' := by
  have hfinish : ∀ {index afterSegment o}, (q.trailing false).finish index afterSegment = some o →
      (q.trailing true).finish index afterSegment = some o := fun h =>
    (finish_trailing_true hq).mpr (((finish_trailing_false hq).mp h).imp_left .inl)
  induction es using search_induction generalizing index afterSegment o with
  | nil =>
    rw [search_nil] at ho
    exact ⟨o, (search_nil index afterSegment).trans (hfinish ho)⟩
  | separator e after hkind ih =>
    obtain ⟨hsep, ho⟩ := (search_separator_eq_some hkind).mp ho
    obtain ⟨o', ho'⟩ := ih ho
    exact ⟨o', (search_separator_eq_some hkind).mpr ⟨hsep, ho'⟩⟩
  | wildcard e after hkind ih =>
    rcases (search_wildcard_eq_some hkind).mp ho with ⟨s, hs, hvalue, ho⟩ | ⟨hge, hnil, hfin⟩
    · obtain ⟨o', ho'⟩ := ih ho
      exact ⟨o', (search_wildcard_eq_some hkind).mpr (.inl ⟨s, hs, hvalue, ho'⟩)⟩
    · exact ⟨o, (search_wildcard_eq_some hkind).mpr (.inr ⟨hge, hnil, hfinish hfin⟩)⟩
  | lastSegments e hkind =>
    rw [search_lastSegments hkind] at ho
    exact ⟨o, (search_lastSegments hkind index afterSegment).trans (hfinish ho)⟩
  | segments e next later hkind ihnext ihlater =>
    obtain ⟨r, hr, ho⟩ := exists_restart hkind ho
    have hattempt : ∃ o', attempt (q.trailing true) next later r = some o' := by
      cases r with
      | atIndex i => exact ihnext ho
      | pastSeparator => exact ihlater ho
    exact exists_search_of_restart hkind hr hattempt
  | catchAll e after hkind =>
    obtain ⟨hsep, -⟩ := (search_catchAll_eq_some hkind).mp ho
    exact ⟨_, (search_catchAll_eq_some hkind).mpr ⟨hsep, rfl⟩⟩
  | takes e after hkind ih =>
    obtain ⟨s, bs, o₁, hs, hbs, ho₁, rfl⟩ := (search_takes_eq_some hkind).mp ho
    obtain ⟨o', ho'⟩ := ih ho₁
    rw [take?_trailing] at hbs
    exact ⟨_, (search_takes_eq_some hkind).mpr ⟨s, bs, o', hs, by rwa [take?_trailing], ho', rfl⟩⟩

/-- A match that ends before the last separator of a path. -/
structure Query.Shortened (q : Query) (es : List PatternElement) (index : Nat)
    (afterSegment : Bool) : Prop where
  /-- The path ends with a segment and a separator. -/
  spare : q.Spare
  /-- The last element takes the segment. -/
  last : endsInSegment es afterSegment = true
  /-- The elements do not begin past the separator. -/
  lt : index < q.length
  /-- Elements that match only at a separator begin at another one. -/
  past : ∀ e ∈ es.head?, e.kind.startsAtSeparator = true → index + 1 < q.length
  /-- The path without the separator matches. -/
  matched : ∃ o, search ((q.upTo (q.length - 1)).trailing false) es index afterSegment = some o

namespace Query.Shortened

variable {after : List PatternElement}

/-- One element more has taken the segment at `index`. -/
theorem cons (h : q.Shortened after (index + 1) true) (he : e.kind.takesSegment = true)
    (hmatched : ∃ o, search ((q.upTo (q.length - 1)).trailing false) (e :: after) index afterSegment
      = some o) : q.Shortened (e :: after) index afterSegment where
  spare := h.spare
  last := by rw [endsInSegment, he]; exact h.last
  lt := Nat.lt_of_succ_lt h.lt
  past := fun _ _ _ => h.lt
  matched := hmatched

/-- A `**` has gone on to `k`, which is not before the separator in front of it. -/
theorem segments {next : PatternElement} {later : List PatternElement} {k : Nat}
    (h : q.Shortened (next :: later) k false) (he : e.kind = .segments)
    (hnext : next.kind.startsAtSeparator = true) (hk : index ≤ k + 1)
    (hr : .atIndex k ∈ restarts (q.upTo (q.length - 1)) index next) :
    q.Shortened (e :: next :: later) index afterSegment where
  spare := h.spare
  last := by rw [endsInSegment, he]; exact h.last
  lt := by
    have := h.past next rfl hnext
    omega
  past := by simp [he, ElementKind.startsAtSeparator]
  matched := exists_search_of_restart he hr h.matched

end Query.Shortened

/-- Where a trailing separator is optional, elements end at the end of the path or before its last
separator. -/
theorem shortened_of_finish (hq : q.ofStart = false)
    (hflag : afterSegment = true → 0 < index ∧ ∃ s, q.segment? (index - 1) = some s) {o : Outcome}
    (ho : (q.trailing true).finish index afterSegment = some o) :
    (q.trailing false).finish index afterSegment = some ⟨[], none⟩ ∨
      q.Shortened [] index afterSegment := by
  have hlength : (q.upTo (q.length - 1)).length = q.length - 1 :=
    Query.length_upTo (Nat.sub_le _ _)
  rcases ((finish_trailing_true hq).mp ho).1 with hend | ⟨rfl, hend, hsep⟩
  · exact .inl ((finish_trailing_false hq).mpr ⟨hend, rfl⟩)
  · obtain ⟨hpos, s, hs⟩ := hflag rfl
    obtain rfl : index = q.length - 1 := by omega
    refine .inr ⟨⟨hsep, s, ?_⟩, rfl, by omega, by simp, ⟨[], none⟩, ?_⟩
    · rwa [Nat.sub_sub] at hs
    · rw [search_nil, finish_trailing_false rfl, hlength]
      exact ⟨rfl, rfl⟩

/-- Where a trailing separator is optional, a path matches as it does without the option, or
without its last separator. -/
theorem shortened_of_search (hq : q.ofStart = false) (hes : Adjoining es)
    (hflag : afterSegment = true → 0 < index ∧ ∃ s, q.segment? (index - 1) = some s) {o : Outcome}
    (ho : search (q.trailing true) es index afterSegment = some o) :
    (∃ o', search (q.trailing false) es index afterSegment = some o') ∨
      q.Shortened es index afterSegment := by
  have hlength : (q.upTo (q.length - 1)).length = q.length - 1 :=
    Query.length_upTo (Nat.sub_le _ _)
  have hnext : ∀ {index s}, q.segment? index = some s →
      true = true → 0 < index + 1 ∧ ∃ s, q.segment? (index + 1 - 1) = some s :=
    fun hs _ => ⟨Nat.succ_pos _, _, hs⟩
  have hnone : ∀ {index}, false = true → 0 < index ∧ ∃ s, q.segment? (index - 1) = some s :=
    fun h => absurd h Bool.false_ne_true
  induction es using search_induction generalizing index afterSegment o with
  | nil =>
    rw [search_nil] at ho ⊢
    exact (shortened_of_finish hq hflag ho).imp_left fun hfinish => ⟨_, hfinish⟩
  | separator e after hkind ih =>
    obtain ⟨hsep, ho⟩ := (search_separator_eq_some hkind).mp ho
    rcases ih hes.tail hnone ho with ⟨o', ho'⟩ | h
    · exact .inl ⟨o', (search_separator_eq_some hkind).mpr ⟨hsep, ho'⟩⟩
    · obtain ⟨o', ho'⟩ := h.matched
      refine .inr ⟨h.spare, ?_, Nat.lt_of_succ_lt h.lt, fun _ _ _ => h.lt, o', ?_⟩
      · rw [endsInSegment, hkind]
        exact h.last
      · refine (search_separator_eq_some hkind).mpr ⟨?_, ho'⟩
        have := h.lt
        rw [isSeparator_trailing, Query.isSeparator_upTo (by omega)]
        exact hsep
  | wildcard e after hkind ih =>
    rcases (search_wildcard_eq_some hkind).mp ho with ⟨s, hs, hvalue, ho⟩ | ⟨hge, hnil, hfin⟩
    · rcases ih hes.tail (hnext hs) ho with ⟨o', ho'⟩ | h
      · exact .inl ⟨o', (search_wildcard_eq_some hkind).mpr (.inl ⟨s, hs, hvalue, ho'⟩)⟩
      · obtain ⟨o', ho'⟩ := h.matched
        refine .inr (h.cons (by rw [hkind]; rfl) ⟨o', (search_wildcard_eq_some hkind).mpr
          (.inl ⟨s, ?_, hvalue, ho'⟩)⟩)
        have := h.lt
        rw [segment?_trailing, Query.segment?_upTo (by omega)]
        exact hs
    · -- a `*` that takes nothing allows no separator
      have hend : index = q.length := by simpa using ((finish_trailing_true hq).mp hfin).1
      exact .inl ⟨⟨[], none⟩, (search_wildcard_eq_some hkind).mpr
        (.inr ⟨hge, hnil, (finish_trailing_false hq).mpr ⟨hend, rfl⟩⟩)⟩
  | lastSegments e hkind =>
    refine .inl ⟨⟨[], none⟩, ?_⟩
    rw [search_lastSegments hkind, length_trailing, finish_trailing_false hq]
    exact ⟨rfl, rfl⟩
  | segments e next later hkind ihnext ihlater =>
    have hstart : next.kind.startsAtSeparator = true :=
      hes.startsAtSeparator (by simp [hkind]) next rfl
    obtain ⟨r, hr, ho⟩ := exists_restart hkind ho
    rcases mem_restarts.mp hr with ⟨k, hge, hle, rfl⟩ | ⟨hpos, hsep, rfl⟩ | ⟨rfl, hsep, rfl⟩
    · refine (ihnext hes.tail hnone ho).imp (exists_search_of_restart hkind hr) fun h => ?_
      refine h.segments hkind hstart (Nat.le_succ_of_le hge) (mem_restarts.mpr (.inl ?_))
      have := h.past next rfl hstart
      exact ⟨k, hge, by omega, rfl⟩
    · refine (ihnext hes.tail hnone ho).imp (exists_search_of_restart hkind hr) fun h => ?_
      refine h.segments hkind hstart (by omega) (mem_restarts.mpr (.inr (.inl ?_)))
      have := h.past next rfl hstart
      exact ⟨hpos, (Query.isSeparator_upTo (by omega)).trans hsep, rfl⟩
    · refine (ihlater hes.tail.tail hnone ho).imp (exists_search_of_restart hkind hr) fun h => ?_
      refine ⟨h.spare, ?_, h.lt, by simp [hkind, ElementKind.startsAtSeparator],
        exists_search_of_restart hkind (mem_restarts.mpr (.inr (.inr ⟨rfl, hsep, rfl⟩))) h.matched⟩
      rw [endsInSegment, endsInSegment, hsep]
      exact h.last
  | catchAll e after hkind =>
    obtain ⟨hsep, -⟩ := (search_catchAll_eq_some hkind).mp ho
    exact .inl ⟨_, (search_catchAll_eq_some hkind).mpr ⟨hsep, rfl⟩⟩
  | takes e after hkind ih =>
    obtain ⟨s, bs, o₁, hs, hbs, ho₁, rfl⟩ := (search_takes_eq_some hkind).mp ho
    rw [take?_trailing] at hbs
    rcases ih hes.tail (hnext hs) ho₁ with ⟨o', ho'⟩ | h
    · exact .inl ⟨_, (search_takes_eq_some hkind).mpr
        ⟨s, bs, o', hs, by rwa [take?_trailing], ho', rfl⟩⟩
    · obtain ⟨o', ho'⟩ := h.matched
      refine .inr (h.cons (ElementKind.takesSegment_of_takes hkind)
        ⟨_, (search_takes_eq_some hkind).mpr ⟨s, bs, o', ?_, ?_, ho', rfl⟩⟩)
      · have := h.lt
        rw [segment?_trailing, Query.segment?_upTo (by omega)]
        exact hs
      · rw [take?_trailing, Query.take?_upTo]
        exact hbs

/-- Where a trailing separator is optional, a path matches that would without its last separator,
if the last element takes the segment before it. -/
theorem search_of_spare (hq : q.ofStart = false) (hes : Adjoining es) (hspare : q.Spare)
    (hlast : endsInSegment es afterSegment = true) (hindex : index ≤ q.length - 1)
    (hbegin : q.BeginsAt es index) {o : Outcome}
    (ho : search ((q.upTo (q.length - 1)).trailing false) es index afterSegment = some o) :
    ∃ o', search (q.trailing true) es index afterSegment = some o' := by
  have hle : q.length - 1 ≤ q.length := Nat.sub_le _ _
  have hlength : (q.upTo (q.length - 1)).length = q.length - 1 := Query.length_upTo hle
  have hone := hspare.one_lt
  induction es using search_induction generalizing index afterSegment o with
  | nil =>
    rw [search_nil, finish_trailing_false rfl, hlength] at ho
    obtain ⟨rfl, -⟩ := ho
    refine ⟨_, (search_nil _ _).trans ((finish_trailing_true hq).mpr ⟨.inr ⟨hlast, ?_, ?_⟩, rfl⟩)⟩
    · omega
    · exact hspare.separator
  | separator e after hkind ih =>
    obtain ⟨hsep, ho⟩ := (search_separator_eq_some hkind).mp ho
    obtain ⟨hi, hsep⟩ := Query.isSeparator_of_upTo hle hsep
    rw [endsInSegment, hkind] at hlast
    obtain ⟨o', ho'⟩ := ih hes.tail hlast hi (.afterSeparator after hsep) ho
    exact ⟨o', (search_separator_eq_some hkind).mpr ⟨hsep, ho'⟩⟩
  | wildcard e after hkind ih =>
    rcases (search_wildcard_eq_some hkind).mp ho with ⟨s, hs, hvalue, ho⟩ | ⟨hge, rfl, -⟩
    · obtain ⟨hi, hs⟩ := Query.segment?_of_upTo hle hs
      rw [endsInSegment, hkind] at hlast
      obtain ⟨o', ho'⟩ := ih hes.tail hlast hi (hes.beginsAt (by simp [hkind]) _) ho
      exact ⟨o', (search_wildcard_eq_some hkind).mpr (.inl ⟨s, hs, hvalue, ho'⟩)⟩
    · -- a `*` that takes nothing would stand after the segment
      obtain rfl : index = q.length - 1 := Nat.le_antisymm hindex (hlength ▸ hge)
      rcases hbegin e rfl with h | h | h
      · simp [hkind, ElementKind.startsAtSeparator] at h
      · omega
      · rw [Nat.sub_sub, hspare.isSeparator_eq_false] at h
        exact absurd h Bool.false_ne_true
  | lastSegments e hkind =>
    rw [endsInSegment, hkind] at hlast
    exact absurd hlast Bool.false_ne_true
  | segments e next later hkind ihnext ihlater =>
    obtain ⟨r, hr, ho⟩ := exists_restart hkind ho
    rw [restarts_trailing] at hr
    have hmem : r ∈ restarts (q.trailing true) index next := by
      rw [restarts_trailing, restarts_upTo hindex hle]
      exact List.mem_append_right _ hr
    rw [endsInSegment, hkind] at hlast
    refine exists_search_of_restart hkind hmem ?_
    rcases mem_restarts.mp hr with ⟨k, -, hk, rfl⟩ | ⟨-, -, rfl⟩ | ⟨-, hsep, rfl⟩
    · exact ihnext hes.tail hlast (hlength ▸ hk) (hes.beginsAt (by simp [hkind]) k) ho
    · exact ihnext hes.tail hlast (by omega) (hes.beginsAt (by simp [hkind]) _) ho
    · rw [endsInSegment, hsep] at hlast
      exact ihlater hes.tail.tail hlast (Nat.zero_le _) (.zero later) ho
  | catchAll e after hkind =>
    obtain ⟨hsep, -⟩ := (search_catchAll_eq_some hkind).mp ho
    refine ⟨_, (search_catchAll_eq_some hkind).mpr ⟨fun _ => ?_, rfl⟩⟩
    rcases Nat.lt_or_eq_of_le hindex with hlt | rfl
    · exact (Query.isSeparator_of_upTo hle (hsep (hlength.symm ▸ hlt))).2
    · exact hspare.separator
  | takes e after hkind ih =>
    obtain ⟨s, bs, o₁, hs, hbs, ho₁, rfl⟩ := (search_takes_eq_some hkind).mp ho
    obtain ⟨hi, hs⟩ := Query.segment?_of_upTo hle hs
    rw [take?_trailing, Query.take?_upTo] at hbs
    rw [endsInSegment, ElementKind.takesSegment_of_takes hkind] at hlast
    have hsep : e.kind ≠ .separator := fun h => by simp [h, ElementKind.takes] at hkind
    obtain ⟨o', ho'⟩ := ih hes.tail hlast hi (hes.beginsAt hsep _) ho₁
    exact ⟨_, (search_takes_eq_some hkind).mpr ⟨s, bs, o', hs, by rwa [take?_trailing], ho', rfl⟩⟩

/-- **What an optional trailing separator adds to the matches of whole paths** is the matches of
paths that end with a segment and a separator, the separator left out, where the last element takes
the segment. -/
theorem search_trailing (hq : q.ofStart = false) (hes : Adjoining es) :
    (search (q.trailing true) es 0 false).isSome = true ↔
      (search (q.trailing false) es 0 false).isSome = true ∨
      q.Spare ∧ endsInSegment es false = true ∧
        (search ((q.upTo (q.length - 1)).trailing false) es 0 false).isSome = true := by
  simp only [Option.isSome_iff_exists]
  constructor
  · rintro ⟨o, ho⟩
    refine (shortened_of_search hq hes (fun h => absurd h Bool.false_ne_true) ho).imp_right ?_
    exact fun h => ⟨h.spare, h.last, h.matched⟩
  · rintro (⟨o, ho⟩ | ⟨hspare, hlast, o, ho⟩)
    · exact search_trailing_true hq ho
    · exact search_of_spare hq hes hspare hlast (Nat.zero_le _) (.zero es) ho

end PathRouting
