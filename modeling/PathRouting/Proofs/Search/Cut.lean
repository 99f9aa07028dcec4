import PathRouting.Proofs.Search.Rest

/-!
# Matching what was matched

The start of a path that matches is a path of its own.  Matched as a whole it goes the same way:
where the search of the whole path fails, so does the search of its start, and where the search
ends at the cut, the search of the start ends with the same bindings.

## Main definitions

* `Query.upTo` — the question whether a path up to an index matches as a whole.
* `Query.BeginsAt` — where elements may begin.

## Main results

* `search_of_upTo` — where the start of a path can be matched as a whole, the path can be matched
  in part.
* `search_upTo` — the start of a path is matched as a whole as it was matched in part.
-/

namespace PathRouting

variable {q : Query} {es : List PatternElement} {index stop : Nat} {afterSegment : Bool}

/-- What is asked about the path up to an index, matched as a whole. -/
def Query.upTo (q : Query) (stop : Nat) : Query :=
  { q with elements := q.elements.take stop, ofStart := false }

/-- Where elements may begin: after a separator, unless the first of them matches only at one. -/
def Query.BeginsAt (q : Query) (es : List PatternElement) (index : Nat) : Prop :=
  ∀ e ∈ es.head?, e.kind.startsAtSeparator = true ∨ index = 0 ∨ q.isSeparator (index - 1) = true

namespace Query

theorem length_upTo (h : stop ≤ q.length) : (q.upTo stop).length = stop := by
  simp only [length, upTo, Array.take_eq_extract, Array.size_extract, Nat.sub_zero]
  exact Nat.min_eq_left h

theorem getElem?_upTo (q : Query) (stop index : Nat) :
    (q.upTo stop).elements[index]? = if index < stop then q.elements[index]? else none := by
  simp only [upTo, Array.take_eq_extract, Array.getElem?_extract, Nat.sub_zero, Nat.zero_add]
  split
  · next h => rw [if_pos (h.trans_le (Nat.min_le_left ..))]
  · next h =>
    split
    · next hlt => exact (Array.getElem?_eq_none (by omega)).symm
    · rfl

theorem isSeparator_upTo (h : index < stop) :
    (q.upTo stop).isSeparator index = q.isSeparator index := by
  rw [isSeparator, getElem?_upTo, if_pos h, isSeparator]

theorem segment?_upTo (h : index < stop) : (q.upTo stop).segment? index = q.segment? index := by
  rw [segment?, getElem?_upTo, if_pos h, segment?]

/-- A separator of the start of a path is one of the path. -/
theorem isSeparator_of_upTo (hle : stop ≤ q.length) (h : (q.upTo stop).isSeparator index = true) :
    index < stop ∧ q.isSeparator index = true := by
  have hlt : index < stop := length_upTo hle ▸ lt_of_isSeparator h
  exact ⟨hlt, isSeparator_upTo hlt ▸ h⟩

/-- A segment of the start of a path is one of the path. -/
theorem segment?_of_upTo (hle : stop ≤ q.length) {s : Segment}
    (h : (q.upTo stop).segment? index = some s) : index < stop ∧ q.segment? index = some s := by
  have hlt : index < stop := length_upTo hle ▸ lt_of_segment? h
  exact ⟨hlt, segment?_upTo hlt ▸ h⟩

theorem take?_upTo (stop : Nat) (s : Segment) (k : ElementKind) :
    (q.upTo stop).take? s k = q.take? s k := by
  cases k <;> rfl

/-- Cut at its end a path keeps all elements. -/
theorem restBindings_upTo_length (k : ElementKind) (index : Nat) :
    (q.upTo q.length).restBindings k index = q.restBindings k index := by
  cases k <;> simp [restBindings, restBinding, upTo, length]

/-- Where the start of a path may end, it ends when matched as a whole. -/
theorem finish_upTo (hq : q.ofStart = true) (hle : stop ≤ q.length) {bs : List Binding}
    (h : q.finish index afterSegment = some ⟨bs, some stop⟩) :
    index = stop ∧ (q.upTo stop).finish index afterSegment = some ⟨bs, none⟩ := by
  obtain ⟨-, heq⟩ := (finish_ofStart hq).mp h
  simp only [Outcome.mk.injEq, Option.some.injEq] at heq
  obtain ⟨rfl, rfl⟩ := heq
  exact ⟨rfl, (finish_whole rfl).mpr ⟨.inl (length_upTo hle).symm, rfl⟩⟩

end Query

theorem Query.BeginsAt.zero (es : List PatternElement) : q.BeginsAt es 0 :=
  fun _ _ => .inr (.inl rfl)

theorem Query.BeginsAt.afterSeparator (es : List PatternElement)
    (h : q.isSeparator index = true) : q.BeginsAt es (index + 1) :=
  fun _ _ => .inr (.inr h)

/-- After an element that is no separator there may be anything. -/
theorem Adjoining.beginsAt {e : PatternElement} {after : List PatternElement}
    (h : Adjoining (e :: after)) (he : e.kind ≠ .separator) (index : Nat) :
    q.BeginsAt after index :=
  fun e' he' => .inl (h.startsAtSeparator he e' he')

/-! ### Restarts -/

theorem countDown_append (h : index ≤ stop) {last : Nat} (hlast : stop ≤ last) :
    countDown index last = countDown (stop + 1) last ++ countDown index stop := by
  rw [countDown, countDown, countDown, ← List.reverse_append, List.reverse_inj,
    show last + 1 - index = (stop + 1 - index) + (last + 1 - (stop + 1)) by omega,
    ← List.range'_append_1]
  congr 2
  omega

/-- A whole path has the places to restart at of its start, after those past the cut. -/
theorem restarts_upTo (hindex : index ≤ stop) (hle : stop ≤ q.length) (next : PatternElement) :
    restarts q index next
      = (countDown (stop + 1) q.length).map .atIndex ++ restarts (q.upTo stop) index next := by
  have hback : (0 < index && q.isSeparator (index - 1))
      = (0 < index && (q.upTo stop).isSeparator (index - 1)) := by
    rcases Nat.eq_zero_or_pos index with rfl | hpos
    · rfl
    · rw [Query.isSeparator_upTo (by omega)]
  rw [restarts, restarts, countDown_append hindex hle, hback, Query.length_upTo hle,
    List.map_append, List.append_assoc, List.append_assoc, List.append_assoc]

/-- The first place to restart at that leads on is that of the start of a path, unless it lies past
the cut. -/
theorem findSome?_restarts_upTo (hindex : index ≤ stop) (hle : stop ≤ q.length)
    {next : PatternElement} {f : Restart → Option Outcome} {o : Outcome}
    (h : (restarts q index next).findSome? f = some o)
    (hcut : ∀ i, stop < i → i ≤ q.length → f (.atIndex i) ≠ some o) :
    (restarts (q.upTo stop) index next).findSome? f = some o := by
  rw [restarts_upTo hindex hle, List.findSome?_append] at h
  rcases Option.or_eq_some_iff.mp h with hlate | ⟨-, h⟩
  · obtain ⟨r, hr, hor⟩ := List.exists_of_findSome?_eq_some hlate
    obtain ⟨i, hi, rfl⟩ := List.mem_map.mp hr
    obtain ⟨hlt, hle⟩ := mem_countDown.mp hi
    exact absurd hor (hcut i hlt hle)
  · exact h

/-- The first success is that of another function which succeeds at the same place and nowhere
before. -/
theorem findSome?_of_first {α β : Type} {f g : α → Option β} {l : List α} {b b' : β}
    (h : l.findSome? f = some b) (hnone : ∀ a ∈ l, ∀ c, g a = some c → ∃ c', f a = some c')
    (hsome : ∀ a ∈ l, f a = some b → g a = some b') : l.findSome? g = some b' := by
  obtain ⟨l₁, a, l₂, rfl, ha, hbefore⟩ := List.findSome?_eq_some_iff.mp h
  refine List.findSome?_eq_some_iff.mpr ⟨l₁, a, l₂, rfl, hsome a (by simp) ha, fun x hx => ?_⟩
  refine Option.eq_none_iff_forall_ne_some.mpr fun c hc => ?_
  obtain ⟨c', hc'⟩ := hnone x (by simp [hx]) c hc
  simp [hbefore x hx] at hc'

/-! ### The two searches -/

/-- Where the start of a path can be matched as a whole, the path can be matched in part. -/
theorem search_of_upTo (hq : q.ofStart = true) (hpos : 0 < stop) (hes : Adjoining es)
    (hend : q.EndsAt es stop) (hindex : index ≤ stop) (hbegin : q.BeginsAt es index) {o : Outcome}
    (ho : search (q.upTo stop) es index afterSegment = some o) :
    ∃ o', search q es index afterSegment = some o' := by
  have hlength := Query.length_upTo hend.le
  induction es using search_induction generalizing index afterSegment o with
  | nil =>
    rw [search_nil, Query.finish_whole rfl, hlength] at ho
    refine ⟨_, (search_nil index afterSegment).trans ((Query.finish_ofStart hq).mpr ⟨?_, rfl⟩)⟩
    rcases ho.1 with rfl | ⟨-, -, -, hsep⟩
    · exact fun hlt => hend.ends.resolve_left hlt.ne
    · exact fun _ => (Query.isSeparator_of_upTo hend.le hsep).2
  | separator e after hkind ih =>
    obtain ⟨hsep, ho⟩ := (search_separator_eq_some hkind).mp ho
    obtain ⟨hi, hsep⟩ := Query.isSeparator_of_upTo hend.le hsep
    obtain ⟨o', ho'⟩ := ih hes.tail hend.tail hi (.afterSeparator after hsep) ho
    exact ⟨o', (search_separator_eq_some hkind).mpr ⟨hsep, ho'⟩⟩
  | wildcard e after hkind ih =>
    rcases (search_wildcard_eq_some hkind).mp ho with ⟨s, hs, hvalue, ho⟩ | ⟨hge, rfl, -⟩
    · obtain ⟨hi, hs⟩ := Query.segment?_of_upTo hend.le hs
      obtain ⟨o', ho'⟩ := ih hes.tail hend.tail hi (hes.beginsAt (by simp [hkind]) _) ho
      exact ⟨o', (search_wildcard_eq_some hkind).mpr (.inl ⟨s, hs, hvalue, ho'⟩)⟩
    · -- a last `*` that took nothing stands after a separator, so nothing was cut off
      obtain rfl : index = stop := Nat.le_antisymm hindex (hlength ▸ hge)
      have hlast : index = q.length := by
        rcases hbegin e rfl with h | h | h
        · simp [hkind, ElementKind.startsAtSeparator] at h
        · omega
        · exact (hend.wildcard e (List.suffix_refl _) hkind).resolve_right (by simp [h])
      refine ⟨⟨[], some index⟩, (search_wildcard_eq_some hkind).mpr (.inr ⟨hlast.ge, rfl, ?_⟩)⟩
      exact (Query.finish_ofStart hq).mpr ⟨fun h => absurd hlast h.ne, rfl⟩
  | lastSegments e hkind =>
    refine ⟨⟨[], some q.length⟩, ?_⟩
    rw [search_lastSegments hkind]
    exact (Query.finish_ofStart hq).mpr ⟨fun h => absurd rfl h.ne, rfl⟩
  | segments e next later hkind ihnext ihlater =>
    obtain ⟨r, hr, ho⟩ := exists_restart hkind ho
    have hmem : r ∈ restarts q index next := by
      rw [restarts_upTo hindex hend.le]
      exact List.mem_append_right _ hr
    refine exists_search_of_restart hkind hmem ?_
    rcases mem_restarts.mp hr with ⟨i, -, hle, rfl⟩ | ⟨-, hsep, rfl⟩ | ⟨-, -, rfl⟩
    · exact ihnext hes.tail hend.tail (hlength ▸ hle) (hes.beginsAt (by simp [hkind]) i) ho
    · exact ihnext hes.tail hend.tail (by omega) (hes.beginsAt (by simp [hkind]) _) ho
    · exact ihlater hes.tail.tail hend.tail.tail (Nat.zero_le _) (.zero later) ho
  | catchAll e after hkind =>
    obtain ⟨hsep, -⟩ := (search_catchAll_eq_some hkind).mp ho
    refine ⟨_, (search_catchAll_eq_some hkind).mpr ⟨fun hi => ?_, rfl⟩⟩
    rcases Nat.lt_or_eq_of_le hindex with hlt' | rfl
    · exact (Query.isSeparator_of_upTo hend.le (hsep (hlength.symm ▸ hlt'))).2
    · exact hend.ends.resolve_left hi.ne
  | takes e after hkind ih =>
    obtain ⟨s, bs, o₁, hs, hbs, ho₁, rfl⟩ := (search_takes_eq_some hkind).mp ho
    obtain ⟨hi, hs⟩ := Query.segment?_of_upTo hend.le hs
    have hsep : e.kind ≠ .separator := fun h => by simp [h, ElementKind.takes] at hkind
    obtain ⟨o', ho'⟩ := ih hes.tail hend.tail hi (hes.beginsAt hsep _) ho₁
    rw [Query.take?_upTo] at hbs
    exact ⟨_, (search_takes_eq_some hkind).mpr ⟨s, bs, o', hs, hbs, ho', rfl⟩⟩

/-- **The start of a path is matched as a whole as it was matched in part**, with the same
bindings. -/
theorem search_upTo (hq : q.ofStart = true) (hpos : 0 < stop) (hes : Adjoining es)
    (hindex : index ≤ q.length) (hbegin : q.BeginsAt es index) {bs : List Binding}
    (ho : search q es index afterSegment = some ⟨bs, some stop⟩) :
    search (q.upTo stop) es index afterSegment = some ⟨bs, none⟩ := by
  have hrestAt : ∀ {es index afterSegment bs}, Adjoining es → index ≤ q.length →
      search q es index afterSegment = some ⟨bs, some stop⟩ → q.RestAt es index stop :=
    fun hes hindex ho => restAt_of_restIndex hq hes hindex ho rfl
  have hrest := hrestAt hes hindex ho
  have hlength := Query.length_upTo hrest.le
  induction es using search_induction generalizing index afterSegment bs with
  | nil =>
    rw [search_nil] at ho ⊢
    exact (Query.finish_upTo hq hrest.le ho).2
  | separator e after hkind ih =>
    obtain ⟨hsep, ho⟩ := (search_separator_eq_some hkind).mp ho
    have hi := Query.lt_of_isSeparator hsep
    have hrest' := hrestAt hes.tail hi ho
    refine (search_separator_eq_some hkind).mpr
      ⟨?_, ih hes.tail hi (.afterSeparator after hsep) ho hrest'⟩
    rw [Query.isSeparator_upTo hrest'.ge]
    exact hsep
  | wildcard e after hkind ih =>
    rcases (search_wildcard_eq_some hkind).mp ho with ⟨s, hs, hvalue, ho⟩ | ⟨hge, rfl, hfin⟩
    · have hi := Query.lt_of_segment? hs
      have hrest' := hrestAt hes.tail hi ho
      refine (search_wildcard_eq_some hkind).mpr (.inl ⟨s, ?_, hvalue,
        ih hes.tail hi (hes.beginsAt (by simp [hkind]) _) ho hrest'⟩)
      rw [Query.segment?_upTo hrest'.ge]
      exact hs
    · obtain ⟨rfl, hfin⟩ := Query.finish_upTo hq hrest.le hfin
      exact (search_wildcard_eq_some hkind).mpr (.inr ⟨hlength.le, rfl, hfin⟩)
  | lastSegments e hkind =>
    rw [search_lastSegments hkind] at ho ⊢
    obtain ⟨rfl, hfin⟩ := Query.finish_upTo hq hrest.le ho
    rw [hlength]
    exact hfin
  | segments e next later hkind ihnext ihlater =>
    have hbegin' : ∀ i, q.BeginsAt (next :: later) i := hes.beginsAt (by simp [hkind])
    -- the first success must come from the same place to restart at
    rw [search_segments hkind] at ho ⊢
    have hfirst := findSome?_restarts_upTo hrest.ge hrest.le ho fun i hlt hle hor => by
      -- past the cut the search would end past the cut
      have := (hrestAt hes.tail hle hor).ge
      omega
    refine findSome?_of_first hfirst (fun r hr c hc => ?_) (fun r hr hor => ?_)
    · rcases mem_restarts.mp hr with ⟨i, -, hle, rfl⟩ | ⟨-, -, rfl⟩ | ⟨-, -, rfl⟩
      · exact search_of_upTo hq hpos hes.tail hrest.toEndsAt.tail (hlength ▸ hle) (hbegin' i) hc
      · have := hrest.ge
        exact search_of_upTo hq hpos hes.tail hrest.toEndsAt.tail (by omega) (hbegin' _) hc
      · exact search_of_upTo hq hpos hes.tail.tail hrest.toEndsAt.tail.tail (Nat.zero_le _)
          (.zero later) hc
    · rcases mem_restarts.mp hr with ⟨i, -, hle, rfl⟩ | ⟨-, -, rfl⟩ | ⟨-, -, rfl⟩
      · have hi : i ≤ q.length := (hlength ▸ hle).trans hrest.le
        exact ihnext hes.tail hi (hbegin' i) hor (hrestAt hes.tail hi hor)
      · have hi : index - 1 ≤ q.length := by omega
        exact ihnext hes.tail hi (hbegin' _) hor (hrestAt hes.tail hi hor)
      · exact ihlater hes.tail.tail (Nat.zero_le _) (.zero later) hor
          (hrestAt hes.tail.tail (Nat.zero_le _) hor)
  | catchAll e after hkind =>
    obtain ⟨hsep, heq⟩ := (search_catchAll_eq_some hkind).mp ho
    simp only [if_pos hq, Outcome.mk.injEq, Option.some.injEq] at heq
    obtain ⟨rfl, rfl⟩ := heq
    rw [search_catchAll hkind, Query.restBindings_upTo_length]
    refine Query.finishWithRest_eq_some.mpr ⟨fun hi => ?_, rfl⟩
    rw [hlength] at hi
    rw [Query.isSeparator_upTo hi]
    exact hsep hi
  | takes e after hkind ih =>
    obtain ⟨s, bs₁, o', hs, hbs, ho', heq⟩ := (search_takes_eq_some hkind).mp ho
    obtain ⟨bs₂, restIndex⟩ := o'
    simp only [Outcome.prepend, Outcome.mk.injEq] at heq
    obtain ⟨rfl, rfl⟩ := heq
    have hi := Query.lt_of_segment? hs
    have hrest' := hrestAt hes.tail hi ho'
    have hsep : e.kind ≠ .separator := fun h => by simp [h, ElementKind.takes] at hkind
    refine (search_takes_eq_some hkind).mpr ⟨s, bs₁, ⟨bs₂, none⟩, ?_, ?_,
      ih hes.tail hi (hes.beginsAt hsep _) ho' hrest', rfl⟩
    · rw [Query.segment?_upTo hrest'.ge]
      exact hs
    · rw [Query.take?_upTo]
      exact hbs

end PathRouting
