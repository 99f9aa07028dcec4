import PathRouting.Proofs.Search.Memo

/-!
# Searching from an index on

Elements that are no `**` and match neither an open end go through a path one by one, so the search
for a pattern that starts with them is the search for the rest of it from a later index.  From there
on the search sees no more than the part of the path that is left.

## Main definitions

* `Query.takeAll` — what elements that match one element of a path each record.
* `Query.startingAt` — the same question about the part of the path from an index on.

## Main results

* `search_congr` — the search does not depend on the places of elements.
* `search_fixed_append` — the elements before an end of a pattern are matched first.
* `search_startingAt` — the search in the part of a path that is left.
-/

namespace PathRouting

variable {q : Query}

/-- Places make no difference to the search. -/
theorem search_congr {es es' : List PatternElement} (h : es.map (·.kind) = es'.map (·.kind))
    (index : Nat) (afterSegment : Bool) :
    search q es index afterSegment = search q es' index afterSegment := by
  induction es using search_induction generalizing es' index afterSegment with
  | nil =>
    obtain rfl := List.map_eq_nil_iff.mp h.symm
    rfl
  | separator e after hkind ih =>
    obtain ⟨e', after', rfl, hkind', hafter⟩ := List.map_eq_cons_iff.mp h.symm
    rw [search_separator hkind, search_separator (hkind'.trans hkind), ih hafter.symm]
  | wildcard e after hkind ih =>
    obtain ⟨e', after', rfl, hkind', hafter⟩ := List.map_eq_cons_iff.mp h.symm
    have hempty : after.isEmpty = after'.isEmpty := by
      have := congrArg List.isEmpty hafter
      simpa using this.symm
    simp only [search_wildcard hkind, search_wildcard (hkind'.trans hkind), ih hafter.symm, hempty]
  | lastSegments e hkind =>
    obtain ⟨e', after', rfl, hkind', hafter⟩ := List.map_eq_cons_iff.mp h.symm
    obtain rfl := List.map_eq_nil_iff.mp hafter
    rw [search_lastSegments hkind, search_lastSegments (hkind'.trans hkind)]
  | segments e next later hkind ihnext ihlater =>
    obtain ⟨e', after', rfl, hkind', hafter⟩ := List.map_eq_cons_iff.mp h.symm
    obtain ⟨next', later', rfl, hnext, hlater⟩ := List.map_eq_cons_iff.mp hafter
    have hattempt : attempt q next later = attempt q next' later' := by
      funext r
      cases r with
      | atIndex i => exact ihnext hafter.symm i false
      | pastSeparator => exact ihlater hlater.symm 0 false
    have hrestarts : restarts q index next = restarts q index next' := by
      rw [restarts, restarts, hnext]
    rw [search_segments hkind, search_segments (hkind'.trans hkind), hattempt, hrestarts]
  | catchAll e after hkind =>
    obtain ⟨e', after', rfl, hkind', -⟩ := List.map_eq_cons_iff.mp h.symm
    have hcatchAll : e'.kind.isCatchAll = true := by
      rw [show e'.kind = e.kind from hkind']
      exact hkind
    rw [search_catchAll hkind, search_catchAll hcatchAll, hkind']
  | takes e after hkind ih =>
    obtain ⟨e', after', rfl, hkind', hafter⟩ := List.map_eq_cons_iff.mp h.symm
    have htakes : e'.kind.takes = true := by
      rw [show e'.kind = e.kind from hkind']
      exact hkind
    rw [search_takes hkind, search_takes htakes, ih hafter.symm, hkind']

/-! ### Elements that match one element each -/

namespace Query

/-- What an element that matches one element of the path records at an index, if it matches. -/
def takeAt (q : Query) (k : ElementKind) (index : Nat) : Option (List Binding) :=
  if k.isSeparator then if q.isSeparator index then some [] else none
  else (q.segment? index).bind fun s => q.take? s k

/-- What elements that match one element of the path each record from an index on, if they all
match. -/
def takeAll (q : Query) : List PatternElement → Nat → Option (List Binding)
  | [], _ => some []
  | e :: after, index =>
    (q.takeAt e.kind index).bind fun bs => (takeAll q after (index + 1)).map (bs ++ ·)

end Query

@[simp] theorem prepend_nil (o : Outcome) : o.prepend [] = o := rfl

@[simp] theorem prepend_prepend (bs bs' : List Binding) (o : Outcome) :
    (o.prepend bs').prepend bs = o.prepend (bs ++ bs') := by
  simp [Outcome.prepend]

/-- A fixed element is matched before those after it. -/
theorem search_fixed {e : PatternElement} (h : e.kind.fixed = true) (after : List PatternElement)
    (index : Nat) (afterSegment : Bool) : search q (e :: after) index afterSegment
      = (q.takeAt e.kind index).bind fun bs =>
          (search q after (index + 1) e.kind.takes).map (·.prepend bs) := by
  rcases ElementKind.fixed_iff.mp h with hkind | hkind
  · rw [search_separator hkind, Query.takeAt, hkind]
    show _ = (if q.isSeparator index then some [] else none).bind _
    split
    · simp [ElementKind.takes, Option.map_id']
    · rfl
  · have hsep : e.kind.isSeparator = false := by
      generalize e.kind = k at hkind
      cases k <;> first | rfl | simp [ElementKind.takes] at hkind
    rw [search_takes hkind, Query.takeAt, hsep, hkind]
    rfl

/-- **The elements before an end of a pattern are matched first**, one after the other. -/
theorem search_fixed_append {first : List PatternElement}
    (hfirst : ∀ e ∈ first, e.kind.fixed = true) {later : List PatternElement}
    (hlater : ∀ index f g, search q later index f = search q later index g)
    (index : Nat) (afterSegment : Bool) : search q (first ++ later) index afterSegment
      = (q.takeAll first index).bind fun bs =>
          (search q later (index + first.length) afterSegment).map (·.prepend bs) := by
  induction first generalizing index afterSegment with
  | nil => simp [Query.takeAll, Option.map_id']
  | cons e after ih =>
    obtain ⟨he, hafter⟩ := List.forall_mem_cons.mp hfirst
    -- each element sets the flag anew, and `later` does not look at it
    rw [List.cons_append, search_fixed he, Query.takeAll, Option.bind_assoc]
    congr 1
    funext bs
    rw [ih hafter, hlater _ e.kind.takes afterSegment, List.length_cons,
      Nat.add_assoc, Nat.add_comm 1, Option.map_bind, Option.bind_map]
    congr 1
    funext bs'
    simp [Option.map_map, Function.comp_def]

/-! ### The part of a path that is left -/

/-- The same question about the part of the path from an index on. -/
def Query.startingAt (q : Query) (start : Nat) : Query :=
  { q with elements := q.elements.drop start }

namespace Query

variable {start : Nat}

theorem length_startingAt (q : Query) (start : Nat) :
    (q.startingAt start).length = q.length - start := by
  simp [length, startingAt]

theorem getElem?_startingAt (q : Query) (start index : Nat) :
    (q.startingAt start).elements[index]? = q.elements[start + index]? := by
  simp only [startingAt, Array.drop_eq_extract, Array.getElem?_extract, Nat.min_self]
  split
  · rfl
  · exact (Array.getElem?_eq_none (by omega)).symm

theorem isSeparator_startingAt (q : Query) (start index : Nat) :
    (q.startingAt start).isSeparator index = q.isSeparator (start + index) := by
  rw [isSeparator, getElem?_startingAt, isSeparator]

theorem segment?_startingAt (q : Query) (start index : Nat) :
    (q.startingAt start).segment? index = q.segment? (start + index) := by
  rw [segment?, getElem?_startingAt, segment?]

theorem take?_startingAt (q : Query) (start : Nat) (s : Segment) (k : ElementKind) :
    (q.startingAt start).take? s k = q.take? s k := by
  cases k <;> rfl

theorem toList_startingAt (q : Query) (start : Nat) :
    (q.startingAt start).elements.toList = q.elements.toList.drop start := by
  simp [startingAt, List.take_of_length_le]

theorem restBindings_startingAt (q : Query) (start : Nat) (k : ElementKind) (index : Nat) :
    (q.startingAt start).restBindings k index = q.restBindings k (start + index) := by
  cases k <;> simp only [restBindings, restBinding, toList_startingAt, List.drop_drop]

theorem finish_startingAt (hq : q.ofStart = false) (hstart : start ≤ q.length) (index : Nat)
    (afterSegment : Bool) :
    (q.startingAt start).finish index afterSegment = q.finish (start + index) afterSegment := by
  have hq' : (q.startingAt start).ofStart = false := hq
  have hlength : ∀ i, i = q.length - start ↔ start + i = q.length := fun i => by omega
  simp only [finish, hq, hq', length_startingAt, isSeparator_startingAt, hlength,
    Nat.add_assoc]
  rfl

theorem finishWithRest_startingAt (hq : q.ofStart = false) (hstart : start ≤ q.length)
    (index : Nat) (bs : List Binding) :
    (q.startingAt start).finishWithRest index bs = q.finishWithRest (start + index) bs := by
  have hq' : (q.startingAt start).ofStart = false := hq
  have hlength : ∀ i, i < q.length - start ↔ start + i < q.length := fun i => by omega
  simp only [finishWithRest, hq, hq', length_startingAt, isSeparator_startingAt, hlength]
  rfl

end Query

theorem countDown_add (start index stop : Nat) :
    countDown (start + index) (start + stop) = (countDown index stop).map (start + ·) := by
  rw [countDown, countDown, List.map_reverse, List.map_add_range']
  congr 2
  omega

/-- The places to restart at are the same, unless the front of the path is near. -/
theorem restarts_startingAt {start index : Nat} (hstart : start ≤ q.length) (hindex : 0 < index)
    (next : PatternElement) : restarts q (start + index) next
      = (restarts (q.startingAt start) index next).map fun
        | .atIndex i => .atIndex (start + i)
        | .pastSeparator => .pastSeparator := by
  have hlength : q.length = start + (q.startingAt start).length := by
    rw [Query.length_startingAt]
    omega
  have hpos : 0 < start + index := by omega
  have hne : start + index ≠ 0 := by omega
  have hback : start + index - 1 = start + (index - 1) := by omega
  simp only [restarts, hlength, countDown_add, Query.isSeparator_startingAt, hback, hpos, hindex,
    hne, Nat.ne_of_gt hindex, List.map_append, List.map_map, decide_true, decide_false,
    Bool.true_and, Bool.false_and, Bool.false_eq_true, if_false, List.map_nil]
  congr 2
  split <;> rfl

theorem findSome?_congr {α β : Type} {f g : α → Option β} {l : List α}
    (h : ∀ a ∈ l, f a = g a) : l.findSome? f = l.findSome? g := by
  induction l with
  | nil => rfl
  | cons a l ih =>
    obtain ⟨ha, hl⟩ := List.forall_mem_cons.mp h
    rw [List.findSome?_cons, List.findSome?_cons, ha, ih hl]

/-- **The search in the part of a path that is left** is the search from where that part starts.  A
`**` must not stand at the front, where it may skip the separator after it. -/
theorem search_startingAt {start : Nat} (hq : q.ofStart = false) (hstart : start ≤ q.length)
    {es : List PatternElement} (hes : Adjoining es) {index : Nat}
    (hindex : ∀ e ∈ es.head?, e.kind = .segments → 0 < index) (afterSegment : Bool) :
    search (q.startingAt start) es index afterSegment
      = search q es (start + index) afterSegment := by
  induction es using search_induction generalizing index afterSegment with
  | nil => rw [search_nil, search_nil, Query.finish_startingAt hq hstart]
  | separator e after hkind ih =>
    rw [search_separator hkind, search_separator hkind, Query.isSeparator_startingAt,
      ih hes.tail (fun _ _ _ => Nat.succ_pos index), Nat.add_assoc]
  | wildcard e after hkind ih =>
    have hlength : (q.startingAt start).length ≤ index ↔ q.length ≤ start + index := by
      rw [Query.length_startingAt]
      omega
    simp only [search_wildcard hkind, Query.segment?_startingAt,
      ih hes.tail (fun _ _ _ => Nat.succ_pos index), Nat.add_assoc, hlength,
      Query.finish_startingAt hq hstart]
  | lastSegments e hkind =>
    rw [search_lastSegments hkind, search_lastSegments hkind, Query.finish_startingAt hq hstart,
      Query.length_startingAt, Nat.add_sub_cancel' hstart]
  | segments e next later hkind ihnext ihlater =>
    have hpos : 0 < index := hindex e rfl hkind
    have hnext : next.kind.startsAtSeparator = true :=
      hes.startsAtSeparator (by simp [hkind]) next rfl
    have hne : ∀ e' ∈ (next :: later).head?, e'.kind ≠ .segments := by
      rintro e' he' heq
      obtain rfl : next = e' := Option.some.inj he'
      simp [heq, ElementKind.startsAtSeparator] at hnext
    -- away from the front the places to restart at are those of the whole path, moved
    rw [search_segments hkind, search_segments hkind, restarts_startingAt hstart hpos,
      List.findSome?_map]
    refine findSome?_congr fun r hr => ?_
    rcases mem_restarts.mp hr with ⟨i, -, -, rfl⟩ | ⟨-, -, rfl⟩ | ⟨hzero, -, -⟩
    · exact ihnext hes.tail (fun e' he' heq => absurd heq (hne e' he')) false
    · exact ihnext hes.tail (fun e' he' heq => absurd heq (hne e' he')) false
    · omega
  | catchAll e after hkind =>
    rw [search_catchAll hkind, search_catchAll hkind, Query.finishWithRest_startingAt hq hstart,
      Query.restBindings_startingAt]
  | takes e after hkind ih =>
    simp only [search_takes hkind, Query.segment?_startingAt, Query.take?_startingAt,
      ih hes.tail (fun _ _ _ => Nat.succ_pos index), Nat.add_assoc]

end PathRouting
