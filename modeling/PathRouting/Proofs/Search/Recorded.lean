import PathRouting.Proofs.Search.Basic

/-!
# What the search records

## Main results

* `names_of_search` — names are recorded in the order of the pattern.
* `ofBindings_eq` — bindings with different names are all kept, in their order.
-/

namespace PathRouting

variable {q : Query}

/-! ### Names -/

theorem map_fst_zip_sublist {α β : Type} (l : List α) (l' : List β) :
    ((l.zip l').map Prod.fst).Sublist l := by
  induction l generalizing l' with
  | nil => simp
  | cons a l ih =>
    cases l' with
    | nil => simp
    | cons b l' => exact (ih l').cons_cons a

/-- Recording on demand leaves out names at most. -/
theorem names_recorded (q : Query) (bs : List Binding) :
    ((q.recorded bs).map (·.name)).Sublist (bs.map (·.name)) := by
  rw [Query.recorded]
  split
  · exact List.Sublist.refl _
  · exact List.nil_sublist _

/-- An element records its own names only, in their order. -/
theorem names_of_take? {s : Segment} {k : ElementKind} {bs : List Binding}
    (h : q.take? s k = some bs) : (bs.map (·.name)).Sublist k.names := by
  cases k with
  | capture name constraint =>
    rw [Query.take?] at h
    split at h
    · simp at h
    · obtain rfl := Option.some.inj h
      exact names_recorded q _
  | mixed text pieces re =>
    rw [Query.take?] at h
    split at h
    · obtain ⟨values, -, rfl⟩ := Option.map_eq_some_iff.mp h
      rw [List.map_map]
      exact map_fst_zip_sublist (captureNames pieces) values
    · obtain rfl := Option.some.inj (Option.ite_none_right_eq_some.mp h).2
      exact List.nil_sublist _
  | literal text caseSensitive =>
    rw [Query.take?, Option.ite_none_right_eq_some] at h
    obtain rfl := Option.some.inj h.2
    exact List.nil_sublist _
  | singleChars text caseSensitive =>
    rw [Query.take?, Option.ite_none_right_eq_some] at h
    obtain rfl := Option.some.inj h.2
    exact List.nil_sublist _
  | _ => simp [Query.take?] at h

/-- An element that takes all that is left records its name, if it has one. -/
theorem names_restBindings {k : ElementKind} (h : k.isCatchAll = true) (index : Nat) :
    (q.restBindings k index).map (·.name) = k.names := by
  cases k <;> first | rfl | simp [ElementKind.isCatchAll] at h

/-- The names that elements record, in their order. -/
def namesOf (es : List PatternElement) : List (List Char) := es.flatMap (·.kind.names)

theorem names_of_finish {index : Nat} {afterSegment : Bool} {o : Outcome}
    (h : q.finish index afterSegment = some o) : o.bindings = [] := by
  unfold Query.finish at h
  split at h
  · obtain rfl := Option.some.inj (Option.ite_none_left_eq_some.mp h).2
    rfl
  · obtain rfl := Option.some.inj (Option.ite_none_right_eq_some.mp h).2
    rfl

/-- **Names are recorded in the order of the pattern**, none more often than the pattern has it. -/
theorem names_of_search {es : List PatternElement} {index : Nat} {afterSegment : Bool}
    {o : Outcome} (ho : search q es index afterSegment = some o) :
    (o.bindings.map (·.name)).Sublist (namesOf es) := by
  have hcons : ∀ {l : List (List Char)} (e : PatternElement) (after : List PatternElement),
      l.Sublist (namesOf after) → l.Sublist (namesOf (e :: after)) := by
    intro l e after h
    exact h.trans (List.sublist_append_right ..)
  induction es using search_induction generalizing index afterSegment o with
  | nil =>
    rw [names_of_finish (search_nil index afterSegment ▸ ho)]
    exact List.nil_sublist _
  | separator e after hkind ih =>
    exact hcons e after (ih ((search_separator_eq_some hkind).mp ho).2)
  | wildcard e after hkind ih =>
    rcases (search_wildcard_eq_some hkind).mp ho with ⟨s, -, -, ho⟩ | ⟨-, -, ho⟩
    · exact hcons e after (ih ho)
    · rw [names_of_finish ho]
      exact List.nil_sublist _
  | lastSegments e hkind =>
    rw [search_lastSegments hkind] at ho
    rw [names_of_finish ho]
    exact List.nil_sublist _
  | segments e next later hkind ihnext ihlater =>
    obtain ⟨r, -, ho⟩ := exists_restart hkind ho
    cases r with
    | atIndex i => exact hcons e _ (ihnext ho)
    | pastSeparator => exact hcons e _ (hcons next later (ihlater ho))
  | catchAll e after hkind =>
    obtain ⟨-, rfl⟩ := (search_catchAll_eq_some hkind).mp ho
    refine (names_recorded q _).trans ?_
    rw [names_restBindings hkind]
    exact List.sublist_append_left _ _
  | takes e after hkind ih =>
    obtain ⟨s, bs, o', -, hbs, ho', rfl⟩ := (search_takes_eq_some hkind).mp ho
    rw [Outcome.prepend, List.map_append]
    exact (names_of_take? hbs).append (ih ho')

/-! ### Records -/

theorem setPair_of_notMem {β : Type} {l : List (List Char × β)} {name : List Char} {b : β}
    (h : name ∉ l.map Prod.fst) : setPair l name b = l ++ [(name, b)] := by
  induction l with
  | nil => rfl
  | cons e rest ih =>
    obtain ⟨n, old⟩ := e
    obtain ⟨hn, hrest⟩ := not_or.mp (mt List.mem_cons.mpr h)
    rw [setPair, if_neg (Ne.symm hn), ih hrest, List.cons_append]

/-- **Bindings with different names are all kept**, in their order; matrix variables are only kept
where there are some. -/
theorem ofBindings_eq {bs : List Binding} (h : (bs.map (·.name)).Nodup) :
    MatchInfo.ofBindings bs = ⟨bs.map fun b => (b.name, b.value),
      (bs.filter (·.matrix ≠ [])).map fun b => (b.name, b.matrix)⟩ := by
  induction bs using List.reverseRecOn with
  | nil => rfl
  | append_singleton bs b ih =>
    rw [List.map_append, List.nodup_append] at h
    obtain ⟨hbs, -, hdisjoint⟩ := h
    have hname : b.name ∉ bs.map (·.name) := fun hmem => hdisjoint _ hmem _ (by simp) rfl
    have hvalues : b.name ∉ (bs.map fun b => (b.name, b.value)).map Prod.fst := by
      simpa using hname
    have hmatrices : b.name ∉
        ((bs.filter (·.matrix ≠ [])).map fun b => (b.name, b.matrix)).map Prod.fst := by
      intro hmem
      simp only [List.map_map, List.mem_map, List.mem_filter] at hmem
      obtain ⟨b', ⟨hb', -⟩, heq⟩ := hmem
      exact hname (List.mem_map.mpr ⟨b', hb', heq⟩)
    have hfold : MatchInfo.ofBindings (bs ++ [b]) = (MatchInfo.ofBindings bs).bind b :=
      List.foldl_concat ..
    rw [hfold, ih hbs, MatchInfo.bind, setPair_of_notMem hvalues, List.map_append]
    by_cases hb : b.matrix = []
    · simp [hb]
    · rw [if_neg hb, setPair_of_notMem hmatrices]
      simp [hb]

/-- What a single binding records. -/
theorem ofBindings_singleton (b : Binding) : MatchInfo.ofBindings [b]
    = ⟨[(b.name, b.value)], if b.matrix = [] then [] else [(b.name, b.matrix)]⟩ := by
  rw [ofBindings_eq (by simp)]
  by_cases hb : b.matrix = [] <;> simp [hb]

end PathRouting
