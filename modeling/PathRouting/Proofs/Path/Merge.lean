import PathRouting.Path.Matrix

/-!
# Matrix variables put together

The variables of several segments are put together name by name: a name has the values that all the
segments give it, in the order of the segments.

## Main definitions

* `Matrix.Gathers` — variables that are those of a row of entries.

## Main results

* `values?_merge` — the values of a name after other variables were added.
* `gathers_merge` — variables added to none are gathered.
-/

namespace PathRouting.Matrix

variable {m entries : Matrix}

/-- The values of a name in a row of entries, in which it may come more than once. -/
def collected (entries : Matrix) (name : List Char) : List (List Char) :=
  (entries.filter (·.1 = name)).flatMap Prod.snd

/-- Whether variables are those of a row of entries: every name once, with the values of all of its
entries in their order. -/
structure Gathers (entries m : Matrix) : Prop where
  /-- No name comes twice. -/
  nodup : (m.map Prod.fst).Nodup
  /-- A name has the values of its entries, if there are any. -/
  values : ∀ name, m.values? name =
    if name ∈ entries.map Prod.fst then some (collected entries name) else none

theorem merge_cons (m : Matrix) (name : List Char) (new : List (List Char)) (entries : Matrix) :
    m.merge ((name, new) :: entries) = (m.addAll name new).merge entries := rfl

/-- Variables added in turn are added as one row of entries. -/
theorem foldl_merge (l : List Matrix) (m : Matrix) : l.foldl merge m = m.merge l.flatten := by
  rw [merge, List.foldl_flatten]
  rfl

/-! ### Names -/

/-- Adding values adds a name, unless it is there. -/
theorem map_fst_addAll (m : Matrix) (name : List Char) (new : List (List Char)) :
    (m.addAll name new).map Prod.fst =
      if name ∈ m.map Prod.fst then m.map Prod.fst else m.map Prod.fst ++ [name] := by
  induction m with
  | nil => simp
  | cons e rest ih =>
    obtain ⟨n, old⟩ := e
    by_cases hn : n = name
    · simp [addAll, hn]
    · rw [addAll, if_neg hn, List.map_cons, ih]
      by_cases hmem : name ∈ rest.map Prod.fst
      · rw [if_pos hmem, if_pos (by simpa using .inr (by simpa using hmem)), List.map_cons]
      · have hnot : name ∉ ((n, old) :: rest).map Prod.fst := by
          rw [List.map_cons, List.mem_cons, not_or]
          exact ⟨Ne.symm hn, hmem⟩
        rw [if_neg hmem, if_neg hnot, List.map_cons, List.cons_append]

/-- No name comes twice when variables are added. -/
theorem nodup_merge (h : (m.map Prod.fst).Nodup) (entries : Matrix) :
    ((m.merge entries).map Prod.fst).Nodup := by
  induction entries generalizing m with
  | nil => exact h
  | cons e rest ih =>
    obtain ⟨name, new⟩ := e
    rw [merge_cons]
    refine ih ?_
    rw [map_fst_addAll]
    split
    · exact h
    · next hname =>
      refine List.nodup_append.mpr ⟨h, by simp, ?_⟩
      rintro n hn _ hmem rfl
      exact hname (List.mem_singleton.mp hmem ▸ hn)

/-! ### Values -/

theorem collected_cons_self (name : List Char) (new : List (List Char)) (entries : Matrix) :
    collected ((name, new) :: entries) name = new ++ collected entries name := by
  simp [collected]

theorem collected_cons_of_ne {n name : List Char} (h : n ≠ name) (new : List (List Char))
    (entries : Matrix) : collected ((n, new) :: entries) name = collected entries name := by
  simp [collected, h]

/-- The values of a name after other variables were added. -/
theorem values?_merge (m entries : Matrix) (name : List Char) : (m.merge entries).values? name =
    if name ∈ entries.map Prod.fst then some ((m.values? name).getD [] ++ collected entries name)
      else m.values? name := by
  induction entries generalizing m with
  | nil => rfl
  | cons e rest ih =>
    obtain ⟨n, new⟩ := e
    rw [merge_cons, ih, List.map_cons]
    by_cases hn : n = name
    · subst hn
      rw [values?_addAll_self, if_pos List.mem_cons_self, collected_cons_self]
      split
      · simp
      · next hnot =>
        have hnone : collected rest n = [] := by
          simp only [collected, List.flatMap_eq_nil_iff, List.mem_filter, decide_eq_true_eq]
          rintro ⟨n', vs⟩ ⟨hmem, rfl⟩
          exact absurd (List.mem_map_of_mem hmem) hnot
        rw [hnone, List.append_nil]
    · rw [values?_addAll_of_ne m (Ne.symm hn), collected_cons_of_ne hn]
      simp only [List.mem_cons, Ne.symm hn, false_or]

/-- **Variables added to none are gathered.** -/
theorem gathers_merge (entries : Matrix) : Gathers entries (merge [] entries) where
  nodup := nodup_merge (m := []) List.nodup_nil entries
  values := fun name => by
    rw [values?_merge]
    simp [values?]

/-- There are variables as soon as there are entries. -/
theorem Gathers.eq_nil_iff (h : Gathers entries m) : m = [] ↔ entries = [] := by
  constructor
  · rintro rfl
    rcases entries with _ | ⟨⟨name, values⟩, rest⟩
    · rfl
    · have hvalues := h.values name
      simp [values?] at hvalues
  · rintro rfl
    rcases m with _ | ⟨⟨name, values⟩, rest⟩
    · rfl
    · have hvalues := h.values name
      simp [values?] at hvalues

end PathRouting.Matrix
