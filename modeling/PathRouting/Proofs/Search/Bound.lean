import Mathlib.Data.List.Perm.Subperm
import Mathlib.Data.List.ProdSigma
import PathRouting.Proofs.Search.Once

/-!
# How many attempts are made

Every attempt is made at an element of the pattern and at an index of the path or the end of it.
Since none is made twice, there are at most as many attempts as there are such pairs: the work grows
with the length of the path, however many `**` the pattern has.

## Main definitions

* `Trace.Within` — whether all attempts are at some elements and within a path.

## Main results

* `within_searchTraced` — the search stays within the elements and the path.
* `length_entered_le` — **the number of attempts**.
-/

namespace PathRouting

variable {q : Query} {e : PatternElement} {es after : List PatternElement} {index : Nat}
  {t : Trace} {places : List Nat}

/-- Whether all attempts have been made at elements that stand at the places, and within a path or
at its end. -/
def Trace.Within (t : Trace) (places : List Nat) (length : Nat) : Prop :=
  ∀ key ∈ t.entered, key.1 ∈ places ∧ key.2 ≤ length

namespace Trace

theorem Within.enter (h : t.Within places q.length) (he : e.position ∈ places)
    (hindex : index ≤ q.length) : (t.enter e index).Within places q.length := by
  intro key hkey
  rcases mem_enter.mp hkey with rfl | hkey
  · exact ⟨he, hindex⟩
  · exact h key hkey

variable {length : Nat} {attempt : Trace → Option Outcome × Trace}

theorem Within.guarded {key : Nat × Nat} (h : t.Within places length)
    (hattempt : (attempt t).2.Within places length) :
    (t.guarded key attempt).2.Within places length := by
  rw [Trace.guarded]
  split
  · exact h
  · split
    · next hfound =>
      rw [hfound] at hattempt
      exact hattempt
    · exact hattempt

theorem Within.guardedAt (h : t.Within places length)
    (hattempt : (attempt t).2.Within places length) (es : List PatternElement) (index : Nat) :
    (Trace.guardedAt es index attempt t).2.Within places length := by
  cases es with
  | nil => exact hattempt
  | cons e after => exact h.guarded hattempt

end Trace

/-- **The search stays within the elements and the path.** -/
theorem within_searchTraced (hes : positions es ⊆ places) (hindex : index ≤ q.length)
    (afterSegment : Bool) (h : t.Within places q.length) :
    (searchTraced q es index afterSegment t).2.Within places q.length := by
  induction es using search_induction generalizing index afterSegment t with
  | nil =>
    rw [searchTraced_nil]
    exact h
  | separator e after hkind ih =>
    obtain ⟨he, hafter⟩ := List.cons_subset.mp hes
    rw [searchTraced_separator hkind]
    split
    · next hseparator =>
      exact ih hafter (Query.lt_of_isSeparator hseparator) false (h.enter he hindex)
    · exact h.enter he hindex
  | wildcard e after hkind ih =>
    obtain ⟨he, hafter⟩ := List.cons_subset.mp hes
    rw [searchTraced_wildcard hkind]
    split
    · next s hsegment =>
      split
      · exact h.enter he hindex
      · exact ih hafter (Query.lt_of_segment? hsegment) true (h.enter he hindex)
    · exact h.enter he hindex
  | lastSegments e hkind =>
    rw [searchTraced_lastSegments hkind]
    exact h.enter (hes List.mem_cons_self) hindex
  | segments e next later hkind ihnext ihlater =>
    obtain ⟨he, hnext⟩ := List.cons_subset.mp hes
    have hlater : positions later ⊆ places := (List.cons_subset.mp hnext).2
    rw [searchTraced_segments hkind]
    have hentered := h.enter he hindex
    refine hentered.guarded ?_
    refine (firstWay_keeps (fun t : Trace => t.Within places q.length)
      (fun t => t.Within places q.length) (fun r hr t ht => ?_) (fun _ ht => ht) hentered).1
    have hattempt : (attemptTraced q next later r t).2.Within places q.length := by
      rcases mem_restarts.mp hr with ⟨i, -, hle, rfl⟩ | ⟨-, -, rfl⟩ | ⟨-, -, rfl⟩
      · exact ht.guardedAt (ihnext hnext hle false ht) (next :: later) i
      · have hle : index - 1 ≤ q.length := by omega
        exact ht.guardedAt (ihnext hnext hle false ht) (next :: later) (index - 1)
      · exact ht.guardedAt (ihlater hlater (Nat.zero_le _) false ht) later 0
    exact ⟨hattempt, fun _ => hattempt⟩
  | catchAll e after hkind =>
    rw [searchTraced_catchAll hkind]
    exact h.enter (hes List.mem_cons_self) hindex
  | takes e after hkind ih =>
    obtain ⟨he, hafter⟩ := List.cons_subset.mp hes
    rw [searchTraced_takes hkind]
    split
    · next bs htaken =>
      obtain ⟨s, hsegment, -⟩ := Option.bind_eq_some_iff.mp htaken
      exact ih hafter (Query.lt_of_segment? hsegment) true (h.enter he hindex)
    · exact h.enter he hindex

/-! ### Patterns -/

variable {o : PatternOptions} {text : List Char} {p : Pattern}

theorem length_runTraced_le (h : Pattern.parse o text = .ok p) (path : Path)
    (extract ofStart : Bool) :
    (p.runTraced path extract ofStart).2.length ≤ p.elements.length * (path.length + 1) := by
  have hempty : Trace.empty.Within (positions p.elements) (p.query path extract ofStart).length :=
    fun _ hkey => absurd hkey List.not_mem_nil
  have hwithin := within_searchTraced (List.Subset.refl _) (Nat.zero_le _) false hempty
  have hlength : (p.query path extract ofStart).length = path.length := by
    simp [Query.length, Pattern.query, Path.length]
  have hsubset : (p.runTraced path extract ofStart).2
      ⊆ positions p.elements ×ˢ List.range (path.length + 1) := by
    intro key hkey
    obtain ⟨hplace, hindex⟩ := hwithin key hkey
    rw [hlength] at hindex
    exact List.mem_product.mpr ⟨hplace, List.mem_range.mpr (Nat.lt_succ_of_le hindex)⟩
  calc (p.runTraced path extract ofStart).2.length
      ≤ (positions p.elements ×ˢ List.range (path.length + 1)).length :=
        ((nodup_runTraced h path extract ofStart).subperm hsubset).length_le
    _ = p.elements.length * (path.length + 1) := by
        rw [List.length_product, positions, List.length_map, List.length_range]

/-- **The number of attempts**: there is at most one for each element and each index of the path, the
end of the path included. -/
theorem length_entered_le (h : Pattern.parse o text = .ok p) (path : Path) :
    (∀ extract, (p.matchWithTraced path extract).2.length
      ≤ p.elements.length * (path.length + 1)) ∧
    (p.matchStartTraced path).2.length ≤ p.elements.length * (path.length + 1) :=
  ⟨fun extract => (p.matchWithTraced_snd path extract).length_le.trans
      (length_runTraced_le h path extract false),
    (p.matchStartTraced_snd path).length_le.trans (length_runTraced_le h path true true)⟩

end PathRouting
