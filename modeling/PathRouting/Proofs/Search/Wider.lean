import Mathlib.Data.List.Forall2
import PathRouting.Proofs.Search.Basic

/-!
# Elements that take more

When elements are replaced by others of which each takes at least the segments that the one before it
took, every way to match is left open: the new elements match whatever the old ones did.

## Main definitions

* `Query.Widens` — that one element takes what another takes.

## Main results

* `isSome_search_of_widens` — what elements match, elements that take more match too.
-/

namespace PathRouting

variable {q : Query} {k k' : ElementKind}

/-- Whether two elements are the same, or each takes one segment, the second all that the first
takes. -/
def Query.Widens (q : Query) (k k' : ElementKind) : Prop :=
  k = k' ∨ k.takes = true ∧ k'.takes = true ∧
    ∀ s, (q.take? s k).isSome = true → (q.take? s k').isSome = true

namespace Query.Widens

/-- An element that takes no segment stays as it is. -/
theorem eq (h : q.Widens k k') (hkind : k.takes = false) : k = k' :=
  h.resolve_right fun ⟨htakes, _⟩ => by simp [htakes] at hkind

theorem eq_of_eq (h : q.Widens k k') {kind : ElementKind} (hkind : k = kind)
    (hstays : kind.takes = false) : k' = kind :=
  hkind ▸ (h.eq (hkind ▸ hstays)).symm

theorem takes (h : q.Widens k k') (hkind : k.takes = true) : k'.takes = true := by
  rcases h with rfl | ⟨-, htakes, -⟩
  · exact hkind
  · exact htakes

theorem isSome_take? (h : q.Widens k k') {s : Segment} (hs : (q.take? s k).isSome = true) :
    (q.take? s k').isSome = true := by
  rcases h with rfl | ⟨-, -, htake⟩
  · exact hs
  · exact htake s hs

/-- Separators are the same in both. -/
theorem isSeparator (h : q.Widens k k') : k.isSeparator = k'.isSeparator := by
  rcases h with rfl | ⟨hkind, hkind', -⟩
  · rfl
  · cases k <;> cases k' <;> first | rfl | simp [ElementKind.takes] at hkind hkind'

end Query.Widens

/-- **What elements match, elements that take more match too.** -/
theorem isSome_search_of_widens {es es' : List PatternElement}
    (hwidens : List.Forall₂ (fun e e' => q.Widens e.kind e'.kind) es es') {index : Nat}
    {afterSegment : Bool} (h : (search q es index afterSegment).isSome = true) :
    (search q es' index afterSegment).isSome = true := by
  induction es using search_induction generalizing es' index afterSegment with
  | nil =>
    obtain rfl := List.forall₂_nil_left_iff.mp hwidens
    exact h
  | separator e after hkind ih =>
    obtain ⟨e', after', he, hafter, rfl⟩ := List.forall₂_cons_left_iff.mp hwidens
    have hkind' := he.eq_of_eq hkind rfl
    rw [search_separator hkind] at h
    rw [search_separator hkind']
    split at h
    · next hsep =>
      rw [if_pos hsep]
      exact ih hafter h
    · simp at h
  | wildcard e after hkind ih =>
    obtain ⟨e', after', he, hafter, rfl⟩ := List.forall₂_cons_left_iff.mp hwidens
    have hkind' := he.eq_of_eq hkind rfl
    have hempty : after.isEmpty = after'.isEmpty := by
      rw [Bool.eq_iff_iff, List.isEmpty_iff, List.isEmpty_iff, ← List.length_eq_zero_iff,
        ← List.length_eq_zero_iff, hafter.length_eq]
    rw [search_wildcard hkind, hempty] at h
    rw [search_wildcard hkind']
    rcases hs : q.segment? index with _ | s
    · simpa only [hs] using h
    · simp only [hs] at h
      split at h
      · simp at h
      · next hvalue =>
        dsimp only
        rw [if_neg hvalue]
        exact ih hafter h
  | lastSegments e hkind =>
    obtain ⟨e', after', he, hafter, rfl⟩ := List.forall₂_cons_left_iff.mp hwidens
    obtain rfl := List.forall₂_nil_left_iff.mp hafter
    have hkind' := he.eq_of_eq hkind rfl
    rw [search_lastSegments hkind] at h
    rwa [search_lastSegments hkind']
  | segments e next later hkind ihnext ihlater =>
    obtain ⟨e', after', he, hafter, rfl⟩ := List.forall₂_cons_left_iff.mp hwidens
    obtain ⟨next', later', hnext, hlater, rfl⟩ := List.forall₂_cons_left_iff.mp hafter
    have hkind' := he.eq_of_eq hkind rfl
    have hrestarts : restarts q index next' = restarts q index next := by
      rw [restarts, restarts, hnext.isSeparator]
    obtain ⟨o, ho⟩ := Option.isSome_iff_exists.mp h
    obtain ⟨r, hr, hattempt⟩ := exists_restart hkind ho
    rw [Option.isSome_iff_exists]
    refine exists_search_of_restart hkind' (hrestarts ▸ hr) (Option.isSome_iff_exists.mp ?_)
    have hsome := Option.isSome_of_eq_some hattempt
    cases r with
    | atIndex i => exact ihnext hafter hsome
    | pastSeparator => exact ihlater hlater hsome
  | catchAll e after hkind =>
    obtain ⟨e', after', he, hafter, rfl⟩ := List.forall₂_cons_left_iff.mp hwidens
    have hsame : e.kind = e'.kind := he.eq (by
      generalize e.kind = k at hkind
      cases k <;> first | rfl | simp [ElementKind.isCatchAll] at hkind)
    rw [search_catchAll hkind] at h
    rwa [search_catchAll (hsame ▸ hkind), ← hsame]
  | takes e after hkind ih =>
    obtain ⟨e', after', he, hafter, rfl⟩ := List.forall₂_cons_left_iff.mp hwidens
    rw [search_takes hkind] at h
    rw [search_takes (he.takes hkind)]
    rcases hs : q.segment? index with _ | s
    · simp [hs] at h
    rcases hbs : q.take? s e.kind with _ | bs
    · simp [hs, hbs] at h
    obtain ⟨bs', hbs'⟩ := Option.isSome_iff_exists.mp
      (he.isSome_take? (Option.isSome_of_eq_some hbs))
    simp only [hs, hbs, Option.bind_some, Option.isSome_map] at h
    simp only [Option.bind_some, hbs', Option.isSome_map]
    exact ih hafter h

end PathRouting
