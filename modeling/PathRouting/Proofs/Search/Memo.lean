import PathRouting.Pattern.Match
import PathRouting.Proofs.Pattern.Chain
import Std.Data.HashSet.Lemmas

/-!
# Remembered failures

The search that runs remembers which attempts of a `**` have failed, by the place of the first
element and the index.  An element is known by its place, and what an attempt comes to depends on
nothing but the elements and the index, so a remembered failure would fail again: the search finds
what the plain search finds.

## Main definitions

* `Failures.Sound` — what is remembered as failed does fail.

## Main results

* `searchMemo_sound` — the search that remembers agrees with the plain one, and what it remembers
  stays sound.
* `run_eq_search` — a pattern is matched as by the plain search.
-/

namespace PathRouting

variable {q : Query} {all : List PatternElement}

/-- Only before the end of a pattern it matters whether a segment was taken last. -/
theorem search_cons_flag (q : Query) (e : PatternElement) (after : List PatternElement)
    (index : Nat) (f g : Bool) : search q (e :: after) index f = search q (e :: after) index g := by
  rw [search.eq_def, search.eq_def]

/-! ### Elements known by their places -/

/-- Elements at one place of a pattern are the same, and so is all that follows them. -/
theorem suffix_unique (hall : all.Pairwise (·.position < ·.position)) {e e' : PatternElement}
    {after after' : List PatternElement} (h : e :: after <:+ all) (h' : e' :: after' <:+ all)
    (hposition : e.position = e'.position) : e :: after = e' :: after' := by
  -- the shorter of the two ends lies within the longer one; were it shorter, its place would differ
  have key : ∀ {e e' : PatternElement} {after after' : List PatternElement}, e :: after <:+ all →
      e.position = e'.position → e' :: after' <:+ e :: after → e :: after = e' :: after' := by
    intro e e' after after' h hposition hsub
    rcases List.suffix_cons_iff.mp hsub with heq | hsub
    · exact heq.symm
    · have hmem : e' ∈ after := hsub.mem List.mem_cons_self
      have := List.rel_of_pairwise_cons (hall.sublist h.sublist) hmem
      omega
  rcases List.suffix_or_suffix_of_suffix h h' with hsub | hsub
  · exact (key h' hposition.symm hsub).symm
  · exact key h hposition hsub

/-! ### Sound memories -/

/-- What is remembered as failed does fail, wherever in the pattern it stands. -/
def Failures.Sound (q : Query) (all : List PatternElement) (failed : Failures) : Prop :=
  ∀ e after index, e :: after <:+ all → failed.contains (e.position, index) = true →
    search q (e :: after) index false = none

namespace Failures

theorem sound_empty : Sound q all ∅ := by
  intro e after index _ h
  simp at h

/-- A failed attempt may be remembered. -/
theorem Sound.insert (hall : all.Pairwise (·.position < ·.position)) {failed : Failures}
    (h : Sound q all failed) {e : PatternElement} {after : List PatternElement} {index : Nat}
    (hsuffix : e :: after <:+ all) (hfail : search q (e :: after) index false = none) :
    Sound q all (failed.insert (e.position, index)) := by
  intro e' after' index' hsuffix' hmem
  rw [Std.HashSet.contains_insert, Bool.or_eq_true, beq_iff_eq, Prod.mk.injEq] at hmem
  rcases hmem with ⟨hposition, rfl⟩ | hmem
  · rw [← suffix_unique hall hsuffix hsuffix' hposition]
    exact hfail
  · exact h e' after' index' hsuffix' hmem

/-- A guarded attempt comes to what the attempt comes to. -/
theorem guarded_sound (hall : all.Pairwise (·.position < ·.position)) {e : PatternElement}
    {after : List PatternElement} {index : Nat} (hsuffix : e :: after <:+ all)
    {attempt : Failures → Option Outcome × Failures}
    (hattempt : ∀ failed, Sound q all failed →
      (attempt failed).1 = search q (e :: after) index false ∧ Sound q all (attempt failed).2)
    {failed : Failures} (h : Sound q all failed) :
    (guarded (e.position, index) attempt failed).1 = search q (e :: after) index false ∧
      Sound q all (guarded (e.position, index) attempt failed).2 := by
  unfold guarded
  split
  · next hmem => exact ⟨(h e after index hsuffix hmem).symm, h⟩
  · obtain ⟨hfst, hsnd⟩ := hattempt failed h
    split
    · next failed' heq =>
      rw [heq] at hfst hsnd
      exact ⟨hfst, hsnd.insert hall hsuffix hfst.symm⟩
    · next found _ => exact ⟨hfst, hsnd⟩

theorem guardedAt_sound (hall : all.Pairwise (·.position < ·.position))
    {es : List PatternElement} {index : Nat} (hsuffix : es <:+ all)
    {attempt : Failures → Option Outcome × Failures}
    (hattempt : ∀ failed, Sound q all failed →
      (attempt failed).1 = search q es index false ∧ Sound q all (attempt failed).2)
    {failed : Failures} (h : Sound q all failed) :
    (guardedAt es index attempt failed).1 = search q es index false ∧
      Sound q all (guardedAt es index attempt failed).2 := by
  cases es with
  -- the end of a pattern has no place, so it is not remembered
  | nil => exact hattempt failed h
  | cons e after => exact guarded_sound hall hsuffix hattempt h

end Failures

/-! ### The search that remembers -/

section Equations

variable {e : PatternElement}

theorem searchMemo_separator (h : e.kind = .separator) (after : List PatternElement)
    (index : Nat) (afterSegment : Bool) (failed : Failures) :
    searchMemo q (e :: after) index afterSegment failed
      = if q.isSeparator index then searchMemo q after (index + 1) false failed
        else (none, failed) := by
  rw [searchMemo.eq_def]
  simp only [h]

theorem searchMemo_wildcard (h : e.kind = .wildcard) (after : List PatternElement) (index : Nat)
    (afterSegment : Bool) (failed : Failures) :
    searchMemo q (e :: after) index afterSegment failed
      = match q.segment? index with
        | some s =>
          if !after.isEmpty && s.value.isEmpty then (none, failed)
          else searchMemo q after (index + 1) true failed
        | none =>
          (if q.length ≤ index && after.isEmpty then q.finish index false else none, failed) := by
  rw [searchMemo.eq_def]
  cases hs : q.segment? index <;> simp only [h, hs]

theorem searchMemo_lastSegments (h : e.kind = .segments) (index : Nat) (afterSegment : Bool)
    (failed : Failures) :
    searchMemo q [e] index afterSegment failed = (q.finish q.length false, failed) := by
  rw [searchMemo.eq_def]
  simp only [h]

theorem searchMemo_segments (h : e.kind = .segments) (next : PatternElement)
    (later : List PatternElement) (index : Nat) (afterSegment : Bool) (failed : Failures) :
    searchMemo q (e :: next :: later) index afterSegment failed
      = failed.guarded (e.position, index) (firstWay (fun
          | .atIndex i =>
            Failures.guardedAt (next :: later) i (searchMemo q (next :: later) i false)
          | .pastSeparator => Failures.guardedAt later 0 (searchMemo q later 0 false))
          (restarts q index next)) := by
  obtain ⟨position, kind⟩ := e
  obtain rfl : kind = .segments := h
  exact searchMemo.eq_def ..

theorem searchMemo_catchAll (h : e.kind.isCatchAll = true) (after : List PatternElement)
    (index : Nat) (afterSegment : Bool) (failed : Failures) :
    searchMemo q (e :: after) index afterSegment failed
      = (q.finishWithRest index (q.restBindings e.kind index), failed) := by
  rw [searchMemo.eq_def]
  obtain ⟨position, k⟩ := e
  cases k <;> first | rfl | simp [ElementKind.isCatchAll] at h

theorem searchMemo_takes (h : e.kind.takes = true) (after : List PatternElement) (index : Nat)
    (afterSegment : Bool) (failed : Failures) :
    searchMemo q (e :: after) index afterSegment failed
      = match (q.segment? index).bind fun s => q.take? s e.kind with
        | some bs =>
          ((searchMemo q after (index + 1) true failed).1.map (·.prepend bs),
            (searchMemo q after (index + 1) true failed).2)
        | none => (none, failed) := by
  rw [searchMemo.eq_def]
  obtain ⟨position, k⟩ := e
  cases k <;> first | rfl | simp [ElementKind.takes] at h

end Equations

/-- **Remembering failures changes nothing.**  From a sound memory the search finds what the plain
search finds, and leaves a sound memory. -/
theorem searchMemo_sound (hall : all.Pairwise (·.position < ·.position))
    (es : List PatternElement) (hsuffix : es <:+ all) (index : Nat) (afterSegment : Bool)
    {failed : Failures} (h : failed.Sound q all) :
    (searchMemo q es index afterSegment failed).1 = search q es index afterSegment ∧
      (searchMemo q es index afterSegment failed).2.Sound q all := by
  induction es using search_induction generalizing index afterSegment failed with
  | nil =>
    rw [searchMemo, search_nil]
    exact ⟨rfl, h⟩
  | separator e after hkind ih =>
    rw [search_separator hkind, searchMemo_separator hkind]
    split
    · exact ih ((List.suffix_cons e after).trans hsuffix) (index + 1) false h
    · exact ⟨rfl, h⟩
  | wildcard e after hkind ih =>
    rw [search_wildcard hkind, searchMemo_wildcard hkind]
    cases q.segment? index with
    | none => exact ⟨rfl, h⟩
    | some s =>
      dsimp only
      split
      · exact ⟨rfl, h⟩
      · exact ih ((List.suffix_cons e after).trans hsuffix) (index + 1) true h
  | lastSegments e hkind =>
    rw [search_lastSegments hkind, searchMemo_lastSegments hkind]
    exact ⟨rfl, h⟩
  | segments e next later hkind ihnext ihlater =>
    have hnext : next :: later <:+ all := (List.suffix_cons e _).trans hsuffix
    have hlater : later <:+ all := (List.suffix_cons next later).trans hnext
    -- failures are remembered without the flag, which does not matter at a `**`
    rw [search_cons_flag q e _ index afterSegment false, searchMemo_segments hkind]
    refine Failures.guarded_sound hall hsuffix (fun failed hfailed => ?_) h
    rw [search_segments hkind]
    refine firstWay_sound (fun r _ failed hfailed => ?_) hfailed
    cases r with
    | atIndex i =>
      exact Failures.guardedAt_sound hall hnext (fun failed => ihnext hnext i false) hfailed
    | pastSeparator =>
      exact Failures.guardedAt_sound hall hlater (fun failed => ihlater hlater 0 false) hfailed
  | catchAll e after hkind =>
    rw [search_catchAll hkind, searchMemo_catchAll hkind]
    exact ⟨rfl, h⟩
  | takes e after hkind ih =>
    obtain ⟨hfst, hsnd⟩ := ih ((List.suffix_cons e after).trans hsuffix) (index + 1) true h
    rw [search_takes hkind, searchMemo_takes hkind]
    cases (q.segment? index).bind fun s => q.take? s e.kind with
    | none => exact ⟨rfl, h⟩
    | some bs =>
      refine ⟨?_, hsnd⟩
      dsimp only [Option.bind_some]
      rw [hfst]

section Parsed

variable {o : PatternOptions} {text : List Char} {p : Pattern}

/-- From an empty memory every end of a parsed pattern is matched as by the plain search. -/
theorem searchMemo_fst_of_parse (h : Pattern.parse o text = .ok p) (q : Query)
    {es : List PatternElement} (hsuffix : es <:+ p.elements) (index : Nat) (afterSegment : Bool) :
    (searchMemo q es index afterSegment ∅).1 = search q es index afterSegment :=
  (searchMemo_sound (pairwise_position_of_parse h) es hsuffix index afterSegment
    Failures.sound_empty).1

/-- A parsed pattern is matched as by the plain search. -/
theorem run_of_parse (h : Pattern.parse o text = .ok p) (path : Path) (extract ofStart : Bool) :
    p.run path extract ofStart = search (p.query path extract ofStart) p.elements 0 false :=
  searchMemo_fst_of_parse h _ (List.suffix_refl _) 0 false

/-- **Remembering failures is not seen from outside.**  Whether a path or the start of one is
matched, and whether captures are recorded or not, a parsed pattern has the outcome of the plain
search: it succeeds when that does, with the same bindings in the same order and the same rest.
The same holds of every end of the pattern from every index. -/
theorem run_eq_search (h : Pattern.parse o text = .ok p) (path : Path) (extract ofStart : Bool) :
    p.run path extract ofStart = search (p.query path extract ofStart) p.elements 0 false ∧
    ∀ es, es <:+ p.elements → ∀ index afterSegment,
      (searchMemo (p.query path extract ofStart) es index afterSegment ∅).1
        = search (p.query path extract ofStart) es index afterSegment :=
  ⟨run_of_parse h path extract ofStart,
    fun _ hsuffix index afterSegment => searchMemo_fst_of_parse h _ hsuffix index afterSegment⟩

/-- Two `**` in one pattern, the second of which is tried from several places of `/a/a/b`. -/
theorem run_eq_search_twoSegments : ∃ p path,
    Pattern.parse .default ['/', '*', '*', '/', 'a', '/', '*', '*', '/', '{', 'x', '}'] = .ok p ∧
    Path.parse ['/', 'a', '/', 'a', '/', 'b'] .http = .ok path ∧
    p.run path true true = search (p.query path true true) p.elements 0 false := by
  have h : Pattern.parse .default
      ['/', '*', '*', '/', 'a', '/', '*', '*', '/', '{', 'x', '}'] = .ok _ := rfl
  have hpath : Path.parse ['/', 'a', '/', 'a', '/', 'b'] .http = .ok _ := rfl
  exact ⟨_, _, h, hpath, (run_eq_search h _ true true).1⟩

end Parsed

end PathRouting
