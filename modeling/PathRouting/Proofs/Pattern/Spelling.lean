import PathRouting.Proofs.Path.Split
import PathRouting.Proofs.Pattern.Append
import PathRouting.Proofs.Pattern.Layout
import PathRouting.Proofs.Pattern.Match
import PathRouting.Proofs.Search.Offset

/-!
# Text that matches itself

A text without braces, `*` and `?` is a pattern of separators and literals.  Patterns and paths are
cut by two different scans, but such a text is cut at the same places by both, so the pattern
matches the paths that are spelled like the text.

## Main definitions

* `Run.kind` — the element of a pattern that a run stands for.
* `PathOptions.verbatim` — options that leave segments as they are.
* `PathElement.Spells` — an element of a path whose value is the text of another.

## Main results

* `parse_plain` — a text without syntax is a pattern of separators and literals.
* `isMatch_plain` — such a pattern matches what is spelled like its text.
-/

namespace PathRouting

variable {o : PatternOptions} {text : List Char}

/-- Whether a text has no syntax of patterns. -/
def IsPlainText (s : List Char) : Prop := ∀ c ∈ s, c ∉ ['{', '}', '*', '?']

instance (s : List Char) : Decidable (IsPlainText s) :=
  List.decidableBAll (fun c => c ∉ ['{', '}', '*', '?']) s

namespace IsPlainText

variable {s : List Char}

theorem notMem (h : IsPlainText s) {c : Char} (hc : c ∈ ['{', '}', '*', '?']) : c ∉ s :=
  fun hmem => h c hmem hc

/-- Plain text is passed without a cut when the separator is not in it. -/
theorem passes {separator : Char} (h : IsPlainText s) (hsep : separator ∉ s) :
    Braces.outside.Passes separator s .outside := by
  induction s with
  | nil => exact .nil _
  | cons c s ih =>
    obtain ⟨hc, hs⟩ := List.forall_mem_cons.mp h
    obtain ⟨hne, hnot⟩ := not_or.mp (mt List.mem_cons.mpr hsep)
    simp only [List.mem_cons, not_or] at hc
    exact (Braces.Passes.outside hc.1 hc.2.1 (Ne.symm hne)).append (ih hs hnot)

end IsPlainText

/-! ### Reading the pattern -/

/-- The element of a pattern that a run stands for. -/
def Run.kind (caseSensitive : Bool) : Run → ElementKind
  | .separator => .separator
  | .text t => .literal t caseSensitive

theorem Run.fixed_kind (caseSensitive : Bool) (r : Run) : (r.kind caseSensitive).fixed = true := by
  cases r <;> rfl

/-- The runs of a plain text are cut out of it as they are. -/
theorem isPassed_runs {separator : Char} (h : IsPlainText text) :
    ∀ r ∈ runs separator text, r.IsPassed separator := by
  intro r hr
  have hraw : ∀ c ∈ r.raw separator, c ∈ text := fun c hc => by
    rw [← flatMap_raw_runs separator text]
    exact List.mem_flatMap.mpr ⟨r, hr, hc⟩
  cases r with
  | separator =>
    have hsep := h separator (hraw separator (List.mem_singleton_self _))
    simp only [List.mem_cons, not_or] at hsep
    exact ⟨hsep.1, hsep.2.1⟩
  | text t =>
    obtain ⟨hne, hsep⟩ := text_of_mem_runs hr
    exact ⟨hne, IsPlainText.passes (fun c hc => h c (hraw c hc)) hsep⟩

/-- A plain segment is read as a literal. -/
theorem readSegment_plain {t : List Char} (h : IsPlainText t) (names : List (List Char))
    (position : Nat) :
    readSegment o names position t = .ok (.literal t o.caseSensitive, names) := by
  have hstar : t ≠ ['*'] := by
    rintro rfl
    exact h.notMem (c := '*') (by simp) (List.mem_singleton_self _)
  have hplain : (!t.contains '{' && !t.contains '*') = true := by
    simp [h.notMem (c := '{'), h.notMem (c := '*')]
  have hquestion : ¬t.contains '?' = true := by simp [h.notMem (c := '?')]
  rw [readSegment_eq, if_neg hstar, if_pos hplain, if_neg hquestion]

/-- A run of a plain text is placed as its element. -/
theorem place_plain {r : Run} (h : ∀ t, r = .text t → IsPlainText t) {isLast : Bool} {ch : Chain}
    (hopen : ch.isClosed = false) (position : Nat) :
    Chain.place o isLast ch (r.token position)
      = .ok (ch.push position (r.kind o.caseSensitive)) := by
  cases r with
  | separator => exact Chain.place_separator hopen
  | text t =>
    have hplain := h t rfl
    have hsegments : t ≠ ['*', '*'] := by
      rintro rfl
      exact hplain.notMem (c := '*') (by simp) List.mem_cons_self
    have hrest : findRest t = none := findRest_eq_none (hplain.notMem (by simp))
    rw [Run.token, Chain.place_segment hopen hsegments hrest, readSegment_plain hplain]
    rfl

/-- Placing the runs of a plain text adds their elements. -/
theorem placeAll_plain {rs : List Run} (h : ∀ t, .text t ∈ rs → IsPlainText t) {ch : Chain}
    (hopen : ch.isClosed = false) (position : Nat) :
    ∃ ch', Chain.placeAll o ch (Run.tokens position rs) = .ok ch' ∧
      ch'.elements.map (·.kind)
        = (rs.map (Run.kind o.caseSensitive)).reverse ++ ch.elements.map (·.kind) := by
  induction rs generalizing ch position with
  | nil => exact ⟨ch, rfl, rfl⟩
  | cons r rs ih =>
    have hr : ∀ t, r = .text t → IsPlainText t := fun t ht => h t (ht ▸ List.mem_cons_self)
    have hrs : ∀ t, .text t ∈ rs → IsPlainText t := fun t ht => h t (List.mem_cons_of_mem r ht)
    have hpush : (ch.push position (r.kind o.caseSensitive)).isClosed = false := by
      cases r <;> rfl
    obtain ⟨ch', hch', hkinds⟩ := ih hrs hpush (position + r.length)
    refine ⟨ch', ?_, ?_⟩
    · rw [Run.tokens, Chain.placeAll, place_plain hr hopen]
      exact hch'
    · rw [hkinds, Chain.push, List.map_cons, List.map_cons, List.reverse_cons, List.append_assoc]
      rfl

/-- **A text without syntax is a pattern of separators and literals**, cut like a path. -/
theorem parse_plain (h : IsPlainText text) : ∃ p, Pattern.parse o text = .ok p ∧
    p.kinds = (runs o.separator text).map (Run.kind o.caseSensitive) := by
  have htokens : tokens o.separator text = .ok (Run.tokens 0 (runs o.separator text)) := by
    have hruns := tokensFrom_runs (isPassed_runs h) (isChain_runs o.separator text) 0
    rwa [flatMap_raw_runs] at hruns
  have hplain : ∀ t, .text t ∈ runs o.separator text → IsPlainText t := by
    intro t ht c hc
    refine h c ?_
    rw [← flatMap_raw_runs o.separator text]
    exact List.mem_flatMap.mpr ⟨.text t, ht, hc⟩
  have hopen : (Chain.mk [] []).isClosed = false := rfl
  obtain ⟨ch, hch, hkinds⟩ := placeAll_plain (o := o) hplain hopen 0
  refine ⟨_, parse_of_placeAll htokens hch, ?_⟩
  rw [Pattern.kinds, List.map_reverse, hkinds]
  simp

/-! ### Reading the path -/

/-- Options for paths that leave segments as they are. -/
def PathOptions.verbatim (options : PathOptions) : PathOptions :=
  { options with decodeSegments := false, parseMatrixVariables := false }

/-- Without decoding and matrix variables every text is a path. -/
theorem exists_parse_verbatim (options : PathOptions) (text : List Char) :
    ∃ path, Path.parse text options.verbatim = .ok path := by
  have hread : ∀ rs offset, ∃ es,
      PathElement.readRuns options.verbatim offset rs = .ok es := by
    intro rs
    induction rs with
    | nil => exact fun _ => ⟨[], rfl⟩
    | cons r rs ih =>
      intro offset
      cases r with
      | separator =>
        obtain ⟨es, hes⟩ := ih (offset + options.separator.utf8Size)
        exact ⟨_, bind_eq_ok.mpr ⟨es, hes, rfl⟩⟩
      | text t =>
        obtain ⟨es, hes⟩ := ih (offset + Text.byteLength t)
        exact ⟨_, bind_eq_ok.mpr ⟨⟨offset, t, t, []⟩, rfl, bind_eq_ok.mpr ⟨es, hes, rfl⟩⟩⟩
  obtain ⟨es, hes⟩ := hread (runs options.separator text) 0
  exact ⟨_, map_eq_ok.mpr ⟨es, hes, rfl⟩⟩

/-! ### Matching -/

/-- Whether an element of a path has the text of another one as its value; to separators only
separators correspond. -/
inductive PathElement.Spells : PathElement → PathElement → Prop
  /-- A separator corresponds to a separator. -/
  | separator (p p' : Nat) (c c' : Char) : Spells (.separator p c) (.separator p' c')
  /-- A segment has the text of the other as its value. -/
  | segment (s s' : Segment) (value : s'.value = s.raw) : Spells (.segment s) (.segment s')

section Matching

variable {q : Query} {options : PathOptions}

/-- The element for a run matches what is spelled like the run. -/
theorem isSome_takeAt_iff {r : Run} {e : PathElement} (h : r.ReadAs options e) (index : Nat) :
    (q.takeAt (r.kind true) index).isSome = true ↔
      ∃ e', q.elements[index]? = some e' ∧ e.Spells e' := by
  cases h with
  | separator offset =>
    have htake : (q.takeAt (Run.separator.kind true) index).isSome = q.isSeparator index := by
      show (if q.isSeparator index then some [] else none).isSome = _
      cases q.isSeparator index <;> rfl
    rw [htake, Query.isSeparator]
    rcases q.elements[index]? with _ | _ | s'
    · simp
    · simpa using .separator ..
    · simp only [Option.any_some, PathElement.isSeparator_segment, Bool.false_eq_true, false_iff]
      rintro ⟨e', heq, hspells⟩
      obtain rfl := Option.some.inj heq
      cases hspells
  | text s _ =>
    have htake : (q.takeAt ((Run.text s.raw).kind true) index).isSome
        = (q.segment? index).any fun s' => s.raw == s'.value := by
      show ((q.segment? index).bind fun s' =>
        if textMatches true s.raw s'.value then some [] else none).isSome = _
      rcases q.segment? index with _ | s'
      · rfl
      · simp only [Option.bind_some, Option.any_some, textMatches, if_true]
        cases s.raw == s'.value <;> rfl
    rw [htake, Query.segment?]
    rcases q.elements[index]? with _ | _ | s'
    · simp
    · simp only [Option.bind_some, PathElement.segment?, Option.any_none, Bool.false_eq_true,
        false_iff]
      rintro ⟨e', heq, hspells⟩
      obtain rfl := Option.some.inj heq
      cases hspells
    · simp only [Option.bind_some, PathElement.segment?, Option.any_some, beq_iff_eq,
        Option.some.injEq, exists_eq_left']
      constructor
      · exact fun h => .segment s s' h.symm
      · rintro ⟨⟩
        next h => exact h.symm

/-- Elements for runs match the rest of a path when it is spelled like the runs. -/
theorem isSome_search_iff (hq : q.ofStart = false) (htrailing : q.optionalTrailingSeparator = false)
    {rs : List Run} {spelled : List PathElement} (h : List.Forall₂ (Run.ReadAs options) rs spelled)
    {es : List PatternElement} (hes : es.map (·.kind) = rs.map (Run.kind true)) {index : Nat}
    (hindex : index ≤ q.length) (afterSegment : Bool) :
    (search q es index afterSegment).isSome = true ↔
      List.Forall₂ PathElement.Spells spelled (q.elements.toList.drop index) := by
  induction h generalizing es index afterSegment with
  | nil =>
    obtain rfl := List.map_eq_nil_iff.mp hes
    have hend : q.elements.toList.drop index = [] ↔ index = q.length := by
      rw [List.drop_eq_nil_iff, Array.length_toList]
      exact ⟨Nat.le_antisymm hindex, fun h => h.ge⟩
    rw [search_nil, Option.isSome_iff_exists, List.forall₂_nil_left_iff, hend]
    simp only [Query.finish_whole hq, htrailing, Bool.false_eq_true, false_and, and_false, or_false]
    simp
  | @cons r e rs spelled hr hrest ih =>
    obtain ⟨e₀, after, rfl, hkind, hafter⟩ := List.map_eq_cons_iff.mp hes
    have hfixed : e₀.kind.fixed = true := hkind ▸ r.fixed_kind true
    have hbind : (search q (e₀ :: after) index afterSegment).isSome = true ↔
        (q.takeAt (r.kind true) index).isSome = true ∧
          (search q after (index + 1) e₀.kind.takes).isSome = true := by
      rw [search_fixed hfixed, hkind]
      rcases q.takeAt (r.kind true) index with _ | bs <;> simp
    rw [hbind, isSome_takeAt_iff hr]
    rcases Nat.lt_or_eq_of_le hindex with hlt | rfl
    · have hget : q.elements[index]? = some q.elements[index] := Array.getElem?_eq_getElem hlt
      have hdrop : q.elements.toList.drop index
          = q.elements[index] :: q.elements.toList.drop (index + 1) := by
        rw [List.drop_eq_getElem_cons (by rw [Array.length_toList]; exact hlt)]
        rfl
      rw [hget, hdrop, List.forall₂_cons, ih hafter hlt]
      simp
    · have hnone : q.elements[q.length]? = none := Array.getElem?_eq_none (Nat.le_refl _)
      have hdrop : q.elements.toList.drop q.length = [] := by
        rw [List.drop_eq_nil_iff, Array.length_toList]
        exact Nat.le_refl _
      rw [hnone, hdrop]
      simp

end Matching

/-- **A text without syntax matches what is spelled like it**: without trailing separators and with
regard to case it is a pattern that matches the paths with separators where the text has them and
with the values of segments that stand in between. -/
theorem isMatch_plain (hcase : o.caseSensitive = true)
    (htrailing : o.optionalTrailingSeparator = false) (h : IsPlainText text) :
    ∃ p spelled, Pattern.parse o text = .ok p ∧
      Path.parse text o.path.verbatim = .ok spelled ∧
      ∀ path : Path, p.isMatch path = true ↔
        List.Forall₂ PathElement.Spells spelled.elements path.elements := by
  obtain ⟨p, hp, hkinds⟩ := parse_plain (o := o) h
  obtain ⟨spelled, hspelled⟩ := exists_parse_verbatim o.path text
  refine ⟨p, spelled, hp, hspelled, fun path => ?_⟩
  obtain ⟨-, hread, -⟩ := parse_path_ok hspelled
  change List.Forall₂ _ (runs o.separator text) _ at hread
  rw [hcase] at hkinds
  obtain ⟨-, hoptions⟩ := text_of_parse hp
  have hnot : (p.query path false false).optionalTrailingSeparator = false := by
    rw [Pattern.query, hoptions, htrailing]
  have hsearch : (search (p.query path false false) p.elements 0 false).isSome = true ↔
      List.Forall₂ PathElement.Spells spelled.elements path.elements :=
    isSome_search_iff (q := p.query path false false) rfl hnot hread hkinds (Nat.zero_le _) false
  refine Iff.trans ?_ hsearch
  by_cases hne : p.elements = []
  · rw [isMatch_of_elements_nil hne, hoptions, htrailing, hne, search_nil,
      Option.isSome_iff_exists]
    simp only [Query.finish_whole (q := p.query path false false) rfl, hnot, Bool.false_and,
      Bool.or_false, Bool.false_eq_true, false_and, and_false, or_false, exists_and_left,
      exists_eq, and_true, length_query, Path.isEmpty, List.isEmpty_iff]
    exact List.length_eq_zero_iff.symm.trans eq_comm
  by_cases hpath : path.elements = []
  · -- elements that all take one element of a path do not match the empty path
    have hnone : search (p.query path false false) p.elements 0 false = none := by
      refine Option.not_isSome_iff_eq_none.mp fun hsome => hne ?_
      have hspells := hsearch.mp hsome
      rw [hpath, List.forall₂_nil_right_iff] at hspells
      rw [hspells, List.forall₂_nil_right_iff] at hread
      rw [hread, List.map_nil, Pattern.kinds, List.map_eq_nil_iff] at hkinds
      exact hkinds
    rw [Pattern.isMatch, matchWith_eq hp hne, hnone]
    simp
  · rw [isMatch_eq_search hp hne hpath false]

/-- The text `/a//%41`, which the path `/a//%2541` is spelled like. -/
theorem isMatch_plain_escape :
    let text := ['/', 'a', '/', '/', '%', '4', '1']
    IsPlainText text ∧ ∃ p path, Pattern.parse .default text = .ok p ∧
      Path.parse ['/', 'a', '/', '/', '%', '2', '5', '4', '1'] .http = .ok path ∧
      p.isMatch path = true := by
  intro text
  have hplain : IsPlainText text := by decide
  let spelled : Path := .whole text [.separator 0 '/', .segment ⟨1, ['a'], ['a'], []⟩,
    .separator 2 '/', .separator 3 '/', .segment ⟨4, ['%', '4', '1'], ['%', '4', '1'], []⟩]
    PathOptions.http.verbatim
  let path : Path := .whole ['/', 'a', '/', '/', '%', '2', '5', '4', '1']
    [.separator 0 '/', .segment ⟨1, ['a'], ['a'], []⟩, .separator 2 '/', .separator 3 '/',
      .segment ⟨4, ['%', '2', '5', '4', '1'], ['%', '4', '1'], []⟩] .http
  have hspelled : Path.parse text PathOptions.http.verbatim = .ok spelled := rfl
  obtain ⟨p, spelled', hp, hspelled', hmatch⟩ := isMatch_plain (o := .default) rfl rfl hplain
  obtain rfl := Except.ok.inj (hspelled'.symm.trans hspelled)
  refine ⟨hplain, p, path, hp, rfl, (hmatch path).mpr ?_⟩
  exact .cons (.separator ..) (.cons (.segment _ _ rfl) (.cons (.separator ..)
    (.cons (.separator ..) (.cons (.segment _ _ rfl) .nil))))

end PathRouting
