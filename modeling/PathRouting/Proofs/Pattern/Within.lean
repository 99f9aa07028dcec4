import Mathlib.Data.List.TakeWhile
import Mathlib.Data.Option.Basic
import PathRouting.Pattern.Within
import PathRouting.Proofs.Path.Views

/-!
# What a pattern leaves open of a path

The part of a path beyond the literal start of a pattern is trimmed: separators at its ends go, and of
a run of separators inside one is left.  Where nothing has to go inside, the part looks at the elements
of the path; otherwise its text is put together from theirs and read again, which always succeeds and
gives the same segments.

## Main definitions

* `Alternates` — whether segments and single separators alternate, from a segment to a segment.
* `Path.Condenses` — what a trimmed path has to do with the elements it was trimmed from.

## Main results

* `exists_trim` — elements without the separators at their ends.
* `alternates_collapse` — what is left of elements when runs of separators are reduced to one.
* `within_of_isPart` — the part of a path that a pattern leaves open.
-/

namespace PathRouting

open Text

variable {es : List PathElement} {e : PathElement}

/-! ### Trimming -/

/-- Whether elements start and end with a segment, unless there are none. -/
structure Trimmed (es : List PathElement) : Prop where
  /-- The first element is a segment. -/
  first : ∀ e ∈ es.head?, e.isSeparator = false
  /-- The last element is a segment. -/
  last : ∀ e ∈ es.getLast?, e.isSeparator = false

/-- Whether segments and single separators alternate, from a segment to a segment. -/
structure Alternates (es : List PathElement) : Prop extends Trimmed es where
  /-- Of two elements side by side just one is a separator. -/
  chain : es.IsChain fun e e' => e.isSeparator ≠ e'.isSeparator

/-- Separators at both ends of elements and what stands between them. -/
theorem exists_trim (es : List PathElement) : ∃ lead core trail,
    es = lead ++ core ++ trail ∧ (∀ e ∈ lead, e.isSeparator = true) ∧
      (∀ e ∈ trail, e.isSeparator = true) ∧ Trimmed core ∧
      (es.takeWhile (·.isSeparator)).length = lead.length ∧
      ((es.drop lead.length).reverse.takeWhile (·.isSeparator)).length = trail.length := by
  let lead := es.takeWhile (·.isSeparator)
  let rest := es.dropWhile (·.isSeparator)
  let trail := (rest.reverse.takeWhile (·.isSeparator)).reverse
  let core := (rest.reverse.dropWhile (·.isSeparator)).reverse
  have hlead : es = lead ++ rest := List.takeWhile_append_dropWhile.symm
  have htrail : rest = core ++ trail := by
    rw [← List.reverse_append, List.takeWhile_append_dropWhile, List.reverse_reverse]
  have hdrop : es.drop lead.length = rest := by
    conv => lhs; rw [hlead]
    exact List.drop_left
  refine ⟨lead, core, trail, ?_, ?_, ?_, ⟨?_, ?_⟩, rfl, ?_⟩
  · rw [List.append_assoc, ← htrail, ← hlead]
  · intro e he
    exact List.mem_takeWhile_imp he
  · intro e he
    exact List.mem_takeWhile_imp (List.mem_reverse.mp he)
  · -- the first element of the core is that of what follows the separators in front
    intro e he
    have hrest : rest.head? = some e := by
      rw [htrail, List.head?_append, Option.mem_def.mp he]
      rfl
    have hnot := List.head?_dropWhile_not (·.isSeparator) es
    rw [show (es.dropWhile (·.isSeparator)).head? = some e from hrest] at hnot
    simpa using hnot
  · intro e he
    have hnot := List.head?_dropWhile_not (·.isSeparator) rest.reverse
    rw [List.getLast?_reverse] at he
    rw [Option.mem_def.mp he] at hnot
    simpa using hnot
  · rw [hdrop, List.length_reverse]

/-- Elements that start and end with a segment have one, unless there are none. -/
theorem Trimmed.eq_nil_iff (h : Trimmed es) : es = [] ↔ ∀ e ∈ es, e.isSeparator = true := by
  constructor
  · rintro rfl
    simp
  · intro hall
    rcases es with _ | ⟨e, es⟩
    · rfl
    · have hfirst := h.first e rfl
      rw [hall e List.mem_cons_self] at hfirst
      simp at hfirst

/-! ### Runs of separators -/

theorem hasAdjacentSeparators_iff : hasAdjacentSeparators es = true ↔
    ∃ front a b back, es = front ++ a :: b :: back ∧ a.isSeparator = true ∧
      b.isSeparator = true := by
  induction es with
  | nil => simp [hasAdjacentSeparators]
  | cons e es ih =>
    rcases es with _ | ⟨e', es⟩
    · simp only [hasAdjacentSeparators, Bool.false_eq_true, false_iff]
      rintro ⟨front, a, b, back, heq, -⟩
      have hlength := congrArg List.length heq
      simp only [List.length_append, List.length_cons, List.length_nil] at hlength
      omega
    · rw [hasAdjacentSeparators, Bool.or_eq_true, Bool.and_eq_true, ih]
      constructor
      · rintro (⟨ha, hb⟩ | ⟨front, a, b, back, heq, ha, hb⟩)
        · exact ⟨[], e, e', es, rfl, ha, hb⟩
        · exact ⟨e :: front, a, b, back, by rw [heq]; rfl, ha, hb⟩
      · rintro ⟨front, a, b, back, heq, ha, hb⟩
        rcases front with _ | ⟨c, front⟩
        · obtain ⟨rfl, rfl, -⟩ : e = a ∧ e' = b ∧ es = back := by simpa using heq
          exact .inl ⟨ha, hb⟩
        · obtain ⟨-, htail⟩ := List.cons.inj heq
          exact .inr ⟨front, a, b, back, htail, ha, hb⟩

/-- Between two segments that are not side by side there is one separator, if no two separators are
side by side. -/
theorem chain_of_not_hasAdjacentSeparators
    (hapart : es.IsChain fun e e' => e.isSeparator = true ∨ e'.isSeparator = true)
    (h : hasAdjacentSeparators es = false) :
    es.IsChain fun e e' => e.isSeparator ≠ e'.isSeparator := by
  induction hapart with
  | nil => exact .nil
  | singleton e => exact .singleton e
  | @cons_cons e e' es hor _ ih =>
    rw [hasAdjacentSeparators, Bool.or_eq_false_iff, Bool.and_eq_false_iff] at h
    obtain ⟨hnot, hrest⟩ := h
    refine .cons_cons ?_ (ih hrest)
    rcases hnot with hnot | hnot
    · rw [hnot] at hor ⊢
      simpa using hor
    · rw [hnot] at hor ⊢
      simpa using hor

/-! ### Collapsing -/

theorem collapse_segment (s : Segment) (after : Bool) (es : List PathElement) :
    collapse after (.segment s :: es) = .segment s :: collapse false es := rfl

theorem collapse_sublist (after : Bool) (es : List PathElement) : (collapse after es).Sublist es := by
  induction es generalizing after with
  | nil => exact .slnil
  | cons e es ih =>
    rw [collapse]
    split
    · exact (ih true).cons e
    · exact (ih e.isSeparator).cons_cons e

/-- All segments stay. -/
theorem filterMap_segment?_collapse (after : Bool) (es : List PathElement) :
    (collapse after es).filterMap PathElement.segment? = es.filterMap PathElement.segment? := by
  induction es generalizing after with
  | nil => rfl
  | cons e es ih =>
    cases e with
    | segment s => rw [collapse_segment, List.filterMap_cons, List.filterMap_cons, ih]
    | separator offset c =>
      rw [collapse]
      split
      · exact ih true
      · rw [List.filterMap_cons, List.filterMap_cons, ih]

/-- After a segment the first element stays. -/
theorem head?_collapse_false (es : List PathElement) : (collapse false es).head? = es.head? := by
  rcases es with _ | ⟨e, es⟩
  · rfl
  · rw [collapse, Bool.and_false, if_neg (by simp)]
    rfl

/-- After a separator a segment comes first. -/
theorem head?_collapse_true (es : List PathElement) :
    ∀ e ∈ (collapse true es).head?, e.isSeparator = false := by
  induction es with
  | nil => simp [collapse]
  | cons e es ih =>
    rw [collapse, Bool.and_true]
    split
    · exact ih
    · next hnot =>
      intro e' he'
      obtain rfl : e = e' := by simpa using he'
      simpa using hnot

/-- A segment at the end stays. -/
theorem collapse_concat (after : Bool) (es : List PathElement) (s : Segment) :
    collapse after (es ++ [.segment s]) = collapse after es ++ [.segment s] := by
  induction es generalizing after with
  | nil => rfl
  | cons e es ih =>
    rw [List.cons_append, collapse, collapse]
    split
    · exact ih true
    · rw [ih, List.cons_append]

/-- Segments and single separators alternate when runs of separators are reduced to one. -/
theorem chain_collapse
    (hapart : es.IsChain fun e e' => e.isSeparator = true ∨ e'.isSeparator = true) (after : Bool) :
    (collapse after es).IsChain fun e e' => e.isSeparator ≠ e'.isSeparator := by
  induction es generalizing after with
  | nil => exact .nil
  | cons e es ih =>
    rw [collapse]
    split
    · exact ih hapart.tail true
    · refine (ih hapart.tail e.isSeparator).cons fun e' he' => ?_
      rcases hsep : e.isSeparator with _ | _
      · -- next to a segment stands a separator
        rw [hsep, head?_collapse_false] at he'
        have hor := hapart.rel_head? he'
        rw [hsep] at hor
        simpa using hor
      · rw [hsep] at he'
        rw [head?_collapse_true es e' he']
        simp

/-- **What is left alternates**, if there was a segment at both ends. -/
theorem alternates_collapse
    (hapart : es.IsChain fun e e' => e.isSeparator = true ∨ e'.isSeparator = true)
    (htrimmed : Trimmed es) : Alternates (collapse false es) where
  first := by
    rw [head?_collapse_false]
    exact htrimmed.first
  last := by
    rcases List.eq_nil_or_concat es with rfl | ⟨init, e, rfl⟩
    · simp [collapse]
    · have hlast := htrimmed.last e (by simp)
      cases e with
      | separator => simp at hlast
      | segment s =>
        rw [List.concat_eq_append, collapse_concat]
        simp
  chain := chain_collapse hapart false

/-- What is left can stand side by side again. -/
theorem PathElement.Readable.collapse {options : PathOptions} (h : Readable options es)
    (htrimmed : Trimmed es) : Readable options (collapse false es) := by
  have hmem : ∀ e ∈ PathRouting.collapse false es, e ∈ es := (collapse_sublist false es).subset
  refine ⟨fun offset c hc => h.separator offset c (hmem _ hc), fun s hs => h.text s (hmem _ hs),
    fun s hs => h.read s (hmem _ hs), (alternates_collapse h.apart htrimmed).chain.imp ?_⟩
  intro e e' hne
  cases hsep : e.isSeparator <;> simp_all

/-! ### The open part -/

/-- The elements between the separators at the ends of what comes after the first ones. -/
theorem window_eq {n : Nat} {lead core trail : List PathElement}
    (h : es.drop n = lead ++ core ++ trail) :
    (es.take (es.length - trail.length)).drop (Nat.min n es.length + lead.length) = core ∧
      es.length - trail.length = Nat.min n es.length + lead.length + core.length := by
  have hes : es = es.take n ++ lead ++ core ++ trail := by
    have hsplit := List.take_append_drop n es
    rw [h] at hsplit
    simpa only [List.append_assoc] using hsplit.symm
  have hfront : (es.take n ++ lead).length = Nat.min n es.length + lead.length := by
    rw [List.length_append, List.length_take]
  have hlength := congrArg List.length hes
  rw [List.length_append, List.length_append, hfront] at hlength
  refine ⟨?_, by omega⟩
  have htake : es.take (es.length - trail.length) = es.take n ++ lead ++ core := by
    conv => lhs; arg 2; rw [hes]
    exact List.take_left' (by rw [List.length_append, hfront]; omega)
  rw [htake, ← hfront, List.drop_left]

/-- Whether a path is what is left of elements without the separators that are not needed. -/
structure Path.Condenses (path : Path) (left : List PathElement) (part : Path) : Prop where
  /-- It has the segments among the elements, but for their places. -/
  segments : (part.elements.filterMap PathElement.segment?).map Segment.unplaced
    = (left.filterMap PathElement.segment?).map Segment.unplaced
  /-- Between any two of them stands one separator, and none at the ends. -/
  alternates : Alternates part.elements
  /-- The separators are those of the path. -/
  separator : ∀ offset c, .separator offset c ∈ part.elements → c = path.options.separator
  /-- It is read like the path. -/
  options : part.options = path.options
  /-- It has the text of its elements. -/
  text : part.text = part.elements.flatMap PathElement.raw
  /-- It has the elements of the path in storage just when there were no two separators side by side
  between segments. -/
  shares : part.sharesElementsWith path = true ↔ ∀ front a b back, left = front ++ a :: b :: back →
    a.isSeparator = true → b.isSeparator = true →
      (∀ e ∈ front, e.isSeparator = true) ∨ ∀ e ∈ back, e.isSeparator = true

/-- Separators side by side in trimmed elements have a segment before them and one after them. -/
theorem Trimmed.exists_segments {front back : List PathElement} {a b : PathElement}
    (h : Trimmed (front ++ a :: b :: back)) (ha : a.isSeparator = true) (hb : b.isSeparator = true) :
    (∃ e ∈ front, e.isSeparator = false) ∧ ∃ e ∈ back, e.isSeparator = false := by
  constructor
  · rcases front with _ | ⟨e, front⟩
    · have hfirst := h.first a rfl
      simp [ha] at hfirst
    · exact ⟨e, List.mem_cons_self, h.first e rfl⟩
  · rcases List.eq_nil_or_concat back with rfl | ⟨init, e, rfl⟩
    · have hlast := h.last b (by simp)
      simp [hb] at hlast
    · have hsplit : front ++ a :: b :: init.concat e = (front ++ a :: b :: init) ++ [e] := by simp
      exact ⟨e, by simp, h.last e (by rw [hsplit, List.getLast?_concat]; rfl)⟩

/-- Trimmed elements have two separators side by side just when there are two of them side by side
between segments before trimming. -/
theorem hasAdjacentSeparators_trimmed {lead core trail : List PathElement}
    (hlead : ∀ e ∈ lead, e.isSeparator = true) (htrail : ∀ e ∈ trail, e.isSeparator = true)
    (htrimmed : Trimmed core) : hasAdjacentSeparators core = false ↔
      ∀ front a b back, lead ++ core ++ trail = front ++ a :: b :: back →
        a.isSeparator = true → b.isSeparator = true →
        (∀ e ∈ front, e.isSeparator = true) ∨ ∀ e ∈ back, e.isSeparator = true := by
  rw [← Bool.not_eq_true, hasAdjacentSeparators_iff]
  constructor
  · intro hnone front a b back heq ha hb
    rcases List.append_eq_append_iff.mp heq with ⟨w, -, htail⟩ | ⟨w, hfront, hback⟩
    · -- both of them are at the end
      refine .inr fun e he => htrail e ?_
      simp [htail, he]
    · rcases w with _ | ⟨c, _ | ⟨d, w⟩⟩
      · refine .inr fun e he => htrail e ?_
        rw [List.nil_append] at hback
        simp [← hback, he]
      · obtain ⟨-, rfl⟩ : a = c ∧ b :: back = trail := by simpa using hback
        exact .inr fun e he => htrail e (List.mem_cons_of_mem _ he)
      · obtain ⟨rfl, rfl, rfl⟩ : a = c ∧ b = d ∧ back = w ++ trail := by simpa using hback
        rcases List.append_eq_append_iff.mp hfront with ⟨v, -, hcore⟩ | ⟨v, hv, -⟩
        · exact absurd ⟨v, a, b, w, hcore, ha, hb⟩ hnone
        · refine .inl fun e he => hlead e ?_
          simp [hv, he]
  · rintro hall ⟨front, a, b, back, rfl, ha, hb⟩
    obtain ⟨⟨e, he, hsep⟩, e', he', hsep'⟩ := htrimmed.exists_segments ha hb
    rcases hall (lead ++ front) a b (back ++ trail) (by simp) ha hb with hfront | hback
    · have htrue := hfront e (List.mem_append_right _ he)
      simp [hsep] at htrue
    · have htrue := hback e' (List.mem_append_left _ he')
      simp [hsep'] at htrue

/-- How the part that a pattern leaves open is found: what comes after the literal start is trimmed,
and what is left is cut out of the path or, if two separators are side by side, collapsed and read
again. -/
theorem exists_within_eq (pattern : Pattern) (path : Path) : ∃ lead core trail start,
    path.elements.drop (pattern.kinds.takeWhile (·.isLiteral)).length = lead ++ core ++ trail ∧
      (∀ e ∈ lead, e.isSeparator = true) ∧ (∀ e ∈ trail, e.isSeparator = true) ∧ Trimmed core ∧
      (path.elements.take (start + core.length)).drop start = core ∧
      start + core.length ≤ path.length ∧
      pattern.within path =
        if pattern.kinds.all (·.isLiteral) = true ∨ core = [] then
          .ok (.empty path.options (path.generation + 1))
        else if hasAdjacentSeparators core then
          (Path.parse ((collapse false core).flatMap PathElement.raw) path.options).map fun made =>
            { made with generation := path.generation + 1 }
        else .ok (path.cut start (start + core.length)) := by
  obtain ⟨lead, core, trail, hleft, hlead, htrail, htrimmed, hleading, htrailing⟩ :=
    exists_trim (path.elements.drop (pattern.kinds.takeWhile (·.isLiteral)).length)
  obtain ⟨hwindow, hstop⟩ := window_eq hleft
  generalize hstart : Nat.min (pattern.kinds.takeWhile (·.isLiteral)).length path.elements.length
    + lead.length = start at hwindow hstop
  rw [hstop] at hwindow
  refine ⟨lead, core, trail, start, hleft, hlead, htrail, htrimmed, hwindow, ?_, ?_⟩
  · rw [Path.length]
    omega
  · have hempty : start + core.length ≤ start ↔ core = [] := by
      rw [← List.length_eq_zero_iff]
      omega
    unfold Pattern.within
    simp only [hleading, htrailing, Path.length, hstart, hstop, hwindow, hempty]
    by_cases hall : pattern.kinds.all (·.isLiteral) = true
    · rw [if_pos hall, if_pos (Or.inl hall)]
    · simp only [hall, Bool.false_eq_true, if_false, false_or]

section Condenses

variable {path : Path} {lead core trail : List PathElement} {start : Nat}

/-- Separators at the ends are no segments. -/
theorem filterMap_segment?_trim (hlead : ∀ e ∈ lead, e.isSeparator = true)
    (htrail : ∀ e ∈ trail, e.isSeparator = true) :
    (lead ++ core ++ trail).filterMap PathElement.segment? = core.filterMap PathElement.segment? := by
  have hnone : ∀ es : List PathElement, (∀ e ∈ es, e.isSeparator = true) →
      es.filterMap PathElement.segment? = [] := by
    intro es hes
    refine List.filterMap_eq_nil_iff.mpr fun e he => ?_
    cases e with
    | separator => rfl
    | segment s => exact absurd (hes _ he) (by simp)
  rw [List.filterMap_append, List.filterMap_append, hnone lead hlead, hnone trail htrail,
    List.nil_append, List.append_nil]

theorem filterMap_segment?_unplaced (es : List PathElement) :
    (es.map PathElement.unplaced).filterMap PathElement.segment?
      = (es.filterMap PathElement.segment?).map Segment.unplaced := by
  rw [List.filterMap_map, List.map_filterMap]
  refine List.filterMap_congr fun e _ => ?_
  cases e <;> rfl

/-- Whether elements alternate can be told from which of them are separators. -/
theorem alternates_iff : Alternates es ↔
    (∀ b ∈ (es.map (·.isSeparator)).head?, b = false) ∧
      (∀ b ∈ (es.map (·.isSeparator)).getLast?, b = false) ∧
      (es.map (·.isSeparator)).IsChain (· ≠ ·) := by
  rw [List.head?_map, List.getLast?_map, List.isChain_map, Option.forall_mem_map,
    Option.forall_mem_map]
  constructor
  · intro h
    exact ⟨h.first, h.last, h.chain⟩
  · rintro ⟨hfirst, hlast, hchain⟩
    exact ⟨⟨hfirst, hlast⟩, hchain⟩

/-- Elements alternate wherever they stand. -/
theorem Alternates.of_unplaced {es' : List PathElement} (h : Alternates es)
    (heq : es'.map PathElement.unplaced = es.map PathElement.unplaced) : Alternates es' := by
  have hsep : PathElement.isSeparator ∘ PathElement.unplaced = PathElement.isSeparator := by
    funext e
    cases e <;> rfl
  have hmap := congrArg (List.map PathElement.isSeparator) heq
  rw [List.map_map, List.map_map, hsep] at hmap
  rw [alternates_iff] at h ⊢
  rwa [hmap]

variable (hstep : path.InStep) (hlead : ∀ e ∈ lead, e.isSeparator = true)
  (htrail : ∀ e ∈ trail, e.isSeparator = true) (htrimmed : Trimmed core)
  (hwindow : (path.elements.take (start + core.length)).drop start = core)
include hstep hlead htrail htrimmed hwindow

/-- What is left is condensed when it is cut out of the path. -/
theorem condenses_cut (hne : core ≠ []) (hstop : start + core.length ≤ path.length)
    (hadjacent : hasAdjacentSeparators core = false) :
    path.Condenses (lead ++ core ++ trail) (path.cut start (start + core.length)) := by
  have hpos := List.length_pos_iff.mpr hne
  have helements : (path.cut start (start + core.length)).elements = core :=
    (Path.elements_cut start hstop).trans hwindow
  have hreadable := hstep.readable.slice start (start + core.length)
  rw [hwindow] at hreadable
  refine ⟨?_, ?_, ?_, rfl, (hstep.cut (by omega) hstop).text_eq, ?_⟩
  · rw [helements, filterMap_segment?_trim hlead htrail]
  · rw [helements]
    exact ⟨htrimmed, chain_of_not_hasAdjacentSeparators hreadable.apart hadjacent⟩
  · rw [helements]
    exact hreadable.separator
  · rw [← hasAdjacentSeparators_trimmed hlead htrail htrimmed]
    simp [Path.sharesElementsWith, Path.cut, hadjacent]

/-- It is condensed when it is collapsed and read again, which can be done. -/
theorem exists_condenses_collapse (hadjacent : hasAdjacentSeparators core = true) : ∃ made,
    Path.parse ((collapse false core).flatMap PathElement.raw) path.options = .ok made ∧
      path.Condenses (lead ++ core ++ trail) { made with generation := path.generation + 1 } := by
  have hreadable := hstep.readable.slice start (start + core.length)
  rw [hwindow] at hreadable
  obtain ⟨made, hmade, hunplaced⟩ := (hreadable.collapse htrimmed).exists_parse
  obtain ⟨hoptions, -⟩ := parse_path_ok hmade
  have hsplit := Path.isSplit_of_parse hmade
  refine ⟨made, hmade, ?_, ?_, hsplit.separator, hoptions, (Path.inStep_of_parse hmade).text_eq, ?_⟩
  · show (made.elements.filterMap _).map _ = _
    rw [← filterMap_segment?_unplaced, hunplaced, filterMap_segment?_unplaced,
      filterMap_segment?_collapse, filterMap_segment?_trim hlead htrail]
  · show Alternates made.elements
    exact (alternates_collapse hreadable.apart htrimmed).of_unplaced hunplaced
  · rw [← hasAdjacentSeparators_trimmed hlead htrail htrimmed]
    simp [Path.sharesElementsWith, hadjacent]

end Condenses

/-- **What a pattern leaves open of a path**, whatever the pattern and however the path was cut out of
one that was read.  There is nothing left if all elements of the pattern are literal or no segment
comes after as many elements as are literal at its start; otherwise what is left is condensed. -/
theorem within_of_isPart {options : PathOptions} {text : List Char} {root path : Path} {r : Indices}
    (h : Path.parse text options = .ok root) (hp : root.IsPart r path) (pattern : Pattern) :
    let left := path.elements.drop (pattern.kinds.takeWhile (·.isLiteral)).length
    ∃ part, pattern.within path = .ok part ∧
      if pattern.kinds.all (·.isLiteral) = true ∨ ∀ e ∈ left, e.isSeparator = true then
        part = .empty path.options (path.generation + 1)
      else path.Condenses left part := by
  intro left
  have hstep := hp.inStep (Path.inStep_of_parse h)
  obtain ⟨lead, core, trail, start, hleft, hlead, htrail, htrimmed, hwindow, hstop, hwithin⟩ :=
    exists_within_eq pattern path
  have hnothing : (∀ e ∈ left, e.isSeparator = true) ↔ core = [] := by
    rw [htrimmed.eq_nil_iff, show left = lead ++ core ++ trail from hleft]
    constructor
    · intro hall e he
      exact hall e (by simp [he])
    · intro hcore e he
      simp only [List.mem_append] at he
      rcases he with (he | he) | he
      · exact hlead e he
      · exact hcore e he
      · exact htrail e he
  rw [hwithin]
  by_cases hclosed : pattern.kinds.all (·.isLiteral) = true ∨ core = []
  · rw [if_pos hclosed]
    refine ⟨_, rfl, ?_⟩
    rw [if_pos (hclosed.imp_right hnothing.mpr)]
  · have hopen := mt (Or.imp_right hnothing.mp) hclosed
    have hleft' : left = lead ++ core ++ trail := hleft
    rw [if_neg hclosed]
    rcases hadjacent : hasAdjacentSeparators core with _ | _
    · refine ⟨_, rfl, ?_⟩
      rw [if_neg hopen, hleft']
      exact condenses_cut hstep hlead htrail htrimmed hwindow (not_or.mp hclosed).2 hstop hadjacent
    · obtain ⟨made, hmade, hcondenses⟩ :=
        exists_condenses_collapse hstep hlead htrail htrimmed hwindow hadjacent
      refine ⟨_, map_eq_ok.mpr ⟨made, hmade, rfl⟩, ?_⟩
      rw [if_neg hopen, hleft']
      exact hcondenses

/-- Beyond `/docs/` a path with a run of separators and escapes. -/
theorem within_of_isPart_run : ∃ pattern path part,
    Pattern.parse .default "/docs/*".toList = .ok pattern ∧
      Path.parse "/docs//a%2Fb//c;k=1/".toList .http = .ok path ∧
      pattern.within path = .ok part ∧ path.Condenses (path.elements.drop 3) part ∧
      part.sharesElementsWith path = false := by
  let segment (offset : Nat) : PathElement :=
    .segment ⟨offset, "a%2Fb".toList, "a/b".toList, []⟩
  let last (offset : Nat) : PathElement :=
    .segment ⟨offset, "c;k=1".toList, ['c'], [(['k'], [['1']])]⟩
  let docs : PathElement := .segment ⟨1, "docs".toList, "docs".toList, []⟩
  let path : Path := .whole "/docs//a%2Fb//c;k=1/".toList [.separator 0 '/', docs, .separator 5 '/',
    .separator 6 '/', segment 7, .separator 12 '/', .separator 13 '/', last 14, .separator 19 '/']
    .http
  let pattern : Pattern := ⟨"/docs/*".toList, .default,
    [⟨0, .separator⟩, ⟨1, .literal "docs".toList true⟩, ⟨5, .separator⟩, ⟨6, .wildcard⟩]⟩
  have hpath : Path.parse "/docs//a%2Fb//c;k=1/".toList .http = .ok path :=
    map_eq_ok.mpr ⟨_, by decide +kernel, rfl⟩
  have hpattern : Pattern.parse .default "/docs/*".toList = .ok pattern := rfl
  obtain ⟨part, hwithin, hcondenses⟩ := within_of_isPart hpath .whole pattern
  rw [if_neg (by decide +kernel)] at hcondenses
  refine ⟨pattern, path, part, hpattern, hpath, hwithin, hcondenses, ?_⟩
  -- the separators after the first segment have a segment on either side
  rw [← Bool.not_eq_true, hcondenses.shares]
  intro hall
  have hends := hall [.separator 6 '/', segment 7] (.separator 12 '/') (.separator 13 '/')
    [last 14, .separator 19 '/'] rfl rfl rfl
  simp [segment, last] at hends

end PathRouting
