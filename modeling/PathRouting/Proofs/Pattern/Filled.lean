import PathRouting.Proofs.Pattern.CaseRoom
import PathRouting.Proofs.Pattern.Chain
import PathRouting.Proofs.Pattern.Unconstrained
import PathRouting.Proofs.Regex.Greedy

/-!
# What captures of a mixed segment take

A segment of literal text and captures without constraints matches the texts that it makes when
values are put in for the captures, and it records such values.  Of all that make the text it records
those of which the first is as long as it can be, then the second as long as it can be with that first
one, and so on.

## Main definitions

* `filledIn`, `Fills` — the text of pieces with values put in, and that values make a text.
* `FillsGreedily` — that each value is as long as those before it allow.

## Main results

* `splits_partsOf` — a mixed segment matches what can be made with values.
* `fillsGreedily_of_preferred` — the preferred match records greedy values.
* `take?_filled` — what a mixed segment takes.
-/

namespace PathRouting

open Regex

variable {o : PatternOptions} {pieces : List Piece} {ws : List (List Char)} {v w t : List Char}
  {groups : Nat} {p q : Place} {slots found : Slots} {text : List Char} {pattern : Pattern}

/-! ### Values put in -/

/-- Whether a piece is literal text or a capture without a constraint. -/
def Piece.isFillable : Piece → Bool
  | literal _ => true
  | capture _ none => true
  | _ => false

/-- The text of pieces with values put in for the captures. -/
def filledIn : List Piece → List (List Char) → List Char
  | .literal t :: pieces, ws => t ++ filledIn pieces ws
  | .capture _ _ :: pieces, w :: ws => w ++ filledIn pieces ws
  | _ :: pieces, ws => filledIn pieces ws
  | [], _ => []

/-- Whether values, one for each capture, make a text of pieces. -/
structure Fills (pieces : List Piece) (v : List Char) (ws : List (List Char)) : Prop where
  /-- There is one value for each capture. -/
  length : ws.length = (captureNames pieces).length
  /-- The values make the text. -/
  text : filledIn pieces ws = v

/-- Whether values make a text of pieces, each as long as those before it allow. -/
structure FillsGreedily (pieces : List Piece) (v : List Char) (ws : List (List Char)) : Prop
    extends Fills pieces v ws where
  /-- No other values that start the same have a longer one next. -/
  longest : ∀ before w after w' after', ws = before ++ w :: after →
    Fills pieces v (before ++ w' :: after') → w'.length ≤ w.length

theorem fills_nil : Fills [] v ws ↔ ws = [] ∧ v = [] := by
  constructor
  · rintro ⟨hlength, rfl⟩
    exact ⟨List.length_eq_zero_iff.mp hlength, rfl⟩
  · rintro ⟨rfl, rfl⟩
    exact ⟨rfl, rfl⟩

theorem fills_literal : Fills (.literal t :: pieces) v ws ↔
    ∃ v', v = t ++ v' ∧ Fills pieces v' ws := by
  constructor
  · rintro ⟨hlength, rfl⟩
    exact ⟨_, rfl, hlength, rfl⟩
  · rintro ⟨_, rfl, hlength, rfl⟩
    exact ⟨hlength, rfl⟩

theorem fills_capture {name : List Char} {constraint : Option (List Char)} :
    Fills (.capture name constraint :: pieces) v (w :: ws) ↔
      ∃ v', v = w ++ v' ∧ Fills pieces v' ws := by
  constructor
  · rintro ⟨hlength, rfl⟩
    exact ⟨_, rfl, Nat.succ_inj.mp hlength, rfl⟩
  · rintro ⟨_, rfl, hlength, rfl⟩
    exact ⟨congrArg (· + 1) hlength, rfl⟩

/-- Literal text before the pieces leaves greedy values as they are. -/
theorem FillsGreedily.literal (h : FillsGreedily pieces v ws) :
    FillsGreedily (.literal t :: pieces) (t ++ v) ws := by
  refine ⟨fills_literal.mpr ⟨v, rfl, h.toFills⟩, fun before w after w' after' hsplit hother => ?_⟩
  obtain ⟨v', hv', hother⟩ := fills_literal.mp hother
  obtain rfl : v = v' := List.append_cancel_left hv'
  exact h.longest before w after w' after' hsplit hother

/-- Greedy values are put after the longest text from which the pieces can be made of the rest. -/
theorem FillsGreedily.capture {name : List Char} {constraint : Option (List Char)}
    (h : FillsGreedily pieces v ws)
    (hlongest : ∀ w' v' ws', w ++ v = w' ++ v' → Fills pieces v' ws' → w'.length ≤ w.length) :
    FillsGreedily (.capture name constraint :: pieces) (w ++ v) (w :: ws) := by
  refine ⟨fills_capture.mpr ⟨v, rfl, h.toFills⟩, fun before u after u' after' hsplit hother => ?_⟩
  rcases before with _ | ⟨w₀, before⟩
  · obtain ⟨rfl, rfl⟩ := List.cons.inj hsplit
    obtain ⟨v', hv', hother⟩ := fills_capture.mp hother
    exact hlongest u' v' after' hv' hother
  · obtain ⟨rfl, rfl⟩ := List.cons.inj hsplit
    obtain ⟨v', hv', hother⟩ := fills_capture.mp hother
    obtain rfl : v = v' := List.append_cancel_left hv'
    exact h.longest before u after u' after' rfl hother

/-- Literal text takes itself where case makes a difference. -/
theorem splits_literal {parts : List Part} : Splits false (t.map .char ++ parts) v ↔
    ∃ v', v = t ++ v' ∧ Splits false parts v' := by
  have hsame : (fun a b => (variants false a).contains b = true) = fun a b : Char => a = b := by
    funext a b
    exact propext (CharSet.contains_exactly.trans eq_comm)
  simp only [splits_chars, hsame, List.forall₂_eq_eq_eq]
  constructor
  · rintro ⟨_, v', rfl, hv', rfl⟩
    exact ⟨v', rfl, hv'⟩
  · rintro ⟨v', rfl, hv'⟩
    exact ⟨t, v', rfl, hv', rfl⟩

/-- **What can be made with values is what a mixed segment matches.** -/
theorem splits_partsOf (hpieces : ∀ piece ∈ pieces, piece.isFillable = true) :
    Splits false (partsOf pieces) v ↔ ∃ ws, Fills pieces v ws := by
  induction pieces generalizing v with
  | nil => simp [partsOf, splits_nil, fills_nil]
  | cons piece pieces ih =>
    obtain ⟨hpiece, hlater⟩ := List.forall_mem_cons.mp hpieces
    cases piece with
    | literal t =>
      simp only [partsOf, splits_literal, ih hlater, fills_literal]
      constructor
      · rintro ⟨v', rfl, ws, hws⟩
        exact ⟨ws, v', rfl, hws⟩
      · rintro ⟨ws, v', rfl, hws⟩
        exact ⟨v', rfl, ws, hws⟩
    | capture name constraint =>
      simp only [partsOf, splits_cons, Part.Takes, true_and, ih hlater]
      constructor
      · rintro ⟨w, v', ⟨ws, hws⟩, rfl⟩
        exact ⟨w :: ws, fills_capture.mpr ⟨v', rfl, hws⟩⟩
      · rintro ⟨ws, hws⟩
        cases ws with
        | nil => simpa [captureNames_cons, Piece.name?] using hws.length
        | cons w ws =>
          obtain ⟨v', rfl, hws'⟩ := fills_capture.mp hws
          exact ⟨w, v', ⟨ws, hws'⟩, rfl⟩
    | star => simp [Piece.isFillable] at hpiece
    | question => simp [Piece.isFillable] at hpiece

/-! ### What is recorded -/

/-- The expression for what is left of a mixed segment, so many captures standing before it. -/
def leftExpr (groups : Nat) (pieces : List Piece) : Expr :=
  .row (Expr.mergeLiterals (exprsOf false groups (partsOf pieces) ++ [.look .textEnd]))

/-- What is left of a mixed segment matches what can be made of it. -/
theorem matched_leftExpr {parts : List Part} :
    Matched ([.run (.row (Expr.mergeLiterals (exprsOf false groups parts ++ [.look .textEnd])))],
      p) ↔ Splits false parts p.rest := by
  simp only [Matched, reaches_done_iff, matches_row, rowMatches_mergeLiterals, rowMatches_append,
    rowMatches_exprsOf, RowMatches, Expr.Matches, Look.holds, Place.after,
    Option.isNone_iff_eq_none, List.head?_eq_none_iff]
  constructor
  · rintro ⟨q, m, ⟨w, hw, hm⟩, m', ⟨rfl, hend⟩, rfl⟩
    have hrest : p.rest = w ++ [] := Place.exists_skip?.mp ⟨m, hm, hend⟩
    rwa [hrest, List.append_nil]
  · intro hsplits
    obtain ⟨q, hq, hrest⟩ := (Place.exists_skip? (p := p) (v := p.rest) (t := [])).mpr
      (List.append_nil _).symm
    exact ⟨q, q, ⟨_, hsplits, hq⟩, q, ⟨rfl, hrest⟩, rfl⟩

/-- Literal text that is left is skipped. -/
theorem preferred_leftExpr_literal :
    Preferred [.run (leftExpr groups (.literal t :: pieces))] p slots found ↔
      ∃ q, p.skip? t = some q ∧ Preferred [.run (leftExpr groups pieces)] q slots found := by
  simp only [leftExpr, partsOf, exprsOf_chars, List.append_assoc]
  induction t generalizing p with
  | nil => simp [Place.skip?]
  | cons c t ih =>
    have hchar : (baseFlags false).charExpr c = .literal [c] := rfl
    simp only [List.map_cons, List.cons_append, hchar, preferred_merge_literal, ih]
    constructor
    · rintro ⟨m, hm, q, hq, hleft⟩
      exact ⟨q, skip?_cons.mpr ⟨m, hm, hq⟩, hleft⟩
    · rintro ⟨q, hq, hleft⟩
      obtain ⟨m, hm, hq⟩ := skip?_cons.mp hq
      exact ⟨m, hm, q, hq, hleft⟩

/-- A capture takes the longest text that leaves one that can be made of what is left. -/
theorem preferred_leftExpr_capture {name : List Char} {constraint : Option (List Char)}
    (h : Preferred [.run (leftExpr groups (.capture name constraint :: pieces))] p slots found) :
    ∃ w q, p.skip? w = some q ∧
      Preferred [.run (leftExpr (groups + 1) pieces)] q
        (((groups + 1, .closed), q.left) :: ((groups + 1, .opened), p.left) :: slots) found ∧
      ∀ w' q', p.skip? w' = some q' → Splits false (partsOf pieces) q'.rest →
        w'.length ≤ w.length := by
  have hne : Expr.mergeLiterals (exprsOf false (groups + 1) (partsOf pieces) ++ [.look .textEnd])
      ≠ [] := by
    rw [mergeLiterals_concat_look]
    simp
  obtain ⟨w, q, hq, hclose, hlongest⟩ := longest_of_preferred
    ((preferred_iff_of_ways rfl).mp ((preferred_row_cons hne _).mp h))
  refine ⟨w, q, hq, (preferred_iff_of_ways rfl).mp hclose, fun w' q' hq' hsplits => ?_⟩
  obtain ⟨r, hr⟩ := matched_leftExpr.mpr hsplits
  exact hlongest w' q' hq' ⟨r, reaches_of_way .close hr⟩

/-- Whether slots hold values for the groups after some groups, and for these what they held
before. -/
structure HoldsGroups (found slots : Slots) (groups : Nat) (rest : List Char)
    (ws : List (List Char)) : Prop where
  /-- The groups have taken the values. -/
  texts : ∀ input, rest <:+ input → ∀ i w, ws[i]? = some w →
    found.groupText? input (groups + 1 + i) = some w
  /-- What was held before is still held. -/
  earlier : ∀ index ≤ groups, ∀ e, found.lookup (index, e) = slots.lookup (index, e)

/-- The text of a group that opened and closed. -/
theorem groupText?_of_lookup {input : List Char} {index : Nat} (hinput : p.rest <:+ input)
    (hrest : p.rest = w ++ q.rest) (hlookup : ∀ e, found.lookup (index, e)
      = (((index, .closed), q.left) :: ((index, .opened), p.left) :: slots).lookup (index, e)) :
    found.groupText? input index = some w := by
  obtain ⟨before, rfl⟩ := hinput
  have hopened : found.lookup (index, .opened) = some p.left := by
    have hkey : ((index, GroupEnd.opened) == (index, .closed)) = false :=
      beq_eq_false_iff_ne.mpr (by simp)
    rw [hlookup, List.lookup_cons, hkey]
    exact List.lookup_cons_self
  have hclosed : found.lookup (index, .closed) = some q.left := by
    rw [hlookup]
    exact List.lookup_cons_self
  have hbefore : (before ++ p.rest).length - p.left = before.length := by
    rw [p.left_eq, List.length_append, Nat.add_sub_cancel]
  have hlength : p.left - q.left = w.length := by
    rw [p.left_eq, q.left_eq, hrest, List.length_append, Nat.add_sub_cancel]
  rw [Slots.groupText?, hopened, hclosed]
  dsimp only
  rw [hbefore, hlength, List.drop_left, hrest, List.take_left]

/-- A group that has taken a value stands before those after it. -/
theorem HoldsGroups.cons (hrest : p.rest = w ++ q.rest)
    (h : HoldsGroups found
      (((groups + 1, .closed), q.left) :: ((groups + 1, .opened), p.left) :: slots)
      (groups + 1) q.rest ws) : HoldsGroups found slots groups p.rest (w :: ws) := by
  refine ⟨fun input hinput i u hu => ?_, fun index hindex e => ?_⟩
  · cases i with
    | zero =>
      obtain rfl := Option.some.inj hu
      exact groupText?_of_lookup hinput hrest (h.earlier (groups + 1) (Nat.le_refl _))
    | succ i =>
      have hsuffix : q.rest <:+ input := (hrest ▸ List.suffix_append w q.rest).trans hinput
      rw [← h.texts input hsuffix i u hu]
      congr 1
      omega
  · have hkey (e' : GroupEnd) : ((index, e) == (groups + 1, e')) = false := by
      refine beq_eq_false_iff_ne.mpr fun heq => ?_
      exact Nat.ne_of_lt (Nat.lt_succ_of_le hindex) (congrArg Prod.fst heq)
    rw [h.earlier index (Nat.le_succ_of_le hindex), List.lookup_cons, hkey,
      List.lookup_cons, hkey]

/-- **The preferred match records greedy values.** -/
theorem fillsGreedily_of_preferred (hpieces : ∀ piece ∈ pieces, piece.isFillable = true)
    (h : Preferred [.run (leftExpr groups pieces)] p slots found) :
    ∃ ws, FillsGreedily pieces p.rest ws ∧ HoldsGroups found slots groups p.rest ws := by
  induction pieces generalizing groups p slots with
  | nil =>
    obtain ⟨hend, hnil⟩ := preferred_look.mp h
    have hrest : p.rest = [] := by simpa [Look.holds, Place.after] using hend
    obtain rfl := preferred_nil.mp hnil
    exact ⟨[], ⟨fills_nil.mpr ⟨rfl, hrest⟩, by simp⟩, by simp, fun _ _ _ => rfl⟩
  | cons piece pieces ih =>
    obtain ⟨hpiece, hlater⟩ := List.forall_mem_cons.mp hpieces
    cases piece with
    | literal t =>
      obtain ⟨q, hq, hleft⟩ := preferred_leftExpr_literal.mp h
      obtain ⟨ws, hws, hgroups⟩ := ih hlater hleft
      have hrest : p.rest = t ++ q.rest := Place.exists_skip?.mp ⟨q, hq, rfl⟩
      refine ⟨ws, hrest ▸ hws.literal, fun input hinput => ?_, hgroups.earlier⟩
      exact hgroups.texts input ((hrest ▸ List.suffix_append t q.rest).trans hinput)
    | capture name constraint =>
      obtain ⟨w, q, hq, hleft, hlongest⟩ := preferred_leftExpr_capture h
      obtain ⟨ws, hws, hgroups⟩ := ih hlater hleft
      have hrest : p.rest = w ++ q.rest := Place.exists_skip?.mp ⟨q, hq, rfl⟩
      refine ⟨w :: ws, hrest ▸ hws.capture fun w' v' ws' hv' hother => ?_, hgroups.cons hrest⟩
      -- what else the values could be made of is left after the other text
      obtain ⟨q', hq', rfl⟩ := Place.exists_skip?.mpr (hrest.trans hv')
      exact hlongest w' q' hq' ((splits_partsOf hlater).mpr ⟨_, hother⟩)
    | star => simp [Piece.isFillable] at hpiece
    | question => simp [Piece.isFillable] at hpiece

/-! ### Mixed segments -/

/-- A mixed segment is what is left of it after the start. -/
theorem mixedExpr_eq (pieces : List Piece) :
    mixedExpr false (partsOf pieces) = .seq (.look .textStart) (leftExpr 0 pieces) := by
  rw [mixedExpr_eq_row, leftExpr, mergeLiterals_concat_look]
  rcases Expr.mergeLiterals (exprsOf false 0 (partsOf pieces)) with _ | ⟨e, es⟩ <;> rfl

theorem advances_row {es : List Expr} (h : ∀ e ∈ es, e.advances = true) :
    (Expr.row es).advances = true := by
  induction es with
  | nil => rfl
  | cons e es ih =>
    obtain ⟨he, hes⟩ := List.forall_mem_cons.mp h
    cases es with
    | nil => exact he
    | cons e' es => exact Bool.and_eq_true_iff.mpr ⟨he, ih hes⟩

theorem advances_mergeLiterals {es : List Expr} (h : ∀ e ∈ es, e.advances = true) :
    ∀ e ∈ Expr.mergeLiterals es, e.advances = true := by
  induction es with
  | nil => exact h
  | cons e es ih =>
    obtain ⟨he, hes⟩ := List.forall_mem_cons.mp h
    have hmerged := ih hes
    cases e with
    | literal s =>
      rw [Expr.mergeLiterals]
      split
      · next t more heq =>
        rw [heq] at hmerged
        exact List.forall_mem_cons.mpr ⟨rfl, (List.forall_mem_cons.mp hmerged).2⟩
      · exact List.forall_mem_cons.mpr ⟨rfl, hmerged⟩
    | _ => exact List.forall_mem_cons.mpr ⟨he, hmerged⟩

/-- What is repeated in a mixed segment takes a character. -/
theorem advances_mixedExpr (pieces : List Piece) :
    (mixedExpr false (partsOf pieces)).advances = true := by
  have hexprs (parts : List Part) (groups : Nat) :
      ∀ e ∈ exprsOf false groups parts, e.advances = true := by
    induction parts generalizing groups with
    | nil => simp [exprsOf]
    | cons part parts ih =>
      exact List.forall_mem_cons.mpr ⟨by cases part <;> rfl, ih _⟩
  rw [mixedExpr_eq]
  exact advances_row (advances_mergeLiterals
    (List.forall_mem_append.mpr ⟨hexprs _ 0, List.forall_mem_singleton.mpr rfl⟩))

/-- **The groups of a mixed segment hold greedy values.** -/
theorem fillsGreedily_of_captures? {re : Regex} (hre : re.expr = mixedExpr false (partsOf pieces))
    (hpieces : ∀ piece ∈ pieces, piece.isFillable = true)
    (h : re.captures? (captureNames pieces).length v = some ws) : FillsGreedily pieces v ws := by
  obtain ⟨found, hfound, hws⟩ := Option.map_eq_some_iff.mp h
  rw [Regex.match?, hre] at hfound
  obtain ⟨earlier, p, later, hplaces, -, hpreferred⟩ :=
    search_preferred (advances_mixedExpr pieces) hfound
  rw [mixedExpr_eq] at hpreferred
  obtain ⟨hstart, hleft⟩ := preferred_look.mp ((preferred_iff_of_ways rfl).mp hpreferred)
  have hp : p = .start v :=
    eq_start_of_before (hplaces ▸ by simp) (by simpa [Look.holds] using hstart)
  obtain ⟨values, hvalues, hgroups⟩ := fillsGreedily_of_preferred hpieces hleft
  have hrest : p.rest = v := hp ▸ rfl
  rw [hrest] at hvalues hgroups
  -- the groups are read off one by one
  obtain rfl : values = ws := by
    rw [← hws]
    refine List.ext_getElem (by simpa using hvalues.length) fun i hi _ => ?_
    have htext := hgroups.texts v List.suffix_rfl i values[i] (List.getElem?_eq_getElem hi)
    rw [Nat.zero_add, Nat.add_comm] at htext
    simp [htext]
  exact hvalues

/-- **What a mixed segment of literal text and captures takes.**  It is written as its pieces are.
It takes a segment when values make it of the pieces, and it records such values under the names of
the captures, each as long as those before it allow. -/
theorem take?_filled (h : Pattern.parse o text = .ok pattern) (hcase : o.caseSensitive = true)
    {re : Regex} (hk : .mixed t pieces re ∈ pattern.kinds)
    (hpieces : ∀ piece ∈ pieces, piece.isFillable = true) (q : Query) (s : Segment) :
    textOf (partsOf pieces) = t ∧
    ((q.take? s (.mixed t pieces re)).isSome = true ↔ ∃ ws, Fills pieces s.value ws) ∧
    ∀ bs, q.extract = true → q.take? s (.mixed t pieces re) = some bs →
      ∃ ws, FillsGreedily pieces s.value ws ∧
        bs = ((captureNames pieces).zip ws).map fun (name, w) => ⟨name, w, s.matrix⟩ := by
  have hplain : ∀ piece ∈ pieces, piece.isUnconstrained = true := by
    intro piece hpiece
    have hfillable := hpieces piece hpiece
    cases piece with
    | capture name constraint =>
      cases constraint with
      | none => rfl
      | some c => simp [Piece.isFillable] at hfillable
    | _ => rfl
  obtain ⟨hwritten, rfl⟩ := mixed_of_parse h hk hplain
  rw [hcase] at *
  have hmatch :
      Regex.isMatch ⟨mixedSource pieces, mixedExpr false (partsOf pieces)⟩ s.value = true ↔
        ∃ ws, Fills pieces s.value ws := (isMatch_mixedExpr rfl).trans (splits_partsOf hpieces)
  refine ⟨hwritten, ?_, fun bs hextract hbs => ?_⟩
  · rw [← hmatch, Query.take?]
    cases q.extract <;> simp [Regex.isSome_captures?]
  · rw [Query.take?, if_pos hextract] at hbs
    obtain ⟨ws, hws, rfl⟩ := Option.map_eq_some_iff.mp hbs
    exact ⟨ws, fillsGreedily_of_captures? rfl hpieces hws, rfl⟩

/-- The captures of `{a}-{b}` take `x-y` and `z` from `x-y-z`. -/
theorem take?_filled_dash : ∃ pattern pieces re,
    Pattern.parse .default ['{', 'a', '}', '-', '{', 'b', '}'] = .ok pattern ∧
    .mixed ['{', 'a', '}', '-', '{', 'b', '}'] pieces re ∈ pattern.kinds ∧
    (∀ piece ∈ pieces, piece.isFillable = true) ∧
    FillsGreedily pieces ['x', '-', 'y', '-', 'z'] [['x', '-', 'y'], ['z']] := by
  let pieces : List Piece := [.capture ['a'] none, .literal ['-'], .capture ['b'] none]
  let re : Regex := ⟨mixedSource pieces, mixedExpr false (partsOf pieces)⟩
  let s : Segment := ⟨0, ['x', '-', 'y', '-', 'z'], ['x', '-', 'y', '-', 'z'], []⟩
  have hpieces : ∀ piece ∈ pieces, piece.isFillable = true := by decide
  have hparse : Pattern.parse .default ['{', 'a', '}', '-', '{', 'b', '}'] = .ok
      ⟨['{', 'a', '}', '-', '{', 'b', '}'], .default,
        [⟨0, .mixed ['{', 'a', '}', '-', '{', 'b', '}'] pieces re⟩]⟩ := rfl
  obtain ⟨-, -, hrecorded⟩ := take?_filled hparse rfl List.mem_cons_self hpieces
    ⟨#[], false, true, false⟩ s
  obtain ⟨ws, hws, hbs⟩ := hrecorded [⟨['a'], ['x', '-', 'y'], []⟩, ⟨['b'], ['z'], []⟩] rfl
    (by decide +kernel)
  obtain ⟨v, w, rfl⟩ := List.length_eq_two.mp hws.length
  have hvalues : [['x', '-', 'y'], ['z']] = [v, w] := congrArg (List.map Binding.value) hbs
  exact ⟨_, pieces, re, hparse, List.mem_cons_self, hpieces, hvalues ▸ hws⟩

end PathRouting
