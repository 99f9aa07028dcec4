import PathRouting.Proofs.Pattern.CaseRoom
import PathRouting.Proofs.Pattern.Match
import PathRouting.Proofs.Pattern.Plain
import PathRouting.Proofs.Pattern.Unconstrained

/-!
# Patterns with and without regard to case

A text without constraints is read to the same elements whether or not case makes a difference, but
for the flag of literal text and the expressions of mixed segments.  Only these expressions can be
refused in one of the two ways alone, for their size.

## Main definitions

* `ElementKind.withCase`, `PatternOptions.withCase` — elements and options with case made to count
  or not.
* `Outline.PlacedAlike` — that one placing of a token stands for both.

## Main results

* `placeAll_withCase`, `read_withCase` — one reading stands for both.
-/

namespace PathRouting

open Regex

variable {o : PatternOptions} {names : List (List Char)} {text : List Char}

/-- The options with or without regard to case. -/
def PatternOptions.withCase (o : PatternOptions) (caseSensitive : Bool) : PatternOptions :=
  { o with caseSensitive }

/-- An element with or without regard to case. -/
def ElementKind.withCase (caseSensitive : Bool) : ElementKind → ElementKind
  | literal t _ => literal t caseSensitive
  | singleChars t _ => singleChars t caseSensitive
  | mixed t pieces re => mixed t pieces ⟨re.source, mixedExpr (!caseSensitive) (partsOf pieces)⟩
  | k => k

/-! ### Segments -/

/-- An element with or without regard to case, and names given, unless the element is too large. -/
def ElementKind.withCase? (caseSensitive : Bool) (r : ElementKind × List (List Char)) :
    Option (ElementKind × List (List Char)) :=
  if (r.1.withCase caseSensitive).fits then some (r.1.withCase caseSensitive, r.2) else none

/-- **One reading of a segment stands for both.** -/
theorem readSegment_withCase {s : List Char} (hplain : isUnconstrainedSegment s = true)
    (hrest : findRest s = none) (names : List (List Char)) :
    ∃ r, ∀ b, (readSegment (o.withCase b) names 0 s).toOption
      = Option.bind r (ElementKind.withCase? b) := by
  have hraws : (rawPieces s.length 0 s).all RawPiece.isUnconstrained = true := by
    simpa [isUnconstrainedSegment, hrest] using hplain
  simp only [readSegment_eq]
  by_cases hstar : s = ['*']
  · exact ⟨some (.wildcard, names), fun b => by rw [if_pos hstar]; rfl⟩
  by_cases htext : (!s.contains '{' && !s.contains '*') = true
  · by_cases hquestion : s.contains '?' = true
    · exact ⟨some (.singleChars s true, names), fun b => by
        rw [if_neg hstar, if_pos htext, if_pos hquestion]; rfl⟩
    · exact ⟨some (.literal s true, names), fun b => by
        rw [if_neg hstar, if_pos htext, if_neg hquestion]; rfl⟩
  simp only [if_neg hstar, if_neg htext, toOption_bind, toOption_map]
  rcases hread : readPieces names false (rawPieces s.length 0 s) with e | ⟨pieces, names'⟩
  · exact ⟨none, fun b => rfl⟩
  have hpieces := isUnconstrained_of_readPieces hread hraws
  simp only [toOption_ok, Option.bind_some]
  by_cases hcapture : ∃ name, pieces = [.capture name none]
  · obtain ⟨name, rfl⟩ := hcapture
    exact ⟨some (.capture name none, names'), fun b => rfl⟩
  · refine ⟨some (.mixed s pieces ⟨mixedSource pieces, mixedExpr false (partsOf pieces)⟩, names'),
      fun b => ?_⟩
    have hmixed : kindOfPieces (o.withCase b) 0 s pieces = readMixed (o.withCase b) 0 s pieces := by
      rw [kindOfPieces]
      · exact fun name heq => hcapture ⟨name, heq⟩
      · rintro name constraint rfl
        simp [Piece.isUnconstrained] at hpieces
    have hparts := piecesOf_partsOf hread hpieces
    have hresult := readMixed_piecesOf (o.withCase b) 0 s (partsOf pieces)
    rw [hparts] at hresult
    rw [hmixed, hresult, Option.bind_some, ElementKind.withCase?]
    by_cases hfits : (mixedExpr (!b) (partsOf pieces)).fits = true
    · exact (congrArg _ (congrArg _ (if_pos hfits))).trans (if_pos hfits).symm
    · exact (congrArg _ (congrArg _ (if_neg hfits))).trans (if_neg hfits).symm

/-! ### Chains -/

namespace Outline

variable {l : Outline} {b : Bool}

/-- A chain with or without regard to case. -/
def withCase (caseSensitive : Bool) (l : Outline) : Outline :=
  ⟨l.kinds.map (ElementKind.withCase caseSensitive), l.names⟩

/-- Whether the elements of a chain all fit with or without regard to case. -/
def fits (caseSensitive : Bool) (l : Outline) : Bool :=
  l.kinds.all fun k => (k.withCase caseSensitive).fits

/-- A chain with or without regard to case, unless one of its elements is too large. -/
def withCase? (caseSensitive : Bool) (l : Outline) : Option Outline :=
  if l.fits caseSensitive then some (l.withCase caseSensitive) else none

theorem isClosed_withCase (b : Bool) (l : Outline) : (l.withCase b).isClosed = l.isClosed := by
  obtain ⟨kinds, names⟩ := l
  rcases kinds with _ | ⟨k, kinds⟩
  · rfl
  · cases k <;> rfl

/-- A step that adds no element that case makes a difference to is the same in both ways. -/
theorem withCase?_step (step : Outline → Outline) (hfits : (step l).fits b = l.fits b)
    (hstep : (step l).withCase b = step (l.withCase b)) :
    (step l).withCase? b = (l.withCase? b).map step := by
  rw [withCase?, withCase?, hfits, hstep]
  split <;> rfl

/-- Whether case makes no difference to an element. -/
def IsNeutral (k : ElementKind) : Prop := ∀ b, k.withCase b = k ∧ k.fits = true

theorem withCase?_push {k : ElementKind} (h : IsNeutral k) (b : Bool) (l : Outline) :
    (l.push k).withCase? b = (l.withCase? b).map (·.push k) := by
  refine withCase?_step (·.push k) ?_ ?_
  · show ((k.withCase b).fits && l.fits b) = l.fits b
    rw [(h b).1, (h b).2, Bool.true_and]
  · show (⟨k.withCase b :: l.kinds.map (ElementKind.withCase b), l.names⟩ : Outline) = _
    rw [(h b).1]
    rfl

theorem withCase?_pushWithSeparator {kind : Bool → ElementKind} (h : ∀ taken, IsNeutral (kind taken))
    (b : Bool) (l : Outline) :
    (l.pushWithSeparator kind).withCase? b = (l.withCase? b).map (·.pushWithSeparator kind) := by
  obtain ⟨kinds, names⟩ := l
  have hpush : ((⟨kinds, names⟩ : Outline).push (kind false)).withCase? b
      = ((⟨kinds, names⟩ : Outline).withCase? b).map (·.push (kind false)) :=
    withCase?_push (h false) b _
  rcases kinds with _ | ⟨k, before⟩
  · exact hpush
  · cases k with
    | separator =>
      refine withCase?_step (·.pushWithSeparator kind) ?_ ?_
      · show (((kind true).withCase b).fits && _) = (true && _)
        rw [(h true b).1, (h true b).2]
        rfl
      · show (⟨(kind true).withCase b :: before.map (ElementKind.withCase b), names⟩ : Outline) = _
        rw [(h true b).1]
        rfl
    | _ =>
      refine hpush.trans ?_
      rw [withCase?]
      split <;> rfl

theorem withCase?_names (names : List (List Char)) (b : Bool) (l : Outline) :
    ({ l with names } : Outline).withCase? b = (l.withCase? b).map ({ · with names }) :=
  withCase?_step ({ · with names }) rfl rfl

/-- A segment adds its element in both ways, unless that one is too large. -/
theorem withCase?_cons (b : Bool) (l : Outline) (r : ElementKind × List (List Char)) :
    (⟨r.1 :: l.kinds, r.2⟩ : Outline).withCase? b = (l.withCase? b).bind fun l' =>
      (ElementKind.withCase? b r).map fun r' => ⟨r'.1 :: l'.kinds, r'.2⟩ := by
  have hfits : (⟨r.1 :: l.kinds, r.2⟩ : Outline).fits b
      = ((r.1.withCase b).fits && l.fits b) := rfl
  rw [withCase?, withCase?, ElementKind.withCase?, hfits]
  cases (r.1.withCase b).fits <;> cases l.fits b <;> rfl

/-- Whether one placing of a token on a chain stands for both. -/
def PlacedAlike (o : PatternOptions) (isLast : Bool) (t : Option (List Char)) (l : Outline) : Prop :=
  ∃ r, ∀ b, ((l.withCase? b).bind fun l' => l'.place (o.withCase b) isLast t)
    = Option.bind r (withCase? b)

section Placing

variable {isLast : Bool} {t : Option (List Char)} {s : List Char} {l : Outline}

/-- A token with a fault has it in both ways. -/
theorem placedAlike_of_none (h : ∀ b, (l.withCase b).place (o.withCase b) isLast t = none) :
    PlacedAlike o isLast t l := by
  refine ⟨none, fun b => ?_⟩
  rw [withCase?]
  split
  · exact h b
  · rfl

/-- A step that is the same in both ways is one placing. -/
theorem placedAlike_of_step (step : Outline → Outline)
    (hplace : ∀ b, (l.withCase b).place (o.withCase b) isLast t = some (step (l.withCase b)))
    (hcase : ∀ b, (step l).withCase? b = (l.withCase? b).map step) :
    PlacedAlike o isLast t l := by
  refine ⟨some (step l), fun b => ?_⟩
  rw [Option.bind_some, hcase, withCase?]
  split
  · exact hplace b
  · rfl

/-- A segment that captures the rest is placed in one way. -/
theorem placedAlike_captureRest {offset : Nat} (hopen : ∀ b, ¬(l.withCase b).isClosed = true)
    (hsegments : s ≠ ['*', '*']) (hrest : findRest s = some offset) :
    PlacedAlike o isLast (some s) l := by
  have hplace (b : Bool) : (l.withCase b).place (o.withCase b) isLast (some s)
      = (readRestName 0 offset s).toOption.bind fun name =>
        (addName l.names 0 name).toOption.map fun names =>
          { l.withCase b with names }.pushWithSeparator fun taken =>
            .captureRest name (if taken then some o.separator else none) := by
    rw [place, if_neg (hopen b)]
    refine (if_neg hsegments).trans ?_
    rw [hrest]
    rfl
  rcases hname : (readRestName 0 offset s).toOption with _ | name
  · exact placedAlike_of_none fun b => by simp [hplace, hname]
  rcases hnames : (addName l.names 0 name).toOption with _ | names
  · exact placedAlike_of_none fun b => by simp [hplace, hname, hnames]
  refine placedAlike_of_step (fun l => { l with names }.pushWithSeparator fun taken =>
    .captureRest name (if taken then some o.separator else none)) (fun b => ?_) fun b => ?_
  · simp [hplace, hname, hnames]
  · rw [withCase?_pushWithSeparator (fun taken _ => ⟨rfl, rfl⟩), withCase?_names, Option.map_map]
    rfl

/-- Any other segment has one reading that stands for both. -/
theorem placedAlike_segment (hopen : ∀ b, ¬(l.withCase b).isClosed = true)
    (hsegments : s ≠ ['*', '*']) (hrest : findRest s = none)
    (hplain : isUnconstrainedSegment s = true) : PlacedAlike o isLast (some s) l := by
  have hplace (b : Bool) : (l.withCase b).place (o.withCase b) isLast (some s)
      = (readSegment (o.withCase b) l.names 0 s).toOption.map fun r =>
        ⟨r.1 :: (l.withCase b).kinds, r.2⟩ := by
    rw [place, if_neg (hopen b)]
    refine (if_neg hsegments).trans ?_
    rw [hrest]
    rfl
  obtain ⟨r, hr⟩ := readSegment_withCase (o := o) hplain hrest l.names
  refine ⟨r.map fun r => ⟨r.1 :: l.kinds, r.2⟩, fun b => ?_⟩
  have hbind : (r.map fun r => (⟨r.1 :: l.kinds, r.2⟩ : Outline)).bind (withCase? b)
      = r.bind fun r => (l.withCase? b).bind fun l' =>
          (ElementKind.withCase? b r).map fun r' => ⟨r'.1 :: l'.kinds, r'.2⟩ := by
    rw [Option.bind_map]
    exact congrArg _ (funext fun r => withCase?_cons b l r)
  rw [hbind, withCase?]
  split
  · simp only [Option.bind_some, hplace, hr, Option.map_bind]
    rfl
  · cases r <;> rfl

end Placing

/-- **One placing of a token stands for both.** -/
theorem place_withCase (isLast : Bool) {t : Option (List Char)}
    (hplain : t.all isUnconstrainedSegment = true) (l : Outline) : PlacedAlike o isLast t l := by
  by_cases hclosed : l.isClosed = true
  · refine placedAlike_of_none fun b => if_pos ?_
    rwa [isClosed_withCase]
  have hopen (b : Bool) : ¬(l.withCase b).isClosed = true := by rwa [isClosed_withCase]
  cases t with
  | none =>
    exact placedAlike_of_step (·.push .separator) (fun b => if_neg (hopen b))
      fun b => withCase?_push (fun _ => ⟨rfl, rfl⟩) b l
  | some s =>
    by_cases hsegments : s = ['*', '*']
    · subst hsegments
      cases isLast with
      | true =>
        refine placedAlike_of_step (·.pushWithSeparator fun taken =>
          if taken then .rest o.separator else .segments) (fun b => if_neg (hopen b)) fun b =>
            withCase?_pushWithSeparator (fun taken => ?_) b l
        cases taken <;> exact fun _ => ⟨rfl, rfl⟩
      | false =>
        exact placedAlike_of_step (·.push .segments) (fun b => if_neg (hopen b))
          fun b => withCase?_push (fun _ => ⟨rfl, rfl⟩) b l
    rcases hrest : findRest s with _ | offset
    · exact placedAlike_segment hopen hsegments hrest hplain
    · exact placedAlike_captureRest hopen hsegments hrest

/-- **One placing of all tokens stands for both.** -/
theorem placeAll_withCase {ts : List (Option (List Char))}
    (hplain : ∀ t ∈ ts, t.all isUnconstrainedSegment = true) (l : Outline) :
    ∃ r, ∀ b, ((l.withCase? b).bind fun l' => l'.placeAll (o.withCase b) ts)
      = Option.bind r (withCase? b) := by
  induction ts generalizing l with
  | nil => exact ⟨some l, fun b => by simp [placeAll]⟩
  | cons t ts ih =>
    obtain ⟨ht, hts⟩ := List.forall_mem_cons.mp hplain
    obtain ⟨r, hr⟩ := place_withCase (o := o) ts.isEmpty ht l
    cases r with
    | none =>
      refine ⟨none, fun b => ?_⟩
      simp only [placeAll]
      rw [← Option.bind_assoc, hr]
      rfl
    | some l₁ =>
      obtain ⟨r', hr'⟩ := ih hts l₁
      refine ⟨r', fun b => ?_⟩
      simp only [placeAll]
      rw [← Option.bind_assoc, hr, ← hr']
      rfl

end Outline

/-- **One reading of a text without constraints stands for both**, but for the size of expressions. -/
theorem read_withCase (hplain : isUnconstrained o.separator text = true) :
    ∃ r, ∀ b, Outline.read (o.withCase b) text = Option.bind r (Outline.withCase? b) := by
  rcases hts : contentsFrom o.separator .outside text with _ | ts
  · refine ⟨none, fun b => ?_⟩
    show (contentsFrom o.separator .outside text).bind _ = _
    rw [hts]
    rfl
  · rw [isUnconstrained, hts] at hplain
    obtain ⟨r, hr⟩ := Outline.placeAll_withCase (o := o) (List.all_eq_true.mp hplain) .empty
    refine ⟨r, fun b => ?_⟩
    rw [← hr b]
    show (contentsFrom o.separator .outside text).bind _ = _
    rw [hts]
    rfl

end PathRouting
