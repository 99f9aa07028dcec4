import PathRouting.Proofs.Pattern.Accept
import PathRouting.Proofs.Pattern.Constraint
import PathRouting.Proofs.Regex.Enclosed

/-!
# Captures with a constraint

A constraint is free text, which three scans go through: one cuts the pattern, one looks for `{*`,
and one looks for the brace that closes the capture.  The first and the last count braces alike and
skip what a backslash escapes; the one that looks for `{*` knows neither of constraints nor of
backslashes.  A constraint whose braces are balanced and that is a regular expression is therefore
accepted, unless it has a `{*` in it, or hides the closing brace from the scans, or cannot be put
between the two ends of a text.

## Main definitions

* `openBraces` — the braces that are open after a part of a constraint.
* `constrainedCapture` — the text of a capture with a constraint.

## Main results

* `passes_constrainedCapture`, `closing_openBraces` — the scans that count braces.
* `findRest_constrainedCapture` — the scan that does not.
* `readSegment_constrainedCapture` — the element that the capture is.
* `parse_constrainedCapture` — **a pattern of the separator and a capture with a constraint**.
-/

namespace PathRouting

open Regex

variable {o : PatternOptions} {separator : Char} {name constraint s : List Char}
  {depth depth' : Nat} {escaped escaped' : Bool}

/-! ### Braces -/

/-- The braces that are open after a part of a constraint, beginning with `depth` of them, and
whether a backslash comes last.  There is nothing to say when the part closes the capture. -/
def openBraces : Nat → Bool → List Char → Option (Nat × Bool)
  | depth, escaped, [] => some (depth, escaped)
  | depth, escaped, c :: s =>
    (closeStep depth escaped c).bind fun (depth, escaped) => openBraces depth escaped s

theorem openBraces_cons_eq_some {c : Char} {r : Nat × Bool} :
    openBraces depth escaped (c :: s) = some r ↔ ∃ next, closeStep depth escaped c = some next ∧
      openBraces next.1 next.2 s = some r :=
  Option.bind_eq_some_iff

/-- The scan that cuts the pattern counts these braces. -/
theorem passes_openBraces (h : openBraces depth escaped s = some (depth', escaped')) :
    Braces.Passes separator ⟨depth + 1, true, escaped⟩ s ⟨depth' + 1, true, escaped'⟩ := by
  induction s generalizing depth escaped with
  | nil =>
    obtain ⟨rfl, rfl⟩ := Prod.mk.inj (Option.some.inj h)
    exact .nil _
  | cons c s ih =>
    obtain ⟨⟨depth₁, escaped₁⟩, hstep, hrest⟩ := openBraces_cons_eq_some.mp h
    refine .cons ?_ (by simp [Braces.cutsAt]) (ih hrest)
    rw [step_inConstraint, hstep]

/-- So does the scan for the closing brace. -/
theorem closing_openBraces (h : openBraces depth escaped s = some (0, false))
    (rest : List Char) : closing depth escaped (s ++ '}' :: rest) = some (s, rest) := by
  induction s generalizing depth escaped with
  | nil =>
    obtain ⟨rfl, rfl⟩ := Prod.mk.inj (Option.some.inj h)
    rfl
  | cons c s ih =>
    obtain ⟨⟨depth₁, escaped₁⟩, hstep, hrest⟩ := openBraces_cons_eq_some.mp h
    rw [List.cons_append, closing_cons, hstep]
    simp only [ih hrest, Option.map_some]

/-! ### The text -/

/-- The text of a capture with a constraint. -/
def constrainedCapture (name constraint : List Char) : List Char :=
  '{' :: name ++ ':' :: constraint ++ ['}']

theorem constrainedCapture_eq (name constraint : List Char) :
    constrainedCapture name constraint = '{' :: (name ++ ':' :: (constraint ++ ['}'])) := by
  simp [constrainedCapture]

/-- The capture is passed without a cut; a backslash at the end of the constraint keeps it from
being closed. -/
theorem passes_constrainedCapture (hname : IsName name)
    (hbraces : openBraces 0 false constraint = some (0, escaped)) :
    Braces.outside.Passes separator (constrainedCapture name constraint)
      (if escaped then ⟨1, true, false⟩ else .outside) := by
  have hopen : Braces.outside.Passes separator ['{'] ⟨1, false, false⟩ :=
    .cons Braces.step_outside_open (by simp [Braces.cutsAt]) (.nil _)
  have hcolon : Braces.Passes separator ⟨1, false, false⟩ [':'] ⟨1, true, false⟩ :=
    .cons rfl (by simp [Braces.cutsAt]) (.nil _)
  have hclose : Braces.Passes separator ⟨1, true, escaped⟩ ['}']
      (if escaped then ⟨1, true, false⟩ else .outside) := by
    refine .cons ?_ (by simp [Braces.cutsAt]) (.nil _)
    cases escaped <;> rfl
  have hpasses := hopen.append ((passes_inCapture hname.ne_brace).append
    (hcolon.append ((passes_openBraces hbraces).append hclose)))
  simpa [constrainedCapture] using hpasses

/-- The brace that closes the capture begins nothing. -/
theorem findRest_append_close (s : List Char) : findRest (s ++ ['}']) = findRest s := by
  induction s with
  | nil => rfl
  | cons c s ih =>
    by_cases hrest : c = '{' ∧ s.head? = some '*'
    · obtain ⟨rfl, hhead⟩ := hrest
      obtain ⟨s, rfl⟩ := List.head?_eq_some_iff.mp hhead
      rfl
    · have hno : c = '{' → s.head? ≠ some '*' := fun hc hs => hrest ⟨hc, hs⟩
      have hno' : c = '{' → (s ++ ['}']).head? ≠ some '*' := by
        intro hc
        cases s with
        | nil => simp
        | cons d s => exact hno hc
      rw [List.cons_append, findRest_cons hno, findRest_cons hno', ih]

/-- The scan for `{*` looks into the constraint. -/
theorem findRest_constrainedCapture (hname : IsName name) (constraint : List Char) :
    findRest (constrainedCapture name constraint)
      = (findRest constraint).map (· + (name.length + 2)) := by
  have hstar : (name ++ ':' :: (constraint ++ ['}'])).head? ≠ some '*' := by
    intro hhead
    cases name with
    | nil => exact hname
    | cons c name =>
      obtain rfl : c = '*' := by simpa using hhead
      exact absurd (hname.chars '*' List.mem_cons_self) (by decide)
  rw [constrainedCapture_eq, findRest_cons fun _ => hstar,
    findRest_append (hname.notMem (by decide)), findRest_cons (by simp), findRest_append_close]
  simp only [Option.map_map, Function.comp_def]
  congr 1
  funext n
  omega

/-- What stands between the braces is cut at the first colon. -/
theorem nameAndConstraint_append (hname : ':' ∉ name) (constraint : List Char) :
    nameAndConstraint (name ++ ':' :: constraint) = (name, some constraint) := by
  have hcut : Text.cutAt ':' (name ++ ':' :: constraint) = some (name, constraint) := by
    induction name with
    | nil => simp [Text.cutAt]
    | cons c name ih =>
      obtain ⟨hc, hname⟩ := not_or.mp (mt List.mem_cons.mpr hname)
      rw [List.cons_append, Text.cutAt, if_neg (Ne.symm hc), ih hname]
      rfl
  rw [nameAndConstraint, hcut]

/-- The text between the braces is one piece. -/
theorem rawPieces_constrainedCapture (hname : IsName name)
    (hbraces : openBraces 0 false constraint = some (0, false)) (position : Nat) :
    rawPieces (constrainedCapture name constraint).length position
        (constrainedCapture name constraint)
      = [.braced (position + 1) (name ++ ':' :: constraint)] := by
  have hconstraint : closing 0 false (':' :: (constraint ++ ['}']))
      = some (':' :: constraint, []) := closing_openBraces (s := ':' :: constraint) hbraces []
  have hsplit : splitCapture (name ++ ':' :: (constraint ++ ['}']))
      = (name ++ ':' :: constraint, []) := by
    rw [splitCapture, closing_append_name hname.chars, hconstraint]
    rfl
  rw [constrainedCapture_eq, List.length_cons, rawPieces, if_pos rfl, hsplit]
  cases (name ++ ':' :: (constraint ++ ['}'])).length <;> rfl

/-- **The capture is read** as one with its name and its constraint, which is compiled between the
two ends of a text. -/
theorem readSegment_constrainedCapture (hname : IsName name) (hne : constraint ≠ [])
    (hbraces : openBraces 0 false constraint = some (0, false)) {names : List (List Char)}
    (hfresh : name ∉ names) (position : Nat) :
    readSegment o names position (constrainedCapture name constraint)
      = (compileAt o position (constraintSource constraint)).map fun re =>
        (.capture name (some (constraint, re)), name :: names) := by
  have hcheck : checkName (.emptyName, position + 1) (position + 1) name = .ok () :=
    checkName_ok.mpr hname
  have hadd : addName names (position + 1) name = .ok (name :: names) :=
    addName_ok.mpr ⟨hfresh, rfl⟩
  have hcapture : readCapture names (position + 1) (name ++ ':' :: constraint)
      = .ok (.capture name (some constraint), name :: names) := by
    rw [readCapture_eq, nameAndConstraint_append (hname.notMem (by decide)), hcheck, hadd]
    exact if_neg fun heq => hne (Option.some.inj heq)
  have hstar : constrainedCapture name constraint ≠ ['*'] := by simp [constrainedCapture]
  have hopen : (!(constrainedCapture name constraint).contains '{'
      && !(constrainedCapture name constraint).contains '*') ≠ true := by
    simp [constrainedCapture]
  rw [readSegment_eq, if_neg hstar, if_neg hopen, rawPieces_constrainedCapture hname hbraces,
    readPieces_braced, if_neg Bool.false_ne_true, hcapture]
  show (kindOfPieces o position _ [.capture name (some constraint)]).map _ = _
  rw [kindOfPieces]
  cases compileAt o position (constraintSource constraint) <;> rfl

/-! ### The pattern -/

/-- A text in which braces stay open is not cut at all. -/
theorem tokensFrom_open {b b' : Braces} (h : b.Passes separator s b') (hopen : b'.depth ≠ 0)
    (position : Nat) :
    tokensFrom separator b position s = .error (.missingClose, position + s.length) := by
  induction h generalizing position with
  | nil b => exact if_neg hopen
  | @cons b next b' c s step cut rest ih =>
    rw [tokensFrom, step, List.length_cons, ← Nat.add_assoc, Nat.add_right_comm]
    show (tokensFrom separator next (position + 1) s).map _ = _
    rw [ih hopen]
    rfl

/-- A backslash at the end of the constraint takes the closing brace in. -/
theorem tokens_constrainedCapture_of_escaped (hvalid : o.validate = .ok o) (hname : IsName name)
    (hbraces : openBraces 0 false constraint = some (0, true)) :
    tokens o.separator (o.separator :: constrainedCapture name constraint)
      = .error (.missingClose, (o.separator :: constrainedCapture name constraint).length) := by
  obtain ⟨hopen, hclose, -⟩ := separator_ne hvalid
  have hpasses : Braces.outside.Passes o.separator (constrainedCapture name constraint)
      ⟨1, true, false⟩ := passes_constrainedCapture hname hbraces
  have hrest := tokensFrom_open hpasses Nat.one_ne_zero 1
  rw [tokens, tokensFrom, Braces.step_outside hopen hclose]
  show (tokensFrom o.separator .outside (0 + 1) _).map _ = _
  rw [hrest, List.length_cons, Nat.add_comm]
  rfl

/-- The separator and the capture are cut from each other. -/
theorem tokens_constrainedCapture (hvalid : o.validate = .ok o) (hname : IsName name)
    (hbraces : openBraces 0 false constraint = some (0, false)) :
    tokens o.separator (o.separator :: constrainedCapture name constraint)
      = .ok [.separator 0, .segment 1 (constrainedCapture name constraint)] := by
  obtain ⟨hopen, hclose, -⟩ := separator_ne hvalid
  have hpassed : ∀ r ∈ [Run.separator, .text (constrainedCapture name constraint)],
      r.IsPassed o.separator := by
    simp only [List.forall_mem_cons, List.not_mem_nil, false_implies, implies_true, and_true]
    exact ⟨⟨hopen, hclose⟩, by simp [constrainedCapture], passes_constrainedCapture hname hbraces⟩
  have hchain : [Run.separator, .text (constrainedCapture name constraint)].IsChain
      fun r r' => r = .separator ∨ r' = .separator := by simp
  have hcut := tokensFrom_runs hpassed hchain 0
  rwa [show [Run.separator, .text (constrainedCapture name constraint)].flatMap
    (Run.raw o.separator) = o.separator :: constrainedCapture name constraint by simp [Run.raw]]
    at hcut

/-- A constraint that can be read alone is compiled if it can be put between the two ends. -/
theorem compileAt_constraintSource {item : Item}
    (hread : read? (baseFlags (!o.caseSensitive)) constraint = some item) (position : Nat) :
    (FitsBetween (baseFlags (!o.caseSensitive)) constraint item →
      compileAt o position (constraintSource constraint) = .ok ⟨constraintSource constraint,
        anchored (baseFlags (!o.caseSensitive)) item.expr⟩) ∧
    (¬FitsBetween (baseFlags (!o.caseSensitive)) constraint item →
      compileAt o position (constraintSource constraint)
        = .error (.malformedConstraint, position)) := by
  have hsource : constraintSource constraint = enclosed constraint := rfl
  refine ⟨fun hfits => ?_, fun hfits => ?_⟩
  · rw [compileAt, Regex.compile?, hsource, parse?_enclosed_of_fits rfl hread hfits]
    rfl
  · rw [compileAt, Regex.compile?, hsource, parse?_enclosed_of_not_fits rfl hread hfits]
    rfl

/-- A `{*` that does not stand first is no capture of the rest. -/
theorem place_error_of_findRest {ch : Chain} {isLast : Bool} {position offset : Nat}
    (hopen : ch.isClosed = false) (hsegments : s ≠ ['*', '*']) (hrest : findRest s = some offset)
    (hoffset : offset ≠ 0) : Chain.place o isLast ch (.segment position s)
      = .error (.restNotAlone, position + offset) := by
  unfold Chain.place
  simp only [hopen, hsegments, hrest, Bool.false_eq_true, if_false]
  rw [readRestName, if_pos (.inl hoffset)]
  rfl

/-- Placing the two is placing the capture. -/
theorem placeAll_constrainedCapture (o : PatternOptions) (s : List Char) :
    Chain.placeAll o ⟨[], []⟩ [.separator 0, .segment 1 s]
      = Chain.place o true ⟨[⟨0, .separator⟩], []⟩ (.segment 1 s) := by
  rw [Chain.placeAll, Chain.place_separator rfl]
  show (Chain.place o true ⟨[⟨0, .separator⟩], []⟩ (.segment 1 s) >>= Except.ok) = _
  cases Chain.place o true ⟨[⟨0, .separator⟩], []⟩ (.segment 1 s) <;> rfl

/-- **A pattern of the separator and a capture with a constraint.**  The constraint is one that can
be read alone and closes all braces that it opens, and no more.  The pattern is then the two
elements, with the constraint between the two ends of a text, and there are three ways for it to be
refused: the constraint ends with a backslash, has a `{*` in it, or cannot be put between the
ends. -/
theorem parse_constrainedCapture (hvalid : o.validate = .ok o) (hname : IsName name)
    (hne : constraint ≠ []) {item : Item}
    (hread : read? (baseFlags (!o.caseSensitive)) constraint = some item)
    (hbraces : openBraces 0 false constraint = some (0, escaped)) :
    let text := o.separator :: constrainedCapture name constraint
    let fits := FitsBetween (baseFlags (!o.caseSensitive)) constraint item
    (escaped = true → Pattern.parse o text = .error ⟨text, text.length, .missingClose⟩) ∧
    (escaped = false →
      (∀ n, findRest constraint = some n →
        Pattern.parse o text = .error ⟨text, name.length + 3 + n, .restNotAlone⟩) ∧
      (findRest constraint = none → ¬fits →
        Pattern.parse o text = .error ⟨text, 1, .malformedConstraint⟩) ∧
      (findRest constraint = none → fits →
        Pattern.parse o text = .ok ⟨text, o, [⟨0, .separator⟩, ⟨1, .capture name
          (some (constraint, ⟨constraintSource constraint,
            anchored (baseFlags (!o.caseSensitive)) item.expr⟩))⟩]⟩)) := by
  intro text fits
  refine ⟨?_, ?_⟩
  · rintro rfl
    exact parse_error_of_tokens (tokens_constrainedCapture_of_escaped hvalid hname hbraces)
  rintro rfl
  have htokens := tokens_constrainedCapture hvalid hname hbraces
  have hsegments : constrainedCapture name constraint ≠ ['*', '*'] := by simp [constrainedCapture]
  -- a constraint without a `{*` is compiled
  have hplace : findRest constraint = none →
      Chain.placeAll o ⟨[], []⟩ [.separator 0, .segment 1 (constrainedCapture name constraint)]
        = (compileAt o 1 (constraintSource constraint)).map fun re =>
          ⟨[⟨1, .capture name (some (constraint, re))⟩, ⟨0, .separator⟩], [name]⟩ := by
    intro hrest
    rw [placeAll_constrainedCapture, Chain.place_segment rfl hsegments
        (by rw [findRest_constrainedCapture hname, hrest]; rfl),
      readSegment_constrainedCapture hname hne hbraces (by simp)]
    cases compileAt o 1 (constraintSource constraint) <;> rfl
  refine ⟨fun n hrest => ?_, fun hrest hfits => ?_, fun hrest hfits => ?_⟩
  · have hinside : findRest (constrainedCapture name constraint) = some (n + (name.length + 2)) := by
      rw [findRest_constrainedCapture hname, hrest]
      rfl
    have hposition : 1 + (n + (name.length + 2)) = name.length + 3 + n := by omega
    refine parse_error_of_placeAll htokens ?_
    rw [placeAll_constrainedCapture, place_error_of_findRest rfl hsegments hinside (by omega),
      hposition]
  · refine parse_error_of_placeAll htokens ?_
    rw [hplace hrest, (compileAt_constraintSource hread 1).2 hfits]
    rfl
  · have hchain := hplace hrest
    rw [(compileAt_constraintSource hread 1).1 hfits] at hchain
    exact parse_of_placeAll htokens hchain

/-- A constraint with braces of its own. -/
theorem parse_constrainedCapture_twoDigits : ∃ item,
    PatternOptions.default.validate = .ok .default ∧ IsName ['n'] ∧
      read? (baseFlags false) "[0-9]{2}".toList = some item ∧
      openBraces 0 false "[0-9]{2}".toList = some (0, false) ∧
      Pattern.parse .default "/{n:[0-9]{2}}".toList
        = .ok ⟨"/{n:[0-9]{2}}".toList, .default, [⟨0, .separator⟩, ⟨1, .capture ['n']
          (some ("[0-9]{2}".toList, ⟨"^(?:[0-9]{2})$".toList,
            anchored (baseFlags false) item.expr⟩))⟩]⟩ := by
  have hvalid : PatternOptions.default.validate = .ok .default := rfl
  have hname : IsName ['n'] := ⟨by decide, by simp⟩
  have hfound : ∃ item ∈ read? (baseFlags false) "[0-9]{2}".toList,
      item.depth + 2 ≤ maxDepth ∧ (anchored (baseFlags false) item.expr).fits = true := by
    decide +kernel
  have hcomment : read? (baseFlags false) ("[0-9]{2}".toList ++ Regex.closing) = none := by
    decide +kernel
  have hbraces : openBraces 0 false "[0-9]{2}".toList = some (0, false) := by decide +kernel
  obtain ⟨item, hread, hdepth, hroom⟩ := hfound
  have hparse := (parse_constrainedCapture hvalid hname (by decide) hread hbraces).2 rfl
  exact ⟨item, hvalid, hname, hread, hbraces, hparse.2.2 (by decide) ⟨hcomment, hdepth, hroom⟩⟩

/-- A constraint that is an escaped brace any number of times: its `{*` is taken for a capture of
the rest. -/
theorem parse_constrainedCapture_star :
    IsName ['n'] ∧ (Regex.compile? false "\\\x7b*".toList).isSome = true ∧
      openBraces 0 false "\\\x7b*".toList = some (0, false) ∧
      Pattern.parse .default "/\x7bn:\\\x7b*\x7d".toList
        = .error ⟨"/\x7bn:\\\x7b*\x7d".toList, 5, .restNotAlone⟩ := by
  have hname : IsName ['n'] := ⟨by decide, by simp⟩
  have hcompile : (Regex.compile? false "\\\x7b*".toList).isSome = true := by decide +kernel
  have hbraces : openBraces 0 false "\\\x7b*".toList = some (0, false) := by decide
  have htokens := tokens_constrainedCapture (o := .default) rfl hname hbraces
  refine ⟨hname, hcompile, hbraces, parse_error_of_placeAll htokens ?_⟩
  rw [placeAll_constrainedCapture]
  exact place_error_of_findRest rfl (by decide) (by rfl : findRest _ = some 4) (by decide)

end PathRouting
