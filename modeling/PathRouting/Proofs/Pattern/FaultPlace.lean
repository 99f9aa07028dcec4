import PathRouting.Proofs.Pattern.CaptureEnd
import PathRouting.Proofs.Pattern.Layout

/-!
# Where faults are found

A fault comes with the place of the character that is to blame.  The places are counted apart, by
each step of reading from where its own part of the text starts: the brace that opens nothing, the
colon without a constraint, the first character of a name.  They are right because each part stands
where the step before it says, and for captures because the brace that closes one is found where the
text closes it.

## Main definitions

* `expressionOf` — the regular expression that pieces make.
* `PatternCause.StandsAt` — what stands at the place of a fault.

## Main results

* `standsAt_of_tokensFrom`, `standsAt_of_readCapture`, `standsAt_of_readPieces`,
  `standsAt_of_readSegment`, `standsAt_of_readRestName`, `standsAt_of_placeAll` — the faults of each
  step of reading.
* `standsAt_of_parse` — **a fault is found at the character to blame**, past the last one only where
  a brace is missing.
-/

namespace PathRouting

/-! ### What stands at the place of a fault -/

/-- The regular expression for the checked pieces of a segment, if they need one. -/
def expressionOf : List Piece → Option (List Char)
  | [.capture _ none] => none
  | [.capture _ (some constraint)] => some (constraintSource constraint)
  | pieces => some (mixedSource pieces)

/-- A segment of a text, the place where it starts, and the pieces that it is made of. -/
structure HasPieces (o : PatternOptions) (text : List Char) (position : Nat) (segment : List Char)
    (pieces : List Piece) : Prop where
  /-- The segment is one of the tokens of the text. -/
  token : ∃ ts, tokens o.separator text = .ok ts ∧ .segment position segment ∈ ts
  /-- The pieces are read from it. -/
  read : ∃ names afterwards,
    readPieces names false (rawPieces segment.length position segment) = .ok (pieces, afterwards)

/-- What stands at the place of a fault. -/
def PatternCause.StandsAt (o : PatternOptions) (text : List Char) (position : Nat) :
    PatternCause → Prop
  | missingClose => position = text.length
  | missingOpen => text[position]? = some '}'
  | nestedCapture => text[position]? = some '{'
  | adjacentCaptures => text[position]? = some '{'
  | emptyName => ∃ i, position = i + 1 ∧ text[i]? = some '{' ∧
      (text[position]? = some '}' ∨ text[position]? = some ':')
  | illegalStart c => text[position]? = some c
  | illegalChar c => text[position]? = some c
  | missingConstraint => text[position]? = some '}'
  | duplicateName name => name ≠ [] ∧ name <+: text.drop position ∨
      '{' :: '*' :: name <+: text.drop position
  | malformedConstraint => ∃ segment pieces source, HasPieces o text position segment pieces ∧
      expressionOf pieces = some source ∧ Regex.compile? (!o.caseSensitive) source = none
  | groupInConstraint segment => ∃ pieces re, HasPieces o text position segment pieces ∧
      Regex.compile? (!o.caseSensitive) (mixedSource pieces) = some re ∧
      re.groupCount ≠ (captureNames pieces).length
  | restNotAlone => text[position]? = some '{' ∧ text[position + 1]? = some '*'
  | restWithoutName => text[position]? = some '{'
  | afterRest => position < text.length ∧ ∃ i, position = i + 1 ∧ text[i]? = some '}'

variable {o : PatternOptions} {text s after name : List Char} {position p : Nat} {b : Braces}
  {cause : PatternCause} {names : List (List Char)}

/-! ### Parts of a text -/

/-- A character of a part stands in the text as far from where the part starts. -/
theorem getElem?_of_drop {i : Nat} {c : Char} (hdrop : text.drop position = s ++ after)
    (hc : s[i]? = some c) : text[position + i]? = some c := by
  rw [← List.getElem?_drop, hdrop, List.getElem?_append_left (List.getElem?_eq_some_iff.mp hc).1]
  exact hc

theorem drop_of_drop_append {t : List Char} (hdrop : text.drop position = s ++ t) :
    text.drop (position + s.length) = t := by
  rw [← List.drop_drop, hdrop, List.drop_left]

/-- A segment stands where it says. -/
theorem drop_of_mem_tokens {separator : Char} {ts : List Token}
    (h : tokens separator text = .ok ts) (hs : .segment position s ∈ ts) :
    ∃ after, text.drop position = s ++ after ∧ s ≠ [] := by
  obtain ⟨before, after, rfl, rfl, -⟩ := exists_before_of_mem_tokens h hs
  exact ⟨after, List.drop_left, (tiles_tokensFrom h).2 _ hs⟩

/-- Only where a brace is missing a fault is found past the last character. -/
theorem PatternCause.StandsAt.lt_length (h : cause.StandsAt o text position)
    (hcause : cause ≠ .missingClose) : position < text.length := by
  have hchar {c : Char} (h : text[position]? = some c) : position < text.length :=
    (List.getElem?_eq_some_iff.mp h).1
  have hprefix {s : List Char} (hs : s ≠ []) (h : s <+: text.drop position) :
      position < text.length := by
    by_contra hge
    rw [List.drop_of_length_le (Nat.le_of_not_lt hge)] at h
    exact hs (List.prefix_nil.mp h)
  have hpieces {segment : List Char} {pieces : List Piece}
      (h : HasPieces o text position segment pieces) : position < text.length := by
    obtain ⟨ts, hts, hmem⟩ := h.token
    obtain ⟨after, hdrop, hne⟩ := drop_of_mem_tokens hts hmem
    exact hprefix hne ⟨after, hdrop.symm⟩
  cases cause with
  | missingClose => exact absurd rfl hcause
  | missingOpen => exact hchar h
  | nestedCapture => exact hchar h
  | adjacentCaptures => exact hchar h
  | emptyName =>
    obtain ⟨i, -, -, hclose | hcolon⟩ := h
    · exact hchar hclose
    · exact hchar hcolon
  | illegalStart c => exact hchar h
  | illegalChar c => exact hchar h
  | missingConstraint => exact hchar h
  | duplicateName name =>
    rcases h with ⟨hname, hcapture⟩ | hrest
    · exact hprefix hname hcapture
    · exact hprefix (List.cons_ne_nil _ _) hrest
  | malformedConstraint =>
    obtain ⟨segment, pieces, source, hsegment, -⟩ := h
    exact hpieces hsegment
  | groupInConstraint segment =>
    obtain ⟨pieces, re, hsegment, -⟩ := h
    exact hpieces hsegment
  | restNotAlone => exact hchar h.1
  | restWithoutName => exact hchar h
  | afterRest => exact h.1

/-! ### Tokens -/

/-- Only braces are ever to blame for where they stand. -/
theorem Braces.step_eq_error {c : Char} (h : b.step c = .error cause) :
    cause = .nestedCapture ∧ c = '{' ∨ cause = .missingOpen ∧ c = '}' := by
  unfold step at h
  split at h
  · simp at h
  split at h
  · simp at h
  split at h
  · next hopen =>
    split at h
    · simp at h
    split at h
    · simp at h
    · exact .inl ⟨(Except.error.inj h).symm, hopen⟩
  split at h
  · next hclose =>
    split at h
    · exact .inr ⟨(Except.error.inj h).symm, hclose⟩
    · simp at h
    · simp at h
  split at h
  · simp at h
  · simp at h

/-- The faults of cutting a text into tokens. -/
theorem standsAt_of_tokensFrom (hdrop : text.drop position = s) (hle : position ≤ text.length)
    (h : tokensFrom o.separator b position s = .error (cause, p)) : cause.StandsAt o text p := by
  induction s generalizing b position with
  | nil =>
    rw [tokensFrom] at h
    split at h
    · simp at h
    · obtain ⟨rfl, rfl⟩ := Prod.mk.inj (Except.error.inj h)
      exact Nat.le_antisymm hle (List.drop_eq_nil_iff.mp hdrop)
  | cons c s ih =>
    obtain ⟨hchar, hlength, htail⟩ := Indexed.drop_eq_cons hdrop
    rw [tokensFrom] at h
    split at h
    · next hstep =>
      obtain ⟨rfl, rfl⟩ := Prod.mk.inj (Except.error.inj h)
      rcases Braces.step_eq_error hstep with ⟨rfl, rfl⟩ | ⟨rfl, rfl⟩
      · exact hchar
      · exact hchar
    · exact ih htail (by omega) (map_eq_error.mp h)

/-! ### Names -/

theorem checkName_eq_error {whenEmpty : PatternCause × Nat}
    (h : checkName whenEmpty position name = .error (cause, p)) :
    name = [] ∧ whenEmpty = (cause, p) ∨ ∃ i c, name[i]? = some c ∧ p = position + i ∧
      (cause = .illegalStart c ∨ cause = .illegalChar c) := by
  cases name with
  | nil => exact .inl ⟨rfl, Except.error.inj h⟩
  | cons c s =>
    right
    rw [checkName] at h
    split at h
    · obtain ⟨rfl, rfl⟩ := Prod.mk.inj (Except.error.inj h)
      exact ⟨0, c, rfl, rfl, .inl rfl⟩
    split at h
    · next bad place hillegal =>
      obtain ⟨rfl, rfl⟩ := Prod.mk.inj (Except.error.inj h)
      rw [Indexed.firstIllegal_eq, Option.bind_eq_some_iff] at hillegal
      obtain ⟨i, -, hi⟩ := hillegal
      obtain ⟨d, hd, heq⟩ := Option.map_eq_some_iff.mp hi
      obtain ⟨rfl, rfl⟩ := Prod.mk.inj heq
      exact ⟨i, d, hd, rfl, .inr rfl⟩
    · simp at h

/-- The faults of a name that is not empty. -/
theorem standsAt_of_checkName {whenEmpty : PatternCause × Nat}
    (hdrop : text.drop position = name ++ after) (hname : name ≠ [])
    (h : checkName whenEmpty position name = .error (cause, p)) : cause.StandsAt o text p := by
  rcases checkName_eq_error h with ⟨hempty, -⟩ | ⟨i, c, hc, rfl, rfl | rfl⟩
  · exact absurd hempty hname
  · exact getElem?_of_drop hdrop hc
  · exact getElem?_of_drop hdrop hc

theorem addName_eq_error (h : addName names position name = .error (cause, p)) :
    cause = .duplicateName name ∧ p = position := by
  unfold addName at h
  split at h
  · obtain ⟨rfl, rfl⟩ := Prod.mk.inj (Except.error.inj h)
    exact ⟨rfl, rfl⟩
  · simp at h

theorem IsName.ne_nil (h : IsName name) : name ≠ [] := by
  rintro rfl
  exact h

/-! ### Captures -/

/-- The text between braces is the name and, after a colon, the constraint. -/
theorem eq_nameAndConstraint (inner : List Char) : inner = (nameAndConstraint inner).1
    ++ ((nameAndConstraint inner).2.elim [] fun constraint => ':' :: constraint) := by
  unfold nameAndConstraint
  rcases hcut : Text.cutAt ':' inner with _ | ⟨name, constraint⟩
  · simp
  · exact (Text.cutAt_eq_some hcut).1

/-- The faults of a capture whose text starts at `i + 1`. -/
theorem standsAt_of_readCapture {i : Nat} {inner : List Char} (hopen : text[i]? = some '{')
    (hdrop : text.drop (i + 1) = inner ++ after)
    (hclose : '\\' ∉ (nameAndConstraint inner).1 → text[i + 1 + inner.length]? = some '}')
    (h : readCapture names (i + 1) inner = .error (cause, p)) : cause.StandsAt o text p := by
  have hinner := eq_nameAndConstraint inner
  rw [readCapture_eq] at h
  generalize nameAndConstraint inner = r at hinner hclose h
  obtain ⟨name, constraint⟩ := r
  dsimp only at hinner hclose h
  have hname : text.drop (i + 1)
      = name ++ ((constraint.elim [] fun constraint => ':' :: constraint) ++ after) := by
    rw [hdrop, hinner, List.append_assoc]
  rcases bind_eq_error.mp h with hcheck | ⟨u, hcheck, h⟩
  · by_cases hempty : name = []
    · -- the character after the opening brace is the closing one or a colon
      subst hempty
      obtain ⟨rfl, rfl⟩ := Prod.mk.inj (Except.error.inj hcheck)
      refine ⟨i, rfl, hopen, ?_⟩
      cases constraint with
      | none =>
        left
        have hend := hclose List.not_mem_nil
        rwa [hinner] at hend
      | some constraint => exact .inr (Indexed.drop_eq_cons hname).1
    · exact standsAt_of_checkName hname hempty hcheck
  have hlegal : IsName name := checkName_ok.mp hcheck
  split at h
  · next hnone =>
    obtain ⟨rfl, rfl⟩ := Prod.mk.inj (Except.error.inj h)
    have hend := hclose (hlegal.notMem (by decide))
    rw [hinner, hnone, List.length_append] at hend
    exact hend
  · obtain ⟨rfl, rfl⟩ := addName_eq_error (map_eq_error.mp h)
    exact .inl ⟨hlegal.ne_nil, _, hname.symm⟩

/-- A capture without a backslash in its name ends with a brace. -/
theorem eq_splitCapture (hrun : Braces.run ⟨1, false, false⟩ s = .ok .outside)
    (hname : '\\' ∉ (nameAndConstraint (splitCapture s).1).1) :
    s = (splitCapture s).1 ++ '}' :: (splitCapture s).2 := by
  rw [splitCapture] at hname ⊢
  rcases hclose : closing 0 false s with _ | ⟨inner, after⟩
  · rw [hclose] at hname
    obtain ⟨r, hr⟩ := exists_closing hrun hname
    simp [hclose] at hr
  · exact closing_eq_some hclose

/-- The text of a capture and what comes after it stand where they say, and between them a brace if
no backslash stands in the name. -/
theorem drop_of_splitCapture {i : Nat} (hrun : Braces.run ⟨1, false, false⟩ s = .ok .outside)
    (hdrop : text.drop (i + 1) = s ++ after) :
    (∃ later, text.drop (i + 1) = (splitCapture s).1 ++ later) ∧
      ('\\' ∉ (nameAndConstraint (splitCapture s).1).1 →
        text[i + 1 + (splitCapture s).1.length]? = some '}') ∧
      text.drop (i + (splitCapture s).1.length + 2) = (splitCapture s).2 ++ after := by
  have hs : s ≠ [] := by
    rintro rfl
    simp [Braces.outside] at hrun
  obtain ⟨last, hsplit⟩ := Indexed.exists_splitCapture hs
  have hclose := eq_splitCapture hrun
  generalize splitCapture s = r at hsplit hclose ⊢
  obtain ⟨inner, later⟩ := r
  dsimp only at hsplit hclose ⊢
  subst hsplit
  rw [List.append_assoc] at hdrop
  obtain ⟨hlast, -, hlater⟩ := Indexed.drop_eq_cons (drop_of_drop_append hdrop)
  refine ⟨⟨_, hdrop⟩, fun hname => ?_, ?_⟩
  · have heq := List.append_cancel_left (hclose hname)
    rw [hlast, (List.cons.inj heq).1]
  · have hplace : i + 1 + inner.length + 1 = i + inner.length + 2 := by omega
    rw [← hplace]
    exact hlater

/-- The faults of the pieces of a segment, or of what is left of it. -/
theorem standsAt_of_readPieces {fuel : Nat} {afterCapture : Bool} (hfuel : s.length ≤ fuel)
    (hrun : Braces.outside.run s = .ok .outside) (hdrop : text.drop position = s ++ after)
    (h : readPieces names afterCapture (rawPieces fuel position s) = .error (cause, p)) :
    cause.StandsAt o text p := by
  induction fuel generalizing s position names afterCapture with
  | zero => simp [rawPieces, readPieces] at h
  | succ fuel ih =>
    cases s with
    | nil => simp [rawPieces, readPieces] at h
    | cons c s =>
      obtain ⟨hchar, -, htail⟩ := Indexed.drop_eq_cons hdrop
      have hlength : s.length ≤ fuel := Nat.le_of_succ_le_succ hfuel
      obtain ⟨next, hstep, hnext⟩ := Braces.run_cons_ok.mp hrun
      by_cases hbrace : c = '{'
      · subst hbrace
        obtain rfl := Except.ok.inj hstep
        obtain ⟨⟨later, hinner⟩, hclose, hlater⟩ := drop_of_splitCapture hnext htail
        rw [rawPieces, if_pos rfl] at h
        dsimp only at h
        rw [readPieces_braced] at h
        split at h
        · obtain ⟨rfl, rfl⟩ := Prod.mk.inj (Except.error.inj h)
          exact hchar
        rcases bind_eq_error.mp h with hcapture | ⟨⟨piece, names'⟩, hcapture, h⟩
        · exact standsAt_of_readCapture hchar hinner hclose hcapture
        · -- what is read has a legal name, so the segment goes on after the capture
          have hname := (capture_of_readCapture hcapture).1
          exact ih (Nat.le_trans (length_splitCapture s) hlength)
            (Indexed.run_after_splitCapture hnext (hname.notMem (by decide))) hlater
            (map_eq_error.mp h)
      · obtain rfl : .outside = next := by
          by_cases hclose : c = '}'
          · simp [hclose] at hstep
          · exact Except.ok.inj ((Braces.step_outside hbrace hclose).symm.trans hstep)
        rw [Indexed.readPieces_outside hbrace] at h
        exact ih hlength hnext htail (map_eq_error.mp h)

/-! ### Segments -/

theorem compileAt_eq_error {source : List Char}
    (h : compileAt o position source = .error (cause, p)) :
    Regex.compile? (!o.caseSensitive) source = none ∧ cause = .malformedConstraint ∧
      p = position := by
  unfold compileAt at h
  split at h
  · simp at h
  · next hcompile =>
    obtain ⟨rfl, rfl⟩ := Prod.mk.inj (Except.error.inj h)
    exact ⟨hcompile, rfl, rfl⟩

theorem compileAt_eq_ok {source : List Char} {re : Regex}
    (h : compileAt o position source = .ok re) :
    Regex.compile? (!o.caseSensitive) source = some re := by
  unfold compileAt at h
  split at h
  · next hcompile => rw [hcompile, Except.ok.inj h]
  · simp at h

/-- The faults of the expression for a segment. -/
theorem standsAt_of_readMixed {pieces : List Piece} (hpieces : HasPieces o text position s pieces)
    (hsource : expressionOf pieces = some (mixedSource pieces))
    (h : readMixed o position s pieces = .error (cause, p)) : cause.StandsAt o text p := by
  rcases bind_eq_error.mp h with hcompile | ⟨re, hcompile, h⟩
  · obtain ⟨hnone, rfl, rfl⟩ := compileAt_eq_error hcompile
    exact ⟨s, pieces, _, hpieces, hsource, hnone⟩
  · split at h
    · next hcount =>
      obtain ⟨rfl, rfl⟩ := Prod.mk.inj (Except.error.inj h)
      exact ⟨pieces, re, hpieces, compileAt_eq_ok hcompile, hcount⟩
    · exact absurd h pure_ne_error

theorem standsAt_of_kindOfPieces {pieces : List Piece}
    (hpieces : HasPieces o text position s pieces)
    (h : kindOfPieces o position s pieces = .error (cause, p)) : cause.StandsAt o text p := by
  unfold kindOfPieces at h
  split at h
  · simp at h
  · next name constraint =>
    obtain ⟨hnone, rfl, rfl⟩ := compileAt_eq_error (map_eq_error.mp h)
    exact ⟨s, _, _, hpieces, rfl, hnone⟩
  · next hfree hconstrained =>
    refine standsAt_of_readMixed hpieces ?_ h
    rw [expressionOf]
    · exact fun name heq => hfree name heq
    · exact fun name constraint heq => hconstrained name constraint heq

/-- The faults of a segment that is neither `**` nor a capture of the rest. -/
theorem standsAt_of_readSegment {ts : List Token} (hts : tokens o.separator text = .ok ts)
    (hs : .segment position s ∈ ts)
    (h : readSegment o names position s = .error (cause, p)) : cause.StandsAt o text p := by
  rw [readSegment_eq] at h
  split at h
  · simp at h
  split at h
  · split at h
    · simp at h
    · simp at h
  rcases bind_eq_error.mp h with hread | ⟨⟨pieces, names'⟩, hread, h⟩
  · obtain ⟨after, hdrop, -⟩ := drop_of_mem_tokens hts hs
    exact standsAt_of_readPieces (Nat.le_refl _) (run_of_mem_tokens hts hs) hdrop hread
  · exact standsAt_of_kindOfPieces ⟨⟨ts, hts, hs⟩, names, names', hread⟩ (map_eq_error.mp h)

/-! ### Captures of the rest -/

theorem findRest_eq_some {offset : Nat} (h : findRest s = some offset) :
    ∃ before t, s = before ++ '{' :: '*' :: t ∧ before.length = offset := by
  induction s generalizing offset with
  | nil => simp [findRest] at h
  | cons c s ih =>
    unfold findRest at h
    split at h
    · next t heq =>
      obtain ⟨rfl, rfl⟩ := List.cons.inj heq
      exact ⟨[], t, rfl, Option.some.inj h⟩
    · next heq =>
      obtain ⟨rfl, rfl⟩ := List.cons.inj heq
      obtain ⟨offset', hfound, rfl⟩ := Option.map_eq_some_iff.mp h
      obtain ⟨before, t, rfl, rfl⟩ := ih hfound
      exact ⟨_ :: before, t, rfl, rfl⟩
    · simp at h

/-- The faults of a capture of the rest. -/
theorem standsAt_of_readRestName {offset : Nat} (hdrop : text.drop position = s ++ after)
    (hfound : findRest s = some offset)
    (h : readRestName position offset s = .error (cause, p)) : cause.StandsAt o text p := by
  obtain ⟨before, t, rfl, rfl⟩ := findRest_eq_some hfound
  rw [List.append_assoc] at hdrop
  obtain ⟨hopen, -, hstar⟩ := Indexed.drop_eq_cons (drop_of_drop_append hdrop)
  unfold readRestName at h
  split at h
  · obtain ⟨rfl, rfl⟩ := Prod.mk.inj (Except.error.inj h)
    exact ⟨hopen, (Indexed.drop_eq_cons hstar).1⟩
  · next halone =>
    simp only [ne_eq, not_or, Decidable.not_not] at halone
    obtain rfl := List.length_eq_zero_iff.mp halone.1
    have hname : text.drop (position + 2) = t.dropLast ++ (t.drop (t.length - 1) ++ after) := by
      rw [List.dropLast_eq_take, ← List.append_assoc, List.take_append_drop]
      exact (Indexed.drop_eq_cons hstar).2.2
    rcases bind_eq_error.mp h with hcheck | ⟨u, -, h⟩
    · rw [List.nil_append, List.drop_succ_cons, List.drop_succ_cons, List.drop_zero] at hcheck
      by_cases hempty : t.dropLast = []
      · rw [hempty] at hcheck
        obtain ⟨rfl, rfl⟩ := Prod.mk.inj (Except.error.inj hcheck)
        exact hopen
      · exact standsAt_of_checkName hname hempty hcheck
    · exact absurd h pure_ne_error

/-! ### The chain -/

namespace Chain

/-- The faults of placing a token. -/
theorem standsAt_of_place {ts : List Token} {ch : Chain} {isLast : Bool} {t : Token}
    (hts : tokens o.separator text = .ok ts) (ht : t ∈ ts)
    (hclosed : ch.isClosed = true → PatternCause.afterRest.StandsAt o text t.position)
    (h : place o isLast ch t = .error (cause, p)) : cause.StandsAt o text p := by
  unfold place at h
  dsimp only at h
  split at h
  · next hclosed' =>
    obtain ⟨rfl, rfl⟩ := Prod.mk.inj (Except.error.inj h)
    exact hclosed hclosed'
  cases t with
  | separator q => exact absurd h pure_ne_error
  | segment q s =>
    dsimp only at h
    split at h
    · split at h
      · exact absurd h pure_ne_error
      · exact absurd h pure_ne_error
    split at h
    · next offset hfound =>
      obtain ⟨after, hdrop, -⟩ := drop_of_mem_tokens hts ht
      rcases bind_eq_error.mp h with hread | ⟨name, hread, h⟩
      · exact standsAt_of_readRestName hdrop hfound hread
      rcases bind_eq_error.mp h with hadd | ⟨names, -, h⟩
      · obtain ⟨rfl, rfl⟩ := addName_eq_error hadd
        obtain rfl := readRestName_ok hfound hread
        rw [List.append_assoc] at hdrop
        exact .inr ⟨_, hdrop.symm⟩
      · exact absurd h pure_ne_error
    · rcases bind_eq_error.mp h with hread | ⟨r, -, h⟩
      · exact standsAt_of_readSegment hts ht hread
      · exact absurd h pure_ne_error

/-- Only a capture of the rest closes the chain, and its segment ends with a brace. -/
theorem Placed.exists_text_of_isClosed {isLast : Bool} {ch ch' : Chain} {t : Token}
    (hplaced : Placed o isLast ch t ch') (hclosed : ch'.isClosed = true) :
    ∃ s, t.text o.separator = s ++ ['}'] := by
  cases hplaced with
  | separator q => simp [push, isClosed] at hclosed
  | rest q q' before hlast helements => simp [isClosed] at hclosed
  | segments q hnot => simp [push, isClosed] at hclosed
  | captureRest q q' offset s name before hfound hread => exact ⟨_, readRestName_ok hfound hread⟩
  | captureRestAlone q offset s name hfound hread => exact ⟨_, readRestName_ok hfound hread⟩
  | single q s kind names hnot hrest hread =>
    have hkind : kind.isCatchAll = false := by
      rcases (readSegment_ok hread).1 with ⟨-, rfl⟩ | htakes
      · rfl
      · exact ElementKind.isCatchAll_of_takes htakes
    have hopen : (push ⟨ch.elements, names⟩ q kind).isClosed = false := isClosed_push hkind
    exact absurd hclosed (by rw [← Bool.not_eq_true] at hopen; exact hopen)

/-- What follows a brace is found after it. -/
theorem standsAt_afterRest {before later : List Token} {t : Token}
    (hts : tokens o.separator text = .ok (before ++ t :: later))
    (hclosed : ∃ s, before.flatMap (Token.text o.separator) = s ++ ['}']) :
    PatternCause.afterRest.StandsAt o text t.position := by
  obtain ⟨s, hs⟩ := hclosed
  obtain ⟨htext, hplace⟩ := text_eq_of_tokens hts
  have hne := (tiles_tokensFrom hts).2 t (List.mem_append_right _ List.mem_cons_self)
  have hpos := List.length_pos_of_ne_nil hne
  rw [hs] at htext hplace
  rw [List.length_append, List.length_singleton] at hplace
  refine ⟨?_, s.length, hplace, ?_⟩
  · rw [htext, hplace, List.length_append, List.length_append, List.length_append]
    simp only [List.length_singleton]
    omega
  · rw [htext, List.append_assoc, List.getElem?_append_right (Nat.le_refl _), Nat.sub_self]
    rfl

/-- The faults of placing the tokens that are left. -/
theorem standsAt_of_placeAll {before ts : List Token} {ch : Chain}
    (hts : tokens o.separator text = .ok (before ++ ts))
    (hclosed : ch.isClosed = true → ∃ s, before.flatMap (Token.text o.separator) = s ++ ['}'])
    (h : placeAll o ch ts = .error (cause, p)) : cause.StandsAt o text p := by
  induction ts generalizing before ch with
  | nil => simp [placeAll] at h
  | cons t rest ih =>
    rcases bind_eq_error.mp h with hplace | ⟨ch', hplace, h⟩
    · exact standsAt_of_place hts (List.mem_append_right _ List.mem_cons_self)
        (fun hch => standsAt_afterRest hts (hclosed hch)) hplace
    · have hnext : before ++ t :: rest = (before ++ [t]) ++ rest := by simp
      rw [hnext] at hts
      refine ih hts (fun hch' => ?_) h
      obtain ⟨s, hs⟩ := (place_ok hplace).2.exists_text_of_isClosed hch'
      refine ⟨before.flatMap (Token.text o.separator) ++ s, ?_⟩
      rw [List.flatMap_append, List.flatMap_singleton, hs, List.append_assoc]

end Chain

/-- **A fault is found at the character to blame.**  What stands there is said by its cause, and the
place is past the last character only where a brace is missing. -/
theorem standsAt_of_parse {fault : PatternFault} (h : Pattern.parse o text = .error fault) :
    fault.pattern = text ∧ fault.position ≤ text.length ∧
      (fault.position = text.length ↔ fault.cause = .missingClose) ∧
      fault.cause.StandsAt o text fault.position := by
  obtain ⟨cause, p, hread, rfl⟩ : ∃ cause p, Pattern.readElements o text = .error (cause, p) ∧
      ⟨text, p, cause⟩ = fault := by
    unfold Pattern.parse at h
    split at h
    · simp at h
    · next cause p hread => exact ⟨cause, p, hread, Except.error.inj h⟩
  have hstands : cause.StandsAt o text p := by
    rcases bind_eq_error.mp hread with htokens | ⟨ts, hts, hread⟩
    · exact standsAt_of_tokensFrom (by rw [List.drop_zero]) (Nat.zero_le _) htokens
    rcases bind_eq_error.mp hread with hplace | ⟨ch, -, hread⟩
    · rw [← List.nil_append ts] at hts
      exact Chain.standsAt_of_placeAll hts (fun hch => by cases hch) hplace
    · exact absurd hread pure_ne_error
  have hiff : p = text.length ↔ cause = .missingClose := by
    constructor
    · intro hp
      by_contra hcause
      exact absurd (hstands.lt_length hcause) (by omega)
    · rintro rfl
      exact hstands
  refine ⟨rfl, ?_, hiff, hstands⟩
  show p ≤ text.length
  by_cases hcause : cause = .missingClose
  · exact Nat.le_of_eq (hiff.mpr hcause)
  · exact Nat.le_of_lt (hstands.lt_length hcause)

/-- In `/{a}{b:}` the second capture is to blame for standing beside the first one, before its colon
is for having no constraint; with a `-` between them the brace after the colon is. -/
theorem standsAt_of_parse_captures :
    let adjacent := ['/', '{', 'a', '}', '{', 'b', ':', '}']
    let apart := ['/', '{', 'a', '}', '-', '{', 'b', ':', '}']
    Pattern.parse .default adjacent = .error ⟨adjacent, 4, .adjacentCaptures⟩ ∧
      adjacent[4]? = some '{' ∧
      Pattern.parse .default apart = .error ⟨apart, 8, .missingConstraint⟩ ∧
      apart[8]? = some '}' := by
  intro adjacent apart
  have hadjacent : Pattern.parse .default adjacent
      = .error ⟨adjacent, 4, .adjacentCaptures⟩ := rfl
  have hapart : Pattern.parse .default apart = .error ⟨apart, 8, .missingConstraint⟩ := rfl
  exact ⟨hadjacent, (standsAt_of_parse hadjacent).2.2.2, hapart, (standsAt_of_parse hapart).2.2.2⟩

end PathRouting
