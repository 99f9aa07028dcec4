import PathRouting.Proofs.Pattern.Indices
import PathRouting.Proofs.Pattern.Written

/-!
# Positions stay in range

A pattern text that is read by positions gives the same result as one that is taken apart, so none
of the steps that are checked ever fails.  What keeps the positions in range is that a segment closes
all braces that it opens.  The search for the brace that closes a capture may fail all the same,
where a backslash hides it; then a backslash stands in the name, and nothing is read after it.

## Main definitions

* `Token.span` — a token as a stretch of the text.
* `Indexed.spans` — the tokens of a text whose first segment may have started earlier.

## Main results

* `Indexed.scan_eq` — the tokens of a text are stretches of it.
* `Indexed.captureEnd_eq` — a capture ends in its segment.
* `Indexed.readPieces_eq` — the pieces of a segment.
* `indexed_parse_eq` — **reading by positions never leaves the range**, and gives the same result.
-/

namespace PathRouting

/-- A token as a stretch of the text. -/
def Token.span : Token → IndexedToken
  | .separator p => .separator p
  | .segment p t => .segment p (p + t.length)

namespace Indexed

variable {o : PatternOptions} {names : List (List Char)} {position : Nat}

/-! ### Results of reading -/

section Lift

variable {α β : Type}

@[simp] theorem lift_ok (a : α) : lift (.ok a) = .ok a := rfl

@[simp] theorem lift_pure (a : α) : lift (pure a) = .ok a := rfl

@[simp] theorem lift_error (cause : PatternCause) (position : Nat) :
    lift (.error (cause, position) : Except _ α) = .error (.malformed cause position) := rfl

@[simp] theorem lift_throw (cause : PatternCause) (position : Nat) :
    lift (throw (cause, position) : Except _ α) = .error (.malformed cause position) := rfl

@[simp] theorem lift_bind (x : Except (PatternCause × Nat) α)
    (f : α → Except (PatternCause × Nat) β) : lift (x >>= f) = lift x >>= fun a => lift (f a) := by
  cases x <;> rfl

@[simp] theorem lift_map (x : Except (PatternCause × Nat) α) (f : α → β) :
    lift (x.map f) = (lift x).map f := by
  cases x <;> rfl

end Lift

/-! ### Tokens -/

theorem step_eq (b : Braces) (i : Nat) (c : Char) :
    step b i c = (b.step c).mapError (.malformed · i) := by
  obtain ⟨depth, inConstraint, escaped⟩ := b
  cases escaped
  · unfold step Braces.step
    split
    · rfl
    split
    · rfl
    split
    · split
      · rfl
      · split <;> rfl
    split
    · rcases depth with _ | _ | depth
      · rfl
      · cases inConstraint <;> rfl
      · cases inConstraint <;> rfl
    split <;> rfl
  · rfl

/-- The tokens of a text that starts at `i`, where the segment before it has started at `start`. -/
def spans (start i : Nat) : List Token → List IndexedToken
  | .segment p t :: rest => .segment start (p + t.length) :: rest.map Token.span
  | ts => pending start i ++ ts.map Token.span

theorem spans_separator (start i p : Nat) (ts : List Token) :
    spans start i (.separator p :: ts) = pending start i ++ .separator p :: ts.map Token.span :=
  rfl

theorem spans_self {i : Nat} {ts : List Token} (h : ∀ t ∈ ts.head?, t.position = i) :
    spans i i ts = ts.map Token.span := by
  rcases ts with _ | ⟨_ | ⟨p, t⟩, rest⟩
  · simp [spans, pending]
  · simp [spans, pending]
  · obtain rfl : p = i := h _ rfl
    rfl

/-- A character that does not cut the text belongs to the segment before it. -/
theorem spans_cons {start i : Nat} (hstart : start ≤ i) (c : Char) {ts : List Token}
    (h : ∀ t ∈ ts.head?, t.position = i + 1) :
    spans start i (Token.cons i c ts) = spans start (i + 1) ts := by
  have hlt : start < i + 1 := Nat.lt_succ_of_le hstart
  rcases ts with _ | ⟨q | ⟨p, t⟩, rest⟩
  · simp [Token.cons, spans, pending, hlt]
  · simp [Token.cons, spans, pending, hlt]
  · obtain rfl : p = i + 1 := h _ rfl
    rw [Token.cons, spans, spans, List.length_cons]
    congr 2
    omega

/-- The first token stands where the text starts. -/
theorem position_of_head {separator : Char} {b : Braces} {i : Nat} {s : List Char}
    {ts : List Token} (h : tokensFrom separator b i s = .ok ts) :
    ∀ t ∈ ts.head?, t.position = i := by
  rcases ts with _ | ⟨t, rest⟩
  · simp
  · intro u hu
    obtain rfl : t = u := Option.some.inj hu
    exact (tiles_tokensFrom h).1.1

theorem scanFrom_eq (separator : Char) {b : Braces} (hb : b.Settled) {start i : Nat}
    (hstart : start ≤ i) (s : List Char) :
    scanFrom separator b start i s = lift ((tokensFrom separator b i s).map (spans start i)) := by
  induction s generalizing b start i with
  | nil =>
    rw [scanFrom, tokensFrom]
    by_cases hdepth : b.depth = 0
    · rw [if_neg (Nat.not_lt_of_le (Nat.le_of_eq hdepth)), if_pos hdepth]
      simp [Except.map, spans]
    · rw [if_pos (Nat.pos_of_ne_zero hdepth), if_neg hdepth]
      rfl
  | cons c s ih =>
    rw [scanFrom, tokensFrom, step_eq]
    rcases hstep : b.step c with cause | next
    · rfl
    have hnext := hb.step hstep
    show (if _ then _ else _) = lift (((tokensFrom separator next (i + 1) s).map _).map _)
    by_cases hcut : b.cutsAt separator c = true
    · -- a text is cut outside of braces only, where nothing is escaped
      have hescaped : b.escaped = false := by
        simp only [Braces.cutsAt, Bool.and_eq_true, beq_iff_eq] at hcut
        rw [hb hcut.1.1.1]
        rfl
      rw [hescaped, hcut, ih hnext (Nat.le_refl _)]
      rcases htokens : tokensFrom separator next (i + 1) s with fault | ts
      · rfl
      · simp [Except.map, spans_separator, spans_self (position_of_head htokens), pure,
          Except.pure, bind, Except.bind]
    · rw [Bool.not_eq_true] at hcut
      rw [hcut, Bool.and_false, ih hnext (Nat.le_succ_of_le hstart)]
      rcases htokens : tokensFrom separator next (i + 1) s with fault | ts
      · rfl
      · simp [Except.map, spans_cons hstart c (position_of_head htokens)]

/-- **The tokens of a text are stretches of it.** -/
theorem scan_eq (separator : Char) (text : List Char) :
    scan separator text = lift ((tokens separator text).map (List.map Token.span)) := by
  rw [scan, scanFrom_eq separator settled_outside (Nat.le_refl 0), tokens]
  rcases htokens : tokensFrom separator .outside 0 text with fault | ts
  · rfl
  · simp [Except.map, spans_self (position_of_head htokens)]

/-! ### Stretches -/

/-- A stretch of a text that is put together of what is before it, the stretch, and what is after
it. -/
theorem textBetween_append (before t after : List Char) :
    textBetween (before ++ t ++ after) before.length (before.length + t.length) = .ok t := by
  rw [textBetween, if_pos (by simp), List.append_assoc, List.take_length_add_append,
    List.drop_left, List.take_left]

theorem textBetween_of_mem_tokens {separator : Char} {text : List Char} {ts : List Token}
    (h : tokens separator text = .ok ts) {p : Nat} {t : List Char} (ht : .segment p t ∈ ts) :
    textBetween text p (p + t.length) = .ok t := by
  obtain ⟨before, after, rfl⟩ := List.append_of_mem ht
  have hcovers := covers_of_tokens h
  rw [List.map_append, List.map_cons] at hcovers
  have hplace : p = _ := hcovers.place_eq
  rw [← hcovers.whole, List.flatMap_append, List.flatMap_cons, ← List.append_assoc, hplace]
  exact textBetween_append _ t _

/-! ### Where captures end -/

/-- A capture leaves one character between what it holds and what comes after it. -/
theorem exists_splitCapture {s : List Char} (hs : s ≠ []) :
    ∃ c, s = (splitCapture s).1 ++ c :: (splitCapture s).2 := by
  unfold splitCapture
  rcases hclose : closing 0 false s with _ | ⟨inner, after⟩
  · exact ⟨s.getLast hs, (List.dropLast_append_getLast hs).symm⟩
  · exact ⟨'}', closing_eq_some hclose⟩

/-- No brace is counted that is not open. -/
theorem captureEndFrom_eq (depth : Nat) (escaped : Bool) (i : Nat) (s : List Char) :
    captureEndFrom (depth + 1) escaped i s
      = .ok ((closing depth escaped s).map fun r => i + r.1.length) := by
  induction s generalizing depth escaped i with
  | nil => simp [captureEndFrom, closing]
  | cons c s ih =>
    have hkeep (depth : Nat) (escaped : Bool) : captureEndFrom (depth + 1) escaped (i + 1) s
        = .ok (((closing depth escaped s).map fun r => (c :: r.1, r.2)).map
          fun r => i + r.1.length) := by
      rw [ih, Option.map_map]
      congr 2
      funext r
      simp only [Function.comp_apply, List.length_cons]
      omega
    rw [captureEndFrom, closing_cons, closeStep.eq_def]
    split
    · exact hkeep depth false
    split
    · exact hkeep depth true
    split
    · exact hkeep (depth + 1) false
    split
    · rcases depth with _ | depth
      · rfl
      · exact hkeep depth false
    · exact hkeep depth false

/-- The first character of what is left of a text, and what is left after it. -/
theorem drop_eq_cons {text s : List Char} {i : Nat} {c : Char} (h : text.drop i = c :: s) :
    text[i]? = some c ∧ text.length = i + 1 + s.length ∧ text.drop (i + 1) = s := by
  have hhead := congrArg List.head? h
  have hlength := congrArg List.length h
  rw [List.head?_drop] at hhead
  rw [List.length_drop, List.length_cons] at hlength
  refine ⟨hhead, by omega, ?_⟩
  rw [← List.drop_drop, h, List.drop_one, List.tail_cons]

/-- **A capture ends in its segment.** -/
theorem captureEnd_eq {segment s : List Char} {i : Nat} (h : segment.drop i = '{' :: s)
    (hs : s ≠ []) : captureEnd segment i = .ok (i + 1 + (splitCapture s).1.length) := by
  obtain ⟨-, hlength, -⟩ := drop_eq_cons h
  have hpos := List.length_pos_of_ne_nil hs
  have hfrom : captureEndFrom 0 false i ('{' :: s)
      = .ok ((closing 0 false s).map fun r => i + 1 + r.1.length) := captureEndFrom_eq 0 false _ s
  rw [captureEnd, h, hfrom, splitCapture]
  rcases closing 0 false s with _ | r
  · show Except.ok (segment.length - 1) = .ok (i + 1 + s.dropLast.length)
    rw [List.length_dropLast]
    congr 1
    omega
  · rfl

/-- What a capture holds is a stretch of its segment, and reading goes on after it. -/
theorem textBetween_capture {segment s : List Char} {i : Nat} (h : segment.drop i = '{' :: s)
    (hs : s ≠ []) : textBetween segment (i + 1) (i + 1 + (splitCapture s).1.length)
        = .ok (splitCapture s).1 ∧
      segment.drop (i + 1 + (splitCapture s).1.length + 1) = (splitCapture s).2 := by
  obtain ⟨last, hsplit⟩ := exists_splitCapture hs
  obtain ⟨-, hlength, htail⟩ := drop_eq_cons h
  generalize splitCapture s = r at hsplit ⊢
  obtain ⟨inner, after⟩ := r
  subst hsplit
  have hfront : (segment.take (i + 1)).length = i + 1 := by
    rw [List.length_take]
    omega
  have hsegment : segment = segment.take (i + 1) ++ inner ++ last :: after := by
    rw [List.append_assoc, ← htail, List.take_append_drop]
  constructor
  · have hbetween := textBetween_append (segment.take (i + 1)) inner (last :: after)
    rwa [← hsegment, hfront] at hbetween
  · rw [← List.drop_drop, ← List.drop_drop, htail, List.drop_left, List.drop_one, List.tail_cons]

/-- **After a capture the segment closes all braces that it opens**, if no backslash stands in the
name. -/
theorem run_after_splitCapture {s : List Char}
    (h : Braces.run ⟨1, false, false⟩ s = .ok .outside)
    (hname : '\\' ∉ (nameAndConstraint (splitCapture s).1).1) :
    Braces.outside.run (splitCapture s).2 = .ok .outside := by
  rw [splitCapture] at hname ⊢
  rcases hclose : closing 0 false s with _ | r
  · -- a brace that is not found is hidden by a backslash in the name
    rw [hclose] at hname
    obtain ⟨r, hr⟩ := exists_closing h hname
    simp [hclose] at hr
  · rw [hclose] at hname
    exact run_after_closing h hclose hname

/-! ### Names -/

theorem firstIllegal_eq (position : Nat) (s : List Char) : firstIllegal position s
    = (s.findIdx? (!isNameChar ·)).bind fun i => s[i]?.map (·, position + i) := by
  induction s generalizing position with
  | nil => rfl
  | cons c s ih =>
    rw [firstIllegal, List.findIdx?_cons]
    by_cases hc : isNameChar c = true
    · rw [if_pos hc, ih]
      simp only [hc, Bool.not_true, Bool.false_eq_true, if_false, Option.bind_map]
      congr 1
      funext i
      simp [Nat.add_comm 1, Nat.add_assoc]
    · simp [hc]

/-- A name that is not empty has a first character, and the illegal character is in it. -/
theorem checkName_eq {name : List Char} (hname : name ≠ []) (whenEmpty : PatternCause × Nat)
    (position : Nat) :
    checkName position name = lift (PathRouting.checkName whenEmpty position name) := by
  obtain ⟨c, s, rfl⟩ := List.exists_cons_of_ne_nil hname
  unfold checkName
  rw [PathRouting.checkName, firstIllegal_eq]
  show (if _ then _ else _) = _
  cases isNameStart c with
  | false => rfl
  | true =>
    rcases hillegal : (c :: s).findIdx? (!isNameChar ·) with _ | i
    · rfl
    · obtain ⟨hlt, -⟩ := List.findIdx?_eq_some_iff_getElem.mp hillegal
      have hbad : (c :: s)[i]? = some (c :: s)[i] := List.getElem?_eq_getElem hlt
      simp [charAt, hbad, bind, Except.bind]

theorem cutAt_eq (c : Char) (s : List Char) : Text.cutAt c s
    = (s.findIdx? (· == c)).map fun i => (s.take i, s.drop (i + 1)) := by
  induction s with
  | nil => rfl
  | cons d s ih =>
    rw [Text.cutAt, List.findIdx?_cons, ih]
    by_cases hd : d = c
    · simp [hd]
    · simp [hd, Option.map_map, Function.comp_def]

/-- The name and the constraint are stretches of the text between braces. -/
theorem splitName_eq (text : List Char) : splitName text = .ok (nameAndConstraint text) := by
  rw [nameAndConstraint, cutAt_eq, splitName]
  rcases hcolon : text.findIdx? (· == ':') with _ | i
  · rfl
  · obtain ⟨hlt, -⟩ := List.findIdx?_eq_some_iff_getElem.mp hcolon
    have hname : textBetween text 0 i = .ok (text.take i) :=
      if_pos ⟨Nat.zero_le i, Nat.le_of_lt hlt⟩
    have hconstraint : textBetween text (i + 1) text.length = .ok (text.drop (i + 1)) := by
      rw [textBetween, if_pos ⟨hlt, Nat.le_refl _⟩, List.take_length]
    dsimp only
    rw [hname, hconstraint]
    rfl

theorem readCapture_eq (names : List (List Char)) (position : Nat) (text : List Char) :
    readCapture names position text = lift (PathRouting.readCapture names position text) := by
  rw [readCapture, splitName_eq, PathRouting.readCapture_eq]
  generalize nameAndConstraint text = r
  obtain ⟨name, constraint⟩ := r
  show (if name = [] then _ else _) = _
  by_cases hname : name = []
  · rw [if_pos hname, hname]
    rfl
  · rw [if_neg hname, lift_bind, ← checkName_eq hname]
    congr 1
    funext _
    split
    · rfl
    · rw [lift_map]
      cases lift (addName names position name) <;> rfl

/-! ### Pieces -/

section Pieces

variable {segment : List Char} {i : Nat} {afterCapture : Bool} {c : Char}

theorem readPieces_end (h : segment.length ≤ i) :
    readPieces segment position i names afterCapture = .ok ([], names) := by
  rw [readPieces, if_neg (Nat.not_lt_of_le h)]

theorem readPieces_char (h : segment[i]? = some c) (hc : c ≠ '{') :
    readPieces segment position i names afterCapture
      = (readPieces segment position (i + 1) names false).map fun r => (consPiece c r.1, r.2) := by
  obtain ⟨hlt, -⟩ := List.getElem?_eq_some_iff.mp h
  have hchar : charAt segment i = .ok c := by rw [charAt, h]
  rw [readPieces, if_pos hlt, hchar]
  show (if c = '{' then _ else _) = _
  rw [if_neg hc]
  cases readPieces segment position (i + 1) names false <;> rfl

theorem readPieces_capture (h : segment[i]? = some '{') {stop : Nat} {text : List Char}
    (hstop : captureEnd segment i = .ok stop) (htext : textBetween segment (i + 1) stop = .ok text) :
    readPieces segment position i names afterCapture
      = if afterCapture then .error (.malformed .adjacentCaptures (position + i))
        else readCapture names (position + i + 1) text >>= fun capture =>
          (readPieces segment position (stop + 1) capture.2 true).map
            fun r => (capture.1 :: r.1, r.2) := by
  obtain ⟨hlt, -⟩ := List.getElem?_eq_some_iff.mp h
  have hchar : charAt segment i = .ok '{' := by rw [charAt, h]
  rw [readPieces, if_pos hlt, hchar]
  show (if afterCapture = true then _ else captureEnd segment i >>= _) = _
  rw [hstop]
  split
  · rfl
  · dsimp only [bind, Except.bind]
    split
    · next hfault => simp [htext] at hfault
    · next text' htext' =>
      obtain rfl := Except.ok.inj (htext.symm.trans htext')
      rfl

/-- Pieces start with literal text only if they did before they were checked. -/
theorem ne_literal_of_readPieces {names' : List (List Char)} {raws : List RawPiece}
    {pieces : List Piece} (h : PathRouting.readPieces names afterCapture raws = .ok (pieces, names'))
    (hraws : ∀ t rest, raws ≠ .literal t :: rest) : ∀ t rest, pieces ≠ .literal t :: rest := by
  rintro t rest rfl
  rcases raws with _ | ⟨raw, raws⟩
  · simp [PathRouting.readPieces] at h
  rcases hraw : raw.plain? with _ | piece
  · obtain ⟨q, text, rfl⟩ := RawPiece.eq_braced hraw
    rw [readPieces_braced] at h
    split at h
    · simp at h
    obtain ⟨⟨piece, names₁⟩, hcapture, h⟩ := bind_eq_ok.mp h
    obtain ⟨r, -, heq⟩ := map_eq_ok.mp h
    obtain ⟨name, constraint, rfl, -⟩ := readCapture_ok hcapture
    simp at heq
  · rw [readPieces_plain hraw] at h
    obtain ⟨r, -, heq⟩ := map_eq_ok.mp h
    obtain ⟨rfl, -⟩ : piece = .literal t ∧ r.1 = rest := by simpa using (Prod.mk.inj heq).1
    cases raw <;> simp [RawPiece.plain?] at hraw
    exact hraws _ _ rfl

theorem readPieces_cons (c : Char) (raws : List RawPiece) :
    PathRouting.readPieces names afterCapture (RawPiece.cons c raws)
      = (PathRouting.readPieces names false raws).map fun r => (consLiteral c r.1, r.2) := by
  by_cases hraws : ∃ t rest, raws = .literal t :: rest
  · obtain ⟨t, rest, rfl⟩ := hraws
    rw [RawPiece.cons, readPieces_plain rfl, readPieces_plain rfl]
    cases PathRouting.readPieces names false rest <;> rfl
  · have hne : ∀ t rest, raws ≠ .literal t :: rest := fun t rest heq => hraws ⟨t, rest, heq⟩
    rw [RawPiece.cons, readPieces_plain rfl]
    · rcases hread : PathRouting.readPieces names false raws with fault | ⟨pieces, names'⟩
      · rfl
      · have hpieces := ne_literal_of_readPieces hread hne
        show Except.ok (Piece.literal [c] :: pieces, names') = .ok (consLiteral c pieces, names')
        rw [consLiteral]
        exact hpieces
    · exact hne

/-- A character outside of braces is put before the pieces of the text after it. -/
theorem readPieces_outside (hc : c ≠ '{') (fuel p : Nat) (s : List Char) :
    PathRouting.readPieces names afterCapture (rawPieces (fuel + 1) p (c :: s))
      = (PathRouting.readPieces names false (rawPieces fuel (p + 1) s)).map
          fun r => (consPiece c r.1, r.2) := by
  rw [rawPieces, if_neg hc]
  split
  · next hstar =>
    rw [readPieces_plain rfl]
    simp [consPiece, hstar]
  split
  · next hstar hquestion =>
    rw [readPieces_plain rfl]
    simp [consPiece, hquestion]
  · next hstar hquestion =>
    rw [readPieces_cons]
    simp [consPiece, hstar, hquestion]

/-- The capture at a position and the pieces after it, if these are found where they are.  Nothing is
read after a name with a backslash. -/
theorem readPieces_opened {fuel : Nat} {s : List Char} (hdrop : segment.drop i = '{' :: s)
    (hs : s ≠ []) (hrest : ∀ names', '\\' ∉ (nameAndConstraint (splitCapture s).1).1 →
      readPieces segment position (i + 1 + (splitCapture s).1.length + 1) names' true
        = lift (PathRouting.readPieces names' true (rawPieces fuel
            (position + i + (splitCapture s).1.length + 2) (splitCapture s).2))) :
    readPieces segment position i names afterCapture
      = lift (PathRouting.readPieces names afterCapture
          (rawPieces (fuel + 1) (position + i) ('{' :: s))) := by
  obtain ⟨hchar, -, -⟩ := drop_eq_cons hdrop
  obtain ⟨htext, -⟩ := textBetween_capture hdrop hs
  rw [readPieces_capture hchar (captureEnd_eq hdrop hs) htext, rawPieces, if_pos rfl]
  dsimp only
  rw [readPieces_braced]
  split
  · rfl
  rw [lift_bind, readCapture_eq]
  rcases hread : PathRouting.readCapture names (position + i + 1) (splitCapture s).1
    with fault | ⟨piece, names'⟩
  · rfl
  have hname := (capture_of_readCapture hread).1
  show (readPieces segment position _ names' true).map _
    = lift ((PathRouting.readPieces _ _ _).map _)
  rw [hrest names' (hname.notMem (by decide)), lift_map]

/-- **The pieces of a segment are found where they are**, as long as what is left of it closes all
braces that it opens. -/
theorem readPieces_eq {fuel : Nat} (hfuel : (segment.drop i).length ≤ fuel)
    (hrun : Braces.outside.run (segment.drop i) = .ok .outside) :
    readPieces segment position i names afterCapture
      = lift (PathRouting.readPieces names afterCapture
          (rawPieces fuel (position + i) (segment.drop i))) := by
  induction fuel generalizing i names afterCapture with
  | zero =>
    have hnil := List.length_eq_zero_iff.mp (Nat.le_zero.mp hfuel)
    rw [readPieces_end (List.drop_eq_nil_iff.mp hnil)]
    rfl
  | succ fuel ih =>
    rcases hdrop : segment.drop i with _ | ⟨c, s⟩
    · rw [readPieces_end (List.drop_eq_nil_iff.mp hdrop)]
      rfl
    rw [hdrop] at hfuel hrun
    have hlength : s.length ≤ fuel := Nat.le_of_succ_le_succ hfuel
    obtain ⟨next, hstep, hnext⟩ := Braces.run_cons_ok.mp hrun
    by_cases hbrace : c = '{'
    · subst hbrace
      obtain rfl := Except.ok.inj hstep
      -- a brace is open, so the segment does not end here
      have hs : s ≠ [] := by
        rintro rfl
        simp [Braces.outside] at hnext
      obtain ⟨-, hafter⟩ := textBetween_capture hdrop hs
      refine readPieces_opened hdrop hs fun names' hbackslash => ?_
      have hbalanced := run_after_splitCapture hnext hbackslash
      have hposition : position + (i + 1 + (splitCapture s).1.length + 1)
          = position + i + (splitCapture s).1.length + 2 := by omega
      rw [ih (by rw [hafter]; exact Nat.le_trans (length_splitCapture s) hlength)
        (by rw [hafter]; exact hbalanced), hafter, hposition]
    · obtain ⟨hchar, -, htail⟩ := drop_eq_cons hdrop
      obtain rfl : .outside = next := by
        by_cases hclose : c = '}'
        · simp [hclose] at hstep
        · exact Except.ok.inj ((Braces.step_outside hbrace hclose).symm.trans hstep)
      rw [readPieces_char hchar hbrace, readPieces_outside hbrace, lift_map,
        ih (by rw [htail]; exact hlength) (by rw [htail]; exact hnext), htail, Nat.add_assoc]

end Pieces

/-! ### Segments -/

theorem readSegment_eq {s : List Char} (hrun : Braces.outside.run s = .ok .outside) :
    readSegment o names position s = lift (PathRouting.readSegment o names position s) := by
  rw [readSegment, PathRouting.readSegment_eq]
  split
  · rfl
  split
  · split <;> rfl
  · have hpieces : readPieces s position 0 names false
        = lift (PathRouting.readPieces names false (rawPieces s.length position s)) :=
      readPieces_eq (i := 0) (Nat.le_refl _) hrun
    rw [hpieces, lift_bind]
    congr 1
    funext ⟨pieces, names'⟩
    rw [lift_map]
    dsimp only
    cases lift (kindOfPieces o position s pieces) <;> rfl

/-- A capture of the rest has at least its two braces and the `*`. -/
theorem readRestName_eq {offset : Nat} {s : List Char} (hfound : findRest s = some offset) :
    readRestName position offset s = lift (PathRouting.readRestName position offset s) := by
  rw [readRestName, PathRouting.readRestName]
  by_cases halone : offset ≠ 0 ∨ s.getLast? ≠ some '}' ∨ s.count '}' ≠ 1
  · rw [if_pos halone, if_pos halone]
    rfl
  rw [if_neg halone, if_neg halone]
  simp only [ne_eq, not_or, Decidable.not_not] at halone
  obtain ⟨rfl, hlast, -⟩ := halone
  obtain ⟨t, rfl⟩ := findRest_eq_zero hfound
  obtain ⟨name, rfl⟩ : ∃ name, t = name ++ ['}'] := by
    rcases List.eq_nil_or_concat t with rfl | ⟨name, c, rfl⟩
    · simp at hlast
    · rw [List.concat_eq_append, ← List.cons_append, ← List.cons_append, List.getLast?_concat,
        Option.some.injEq] at hlast
      exact ⟨name, by rw [hlast, List.concat_eq_append]⟩
  have hstop : minus ('{' :: '*' :: (name ++ ['}'])).length 1 = .ok (2 + name.length) := by
    simp [minus, Nat.add_comm 2]
  have htext : textBetween ('{' :: '*' :: (name ++ ['}'])) 2 (2 + name.length) = .ok name :=
    textBetween_append ['{', '*'] name ['}']
  have hname : (List.drop 2 ('{' :: '*' :: (name ++ ['}']))).dropLast = name := by simp
  show (minus _ 1 >>= fun stop => _) = lift (PathRouting.checkName _ _ _ >>= fun _ => _)
  rw [hstop, hname, lift_bind]
  show (textBetween _ 2 (2 + name.length) >>= fun name => _) = _
  rw [htext]
  show (if name = [] then _ else _) = _
  by_cases hempty : name = []
  · rw [if_pos hempty, hempty]
    rfl
  · rw [if_neg hempty, ← checkName_eq hempty]
    rfl

/-! ### Elements -/

/-- A token that is a stretch of the text is placed as it is. -/
theorem place_eq {text : List Char} {isLast : Bool} {ch : Chain} {t : Token}
    (hspan : ∀ p s, t = .segment p s → textBetween text p (p + s.length) = .ok s ∧
      Braces.outside.run s = .ok .outside) :
    place o text isLast ch t.span = lift (ch.place o isLast t) := by
  cases t with
  | separator p =>
    rw [Token.span, place, Chain.place]
    split <;> rfl
  | segment p s =>
    obtain ⟨htext, hrun⟩ := hspan p s rfl
    rw [Token.span, place, Chain.place, htext]
    split
    · rfl
    show placeSegment o isLast ch p s = lift (if _ then _ else _)
    rw [placeSegment]
    split
    · split <;> rfl
    · rcases hfound : findRest s with _ | offset
      · show (readSegment o ch.names p s >>= fun r => _) = lift (_ >>= fun r => _)
        rw [readSegment_eq hrun, lift_bind]
        rfl
      · show (readRestName p offset s >>= fun name => _) = lift (_ >>= fun name => _)
        rw [readRestName_eq hfound, lift_bind]
        congr 1
        funext name
        rw [lift_bind]
        rfl

theorem placeAll_eq {text : List Char} {ch : Chain} {ts : List Token}
    (hspan : ∀ p s, .segment p s ∈ ts → textBetween text p (p + s.length) = .ok s ∧
      Braces.outside.run s = .ok .outside) :
    placeAll o text ch (ts.map Token.span) = lift (ch.placeAll o ts) := by
  induction ts generalizing ch with
  | nil => rfl
  | cons t rest ih =>
    rw [List.map_cons, placeAll, Chain.placeAll, List.isEmpty_map, lift_bind,
      place_eq fun p s ht => hspan p s (ht ▸ List.mem_cons_self)]
    congr 1
    funext ch'
    exact ih fun p s hs => hspan p s (List.mem_cons_of_mem t hs)

end Indexed

/-- **Reading by positions never leaves the range**: it gives the pattern, or the fault, that reading
without positions gives, whatever the separator is. -/
theorem indexed_parse_eq (o : PatternOptions) (text : List Char) :
    Indexed.parse o text = (Pattern.parse o text).mapError
        (fun fault => .malformed fault.cause fault.position) ∧
      Indexed.parse o text ≠ .error .outOfRange := by
  have helements : Indexed.parse o text
      = (Indexed.lift (Pattern.readElements o text)).map fun elements => ⟨text, o, elements⟩ := by
    rw [Indexed.parse, Indexed.scan_eq, Pattern.readElements, Indexed.lift_bind]
    rcases htokens : tokens o.separator text with fault | ts
    · rfl
    · show (Indexed.placeAll o text ⟨[], []⟩ (ts.map Token.span) >>= fun ch => _)
        = (Indexed.lift (Chain.placeAll o ⟨[], []⟩ ts >>= fun ch => _)).map _
      rw [Indexed.placeAll_eq fun p s hs =>
        ⟨Indexed.textBetween_of_mem_tokens htokens hs, run_of_mem_tokens htokens hs⟩]
      rcases Chain.placeAll o ⟨[], []⟩ ts with fault | ch <;> rfl
  have heq : Indexed.parse o text = (Pattern.parse o text).mapError
      (fun fault => .malformed fault.cause fault.position) := by
    rw [helements, Pattern.parse]
    rcases Pattern.readElements o text with ⟨cause, position⟩ | elements <;> rfl
  refine ⟨heq, ?_⟩
  rw [heq]
  rcases Pattern.parse o text with fault | p <;> simp [Except.mapError]

end PathRouting
