import PathRouting.Proofs.Pattern.Braces
import PathRouting.Proofs.Tiling

/-!
# The elements of a pattern as its text

Every character of a pattern text belongs to one of the elements, and each element is written as the
characters that it was read from.

## Main definitions

* `ElementKind.Sourced` — a constraint is what its regular expression encloses.
* `Covers` — texts at their places make up a whole text.
* `Chain.Tiled` — the elements read so far and the tokens to come make up the text.

## Main results

* `written_of_readSegment` — an element is written as the segment that it was read from.
* `covers_of_parse` — the elements of a pattern cover its text.
* `written_of_parse` — the elements of a pattern are its text.
-/

namespace PathRouting

open Text

/-! ### Segments -/

section Segments

variable {o : PatternOptions} {names names' : List (List Char)} {afterCapture : Bool}
  {position fuel : Nat} {s : List Char}

theorem RawPiece.cons_ne_nil (c : Char) (raws : List RawPiece) : RawPiece.cons c raws ≠ [] := by
  unfold RawPiece.cons
  split <;> simp

theorem RawPiece.cons_ne_braced (c : Char) (raws : List RawPiece) (text : List Char) :
    RawPiece.cons c raws ≠ [.braced position text] := by
  unfold RawPiece.cons
  split <;> simp

/-- A text that is not empty has pieces. -/
theorem rawPieces_eq_nil (hfuel : s.length ≤ fuel) (h : rawPieces fuel position s = []) :
    s = [] := by
  cases s with
  | nil => rfl
  | cons c s =>
    cases fuel with
    | zero => simp at hfuel
    | succ fuel =>
      rw [rawPieces] at h
      split at h
      · simp at h
      split at h
      · simp at h
      split at h
      · simp at h
      · exact absurd h (RawPiece.cons_ne_nil c _)

theorem length_splitCapture (s : List Char) : (splitCapture s).2.length ≤ s.length := by
  unfold splitCapture
  rcases hclose : closing 0 false s with _ | ⟨inner, after⟩
  · simp
  · rw [closing_eq_some hclose]
    simp only [Option.getD_some, List.length_append, List.length_cons]
    omega

/-- A single piece in braces is all of the text. -/
theorem rawPieces_eq_braced (hfuel : s.length ≤ fuel) {q : Nat} {inner : List Char}
    (h : rawPieces fuel position s = [.braced q inner]) :
    ∃ t, s = '{' :: t ∧ splitCapture t = (inner, []) := by
  cases s with
  | nil => cases fuel <;> simp [rawPieces] at h
  | cons c t =>
    cases fuel with
    | zero => simp at hfuel
    | succ fuel =>
      rw [rawPieces] at h
      split at h
      · next hc =>
        have hlength := length_splitCapture t
        simp only [List.cons.injEq, RawPiece.braced.injEq] at h
        obtain ⟨⟨-, hinner⟩, hafter⟩ := h
        have hle : (splitCapture t).2.length ≤ fuel := by
          rw [List.length_cons] at hfuel
          omega
        exact ⟨t, by rw [hc], Prod.ext hinner (rawPieces_eq_nil hle hafter)⟩
      split at h
      · simp at h
      split at h
      · simp at h
      · exact absurd h (RawPiece.cons_ne_braced c _ _)

theorem readPieces_eq_nil {raws : List RawPiece}
    (h : readPieces names afterCapture raws = .ok ([], names')) : raws = [] := by
  cases raws with
  | nil => rfl
  | cons raw raws =>
    rcases hraw : raw.plain? with _ | piece
    · obtain ⟨position, text, rfl⟩ := RawPiece.eq_braced hraw
      rw [readPieces_braced] at h
      split at h
      · simp at h
      · obtain ⟨c, -, h⟩ := bind_eq_ok.mp h
        obtain ⟨r, -, heq⟩ := map_eq_ok.mp h
        simp at heq
    · rw [readPieces_plain hraw] at h
      obtain ⟨r, -, heq⟩ := map_eq_ok.mp h
      simp at heq

/-- A capture alone comes from a piece in braces alone. -/
theorem readPieces_eq_capture {raws : List RawPiece} {name : List Char}
    {constraint : Option (List Char)}
    (h : readPieces names afterCapture raws = .ok ([.capture name constraint], names')) :
    ∃ q text, raws = [.braced q text] ∧ nameAndConstraint text = (name, constraint) ∧
      IsName name := by
  cases raws with
  | nil => simp [readPieces] at h
  | cons raw raws =>
    rcases hraw : raw.plain? with _ | piece
    · obtain ⟨q, text, rfl⟩ := RawPiece.eq_braced hraw
      rw [readPieces_braced] at h
      split at h
      · simp at h
      · obtain ⟨⟨piece, names₁⟩, hcapture, h⟩ := bind_eq_ok.mp h
        obtain ⟨⟨pieces, names₂⟩, hrest, heq⟩ := map_eq_ok.mp h
        simp only [Prod.mk.injEq, List.cons.injEq] at heq
        obtain ⟨⟨rfl, rfl⟩, rfl⟩ := heq
        obtain ⟨hname, -, hpiece⟩ := capture_of_readCapture hcapture
        obtain ⟨rfl, rfl⟩ := Piece.capture.inj hpiece
        exact ⟨q, text, by rw [readPieces_eq_nil hrest], rfl, hname⟩
    · rw [readPieces_plain hraw] at h
      obtain ⟨r, -, heq⟩ := map_eq_ok.mp h
      simp only [Prod.mk.injEq, List.cons.injEq] at heq
      obtain ⟨⟨rfl, -⟩, -⟩ := heq
      simpa [Piece.name?] using name?_of_plain? hraw

/-- **A capture alone takes up its segment**, which closes all braces that it opens. -/
theorem segment_eq_of_readPieces (hbalanced : Braces.outside.run s = .ok .outside)
    {name : List Char} {constraint : Option (List Char)}
    (h : readPieces names afterCapture (rawPieces s.length position s)
      = .ok ([.capture name constraint], names')) :
    ∃ text, s = '{' :: text ++ ['}'] ∧ nameAndConstraint text = (name, constraint) := by
  obtain ⟨q, text, hraws, htext, hname⟩ := readPieces_eq_capture h
  obtain ⟨t, rfl, hsplit⟩ := rawPieces_eq_braced (Nat.le_refl _) hraws
  refine ⟨text, ?_, htext⟩
  obtain ⟨next, hstep, hrun⟩ := Braces.run_cons_ok.mp hbalanced
  obtain rfl := Except.ok.inj hstep
  unfold splitCapture at hsplit
  rcases hclose : closing 0 false t with _ | ⟨inner, after⟩
  · -- were the brace not found, the text would be cut before its last character
    rw [hclose] at hsplit
    obtain ⟨rfl, -⟩ := Prod.mk.inj hsplit
    have hnot : '\\' ∉ (nameAndConstraint t.dropLast).1 := by
      rw [htext]
      exact hname.notMem (by decide)
    obtain ⟨r, hr⟩ := exists_closing hrun hnot
    simp [hclose] at hr
  · rw [hclose] at hsplit
    obtain ⟨rfl, rfl⟩ := Prod.mk.inj hsplit
    rw [closing_eq_some hclose, List.cons_append]

/-- Whether the constraint of a capture is what the regular expression of the capture encloses. -/
def ElementKind.Sourced (k : ElementKind) : Prop :=
  ∀ name constraint re, k = .capture name (some (constraint, re)) →
    re.source = constraintSource constraint

theorem source_of_compileAt {source : List Char} {re : Regex}
    (h : compileAt o position source = .ok re) : re.source = source := by
  unfold compileAt at h
  split at h
  · next hcompile =>
    obtain ⟨expr, -, rfl⟩ := Option.map_eq_some_iff.mp hcompile
    rw [← Except.ok.inj h]
  · simp at h

/-- A capture is written in braces. -/
theorem written_capture {text name : List Char} (constraint : Option (List Char × Regex))
    (h : nameAndConstraint text = (name, constraint.map Prod.fst)) (separator : Char) :
    (ElementKind.capture name constraint).written separator = '{' :: text ++ ['}'] := by
  unfold nameAndConstraint at h
  rcases hcut : cutAt ':' text with _ | ⟨before, after⟩
  · rw [hcut] at h
    obtain ⟨rfl, hconstraint⟩ := Prod.mk.inj h
    obtain rfl := Option.map_eq_none_iff.mp hconstraint.symm
    rfl
  · rw [hcut] at h
    obtain ⟨rfl, hconstraint⟩ := Prod.mk.inj h
    obtain ⟨⟨c, re⟩, rfl, rfl⟩ := Option.map_eq_some_iff.mp hconstraint.symm
    obtain ⟨rfl, -⟩ := cutAt_eq_some hcut
    simp [ElementKind.written]

/-- **An element is written as the segment that it is read from.** -/
theorem written_of_readSegment (hbalanced : Braces.outside.run s = .ok .outside)
    {kind : ElementKind} (h : readSegment o names position s = .ok (kind, names')) :
    kind.written o.separator = s ∧ kind.Sourced := by
  cases segmentRead_of_readSegment h with
  | wildcard hstar => exact ⟨hstar.symm, by simp [ElementKind.Sourced]⟩
  | singleChars _ => exact ⟨rfl, by simp [ElementKind.Sourced]⟩
  | literal _ => exact ⟨rfl, by simp [ElementKind.Sourced]⟩
  | capture name names' hread =>
    obtain ⟨text, htext, hsplit⟩ := segment_eq_of_readPieces hbalanced hread
    exact ⟨htext ▸ written_capture none hsplit _, by simp [ElementKind.Sourced]⟩
  | constrained name constraint re names' hread hcompiled =>
    obtain ⟨text, htext, hsplit⟩ := segment_eq_of_readPieces hbalanced hread
    refine ⟨htext ▸ written_capture (some (constraint, re)) hsplit _, ?_⟩
    intro name' constraint' re' heq
    obtain ⟨-, hconstraint⟩ := ElementKind.capture.inj heq
    obtain ⟨rfl, rfl⟩ := Prod.mk.inj (Option.some.inj hconstraint)
    exact source_of_compileAt hcompiled
  | mixed pieces re names' _ _ => exact ⟨rfl, by simp [ElementKind.Sourced]⟩

theorem findRest_eq_zero (h : findRest s = some 0) : ∃ t, s = '{' :: '*' :: t := by
  unfold findRest at h
  split at h
  · exact ⟨_, rfl⟩
  · simp at h
  · simp at h

/-- A segment that captures the rest holds the name and nothing else. -/
theorem readRestName_ok {offset : Nat} {name : List Char} (hfound : findRest s = some offset)
    (h : readRestName position offset s = .ok name) : s = '{' :: '*' :: name ++ ['}'] := by
  unfold readRestName at h
  split at h
  · simp at h
  · next halone =>
    obtain ⟨u, -, hname⟩ := bind_eq_ok.mp h
    obtain rfl := pure_eq_ok.mp hname
    simp only [ne_eq, not_or, Decidable.not_not] at halone
    obtain ⟨rfl, hlast, -⟩ := halone
    obtain ⟨t, rfl⟩ := findRest_eq_zero hfound
    obtain ⟨init, hinit⟩ := List.getLast?_eq_some_iff.mp hlast
    rcases init with _ | ⟨c, _ | ⟨d, init⟩⟩
    · simp at hinit
    · simp at hinit
    · simp only [List.cons_append, List.cons.injEq] at hinit
      obtain ⟨-, -, rfl⟩ := hinit
      simp

end Segments

/-! ### Stretches -/

section Stretches

variable {separator : Char}

/-- The place of a token and its text. -/
def Token.stretch (separator : Char) (t : Token) : Nat × List Char := (t.position, t.text separator)

/-- The place of an element and the text that it is written as. -/
def PatternElement.stretch (separator : Char) (e : PatternElement) : Nat × List Char :=
  (e.position, e.kind.written separator)

/-- Whether texts at their places make up a whole text from its first character to its last, none
of them empty. -/
structure Covers (text : List Char) (l : List (Nat × List Char)) : Prop where
  /-- Put together, the texts are the whole. -/
  whole : l.flatMap Prod.snd = text
  /-- Each starts where the one before it ends. -/
  places : Tiles Prod.fst (fun x => x.2.length) 0 l text.length
  /-- None is empty. -/
  nonempty : ∀ x ∈ l, x.2 ≠ []

/-- Texts that stand end to end fill as many places as they have characters. -/
theorem stop_eq_of_tiles {l : List (Nat × List Char)} {start stop : Nat}
    (h : Tiles Prod.fst (fun x => x.2.length) start l stop) :
    stop = start + (l.flatMap Prod.snd).length := by
  induction l generalizing start with
  | nil => exact (tiles_nil.mp h).symm
  | cons x l ih =>
    rw [ih h.2, List.flatMap_cons, List.length_append, Nat.add_assoc]

/-- A text starts where those before it end. -/
theorem Covers.place_eq {text : List Char} {x : Nat × List Char}
    {before after : List (Nat × List Char)} (h : Covers text (before ++ x :: after)) :
    x.1 = (before.flatMap Prod.snd).length := by
  obtain ⟨mid, hbefore, hx, -⟩ := tiles_append.mp h.places
  rw [hx, stop_eq_of_tiles hbefore, Nat.zero_add]

/-- Two neighbours may be put together. -/
theorem Covers.join {text s t : List Char} {q p : Nat} {before after : List (Nat × List Char)}
    (h : Covers text (before ++ (q, s) :: (p, t) :: after)) :
    Covers text (before ++ (q, s ++ t) :: after) where
  whole := by simpa using h.whole
  places := by
    obtain ⟨mid, hbefore, hq, hp, hafter⟩ := tiles_append.mp h.places
    refine tiles_append.mpr ⟨mid, hbefore, hq, ?_⟩
    simpa [Nat.add_assoc] using hafter
  nonempty := by
    intro x hx
    have hall := h.nonempty
    simp only [List.mem_append, List.mem_cons] at hx hall
    rcases hx with hx | rfl | hx
    · exact hall x (.inl hx)
    · have hs := hall (q, s) (.inr (.inl rfl))
      simp [hs]
    · exact hall x (.inr (.inr (.inr hx)))

/-- The tokens of a text stand end to end, and none is empty. -/
theorem tiles_tokensFrom {s : List Char} {b : Braces} {position : Nat} {ts : List Token}
    (h : tokensFrom separator b position s = .ok ts) :
    Tiles Prod.fst (fun x => x.2.length) position (ts.map (Token.stretch separator))
        (position + s.length) ∧ ∀ t ∈ ts, t.text separator ≠ [] := by
  induction s generalizing b position ts with
  | nil =>
    obtain rfl := tokensFrom_nil h
    simp
  | cons c s ih =>
    obtain ⟨next, rest, -, hrest, rfl⟩ := tokensFrom_cons h
    obtain ⟨htiles, hnonempty⟩ := ih hrest
    have hlength : position + 1 + s.length = position + (c :: s).length := by
      rw [List.length_cons]
      omega
    rw [hlength] at htiles
    split
    · refine ⟨⟨rfl, htiles⟩, List.forall_mem_cons.mpr ⟨by simp [Token.text], hnonempty⟩⟩
    · rcases Token.cons_eq position c rest with ⟨p, t, rest', rfl, hcons⟩ | ⟨-, hcons⟩
      · -- the segment that was first starts one character earlier
        rw [hcons]
        obtain ⟨-, hrest'⟩ := List.forall_mem_cons.mp hnonempty
        refine ⟨⟨rfl, ?_⟩, List.forall_mem_cons.mpr ⟨by simp [Token.text], hrest'⟩⟩
        simpa [Token.stretch, Token.text, Nat.add_assoc, Nat.add_comm 1] using htiles.2
      · rw [hcons]
        exact ⟨⟨rfl, htiles⟩, List.forall_mem_cons.mpr ⟨by simp [Token.text], hnonempty⟩⟩

theorem covers_of_tokens {text : List Char} {ts : List Token} (h : tokens separator text = .ok ts) :
    Covers text (ts.map (Token.stretch separator)) where
  whole := by
    rw [List.flatMap_map]
    exact flatMap_text_tokensFrom h
  places := by
    have htiles := (tiles_tokensFrom h).1
    rwa [Nat.zero_add] at htiles
  nonempty := by
    intro x hx
    obtain ⟨t, ht, rfl⟩ := List.mem_map.mp hx
    exact (tiles_tokensFrom h).2 t ht

end Stretches

/-! ### The chain -/

namespace Chain

variable {o : PatternOptions} {text : List Char} {ch ch' : Chain} {t : Token} {ts : List Token}

/-- The elements read so far, and after them the tokens to come. -/
def stretches (separator : Char) (ch : Chain) (ts : List Token) : List (Nat × List Char) :=
  ch.elements.reverse.map (PatternElement.stretch separator) ++ ts.map (Token.stretch separator)

/-- A token becomes one element, which is written as the token or, where it takes in the separator
before it, as both. -/
theorem Placed.written {isLast : Bool} (hplaced : Placed o isLast ch t ch')
    (hbalanced : ∀ p s, t = .segment p s → Braces.outside.run s = .ok .outside) :
    ∃ kind : ElementKind, kind.Sourced ∧
      ((ch'.elements = ⟨t.position, kind⟩ :: ch.elements ∧
          kind.written o.separator = t.text o.separator) ∨
        ∃ q before, ch.elements = ⟨q, .separator⟩ :: before ∧
          ch'.elements = ⟨q, kind⟩ :: before ∧
          kind.written o.separator = o.separator :: t.text o.separator) := by
  cases hplaced with
  | separator p => exact ⟨.separator, by simp [ElementKind.Sourced], .inl ⟨rfl, rfl⟩⟩
  | rest p q before _ hq =>
    exact ⟨.rest o.separator, by simp [ElementKind.Sourced], .inr ⟨q, before, hq, rfl, rfl⟩⟩
  | segments p _ => exact ⟨.segments, by simp [ElementKind.Sourced], .inl ⟨rfl, rfl⟩⟩
  | captureRest p q offset s name before hfound hname _ hq =>
    obtain rfl := readRestName_ok hfound hname
    exact ⟨_, by simp [ElementKind.Sourced], .inr ⟨q, before, hq, rfl, rfl⟩⟩
  | captureRestAlone p offset s name hfound hname =>
    obtain rfl := readRestName_ok hfound hname
    exact ⟨_, by simp [ElementKind.Sourced], .inl ⟨rfl, rfl⟩⟩
  | single p s kind names _ _ hread =>
    obtain ⟨hwritten, hsourced⟩ := written_of_readSegment (hbalanced p s rfl) hread
    exact ⟨kind, hsourced, .inl ⟨rfl, hwritten⟩⟩

/-- The elements read so far and the tokens to come make up the text. -/
structure Tiled (o : PatternOptions) (text : List Char) (ch : Chain) (ts : List Token) : Prop where
  /-- They cover the text. -/
  covers : Covers text (ch.stretches o.separator ts)
  /-- The segments to come close all braces that they open. -/
  balanced : ∀ p s, .segment p s ∈ ts → Braces.outside.run s = .ok .outside
  /-- The constraints are those of the regular expressions. -/
  sourced : ∀ e ∈ ch.elements, e.kind.Sourced

theorem Tiled.step {isLast : Bool} (hplaced : Placed o isLast ch t ch')
    (h : ch.Tiled o text (t :: ts)) : ch'.Tiled o text ts := by
  have hcovers := h.covers
  obtain ⟨kind, hsourced, ⟨helements, hwritten⟩ | ⟨q, before, hq, helements, hwritten⟩⟩ :=
    hplaced.written fun p s ht => h.balanced p s (ht ▸ List.mem_cons_self)
  · refine ⟨?_, fun p s hs => h.balanced p s (List.mem_cons_of_mem t hs), ?_⟩
    · rw [stretches, helements]
      simpa [stretches, PatternElement.stretch, Token.stretch, hwritten] using hcovers
    · rw [helements]
      exact List.forall_mem_cons.mpr ⟨hsourced, h.sourced⟩
  · refine ⟨?_, fun p s hs => h.balanced p s (List.mem_cons_of_mem t hs), ?_⟩
    · -- the stretch of the separator and that of the token become one
      have happart : Covers text (before.reverse.map (PatternElement.stretch o.separator) ++
          (q, [o.separator]) :: (t.position, t.text o.separator) ::
            ts.map (Token.stretch o.separator)) := by
        rw [stretches, hq] at hcovers
        simpa [PatternElement.stretch, Token.stretch, ElementKind.written] using hcovers
      rw [stretches, helements]
      simpa [PatternElement.stretch, hwritten] using happart.join
    · have hall := hq ▸ h.sourced
      rw [helements]
      exact List.forall_mem_cons.mpr ⟨hsourced, (List.forall_mem_cons.mp hall).2⟩

end Chain

/-! ### Patterns -/

section Patterns

variable {o : PatternOptions} {text : List Char} {p : Pattern}

/-- The elements of a pattern cover its text, and their constraints are those of the regular
expressions. -/
theorem covers_of_parse (h : Pattern.parse o text = .ok p) :
    Covers text (p.elements.map (PatternElement.stretch o.separator)) ∧
      ∀ e ∈ p.elements, e.kind.Sourced := by
  obtain ⟨ts, ch, hts, hch, rfl⟩ := parse_ok h
  have htiled : ch.Tiled o text [] :=
    Chain.placeAll_invariant _ (fun _ _ _ _ _ => Chain.Tiled.step) hch
      ⟨by simpa [Chain.stretches] using covers_of_tokens hts,
        fun _ _ hs => run_of_mem_tokens hts hs, by simp⟩
  exact ⟨by simpa [Chain.stretches] using htiled.covers,
    fun e he => htiled.sourced e (List.mem_reverse.mp he)⟩

/-- Put together, the elements of a pattern are its text. -/
theorem flatMap_written_of_parse (h : Pattern.parse o text = .ok p) :
    p.elements.flatMap (·.kind.written o.separator) = text := by
  obtain ⟨hcovers, -⟩ := covers_of_parse h
  rw [← hcovers.whole, List.flatMap_map]
  rfl

/-- Elements that are the same are written the same. -/
theorem written_eq_of_same {k k' : ElementKind} (h : k.same k' = true) (hk : k.Sourced)
    (hk' : k'.Sourced) (separator : Char) : k.written separator = k'.written separator := by
  cases k <;> cases k' <;> simp only [ElementKind.same, Bool.and_eq_true, beq_iff_eq,
    Bool.false_eq_true] at h
  case capture.capture name constraint name' constraint' =>
    obtain ⟨rfl, hsource⟩ := h
    rcases constraint with _ | ⟨c, re⟩ <;> rcases constraint' with _ | ⟨c', re'⟩
    · rfl
    · simp at hsource
    · simp at hsource
    · -- the expressions are compared by their texts, which hold the constraints
      have hsource : constraintSource c = constraintSource c' := by
        rw [← hk _ _ _ rfl, ← hk' _ _ _ rfl]
        simpa using hsource
      obtain rfl : c = c' := by simpa [constraintSource] using hsource
      rfl
  all_goals simp_all [ElementKind.written]

theorem flatMap_written_eq_of_same {es es' : List PatternElement} (hlength : es.length = es'.length)
    (h : ∀ e e', (e, e') ∈ es.zip es' → e.same e' = true) (hes : ∀ e ∈ es, e.kind.Sourced)
    (hes' : ∀ e ∈ es', e.kind.Sourced) (separator : Char) :
    es.flatMap (·.kind.written separator) = es'.flatMap (·.kind.written separator) := by
  induction es generalizing es' with
  | nil =>
    obtain rfl := List.length_eq_zero_iff.mp hlength.symm
    rfl
  | cons e es ih =>
    obtain ⟨e', es', rfl⟩ := List.exists_cons_of_length_eq_add_one hlength.symm
    obtain ⟨he, hes⟩ := List.forall_mem_cons.mp hes
    obtain ⟨he', hes'⟩ := List.forall_mem_cons.mp hes'
    have hsame := h e e' List.mem_cons_self
    rw [PatternElement.same, Bool.and_eq_true] at hsame
    rw [List.flatMap_cons, List.flatMap_cons, written_eq_of_same hsame.2 he he',
      ih (by simpa using hlength) (fun a b hab => h a b (List.mem_cons_of_mem _ hab)) hes hes']

/-- **The elements of a pattern are its text**, each one standing where those before it end; so
patterns with the same elements have the same text. -/
theorem written_of_parse (h : Pattern.parse o text = .ok p) :
    p.elements.flatMap (·.kind.written o.separator) = text ∧
      (∀ before e after, p.elements = before ++ e :: after →
        e.position = (before.flatMap (·.kind.written o.separator)).length) ∧
      (∀ e ∈ p.elements, ∀ name constraint re, e.kind = .capture name (some (constraint, re)) →
        re.source = ['^', '(', '?', ':'] ++ constraint ++ [')', '$']) ∧
      p.elements.Pairwise (·.position < ·.position) ∧
      ∀ o' text' p', Pattern.parse o' text' = .ok p' → o'.separator = o.separator →
        p.sameElements p' = true → text = text' := by
  obtain ⟨hcovers, hsourced⟩ := covers_of_parse h
  have htext := flatMap_written_of_parse h
  refine ⟨htext, ?_, hsourced, pairwise_position_of_parse h, ?_⟩
  · intro before e after helements
    rw [helements, List.map_append, List.map_cons] at hcovers
    have hplace := hcovers.place_eq
    rw [List.flatMap_map] at hplace
    exact hplace
  · intro o' text' p' h' hseparator hsame
    obtain ⟨-, hsourced'⟩ := covers_of_parse h'
    simp only [Pattern.sameElements, Bool.and_eq_true, beq_iff_eq, List.all_eq_true] at hsame
    obtain ⟨hlength, hall⟩ := hsame
    rw [← htext, ← flatMap_written_of_parse h', hseparator]
    exact flatMap_written_eq_of_same hlength (fun e e' he => hall (e, e') he) hsourced hsourced' _

/-- Braces inside a constraint, a segment of pieces, and a `**` that takes in its separator. -/
theorem written_of_parse_constraint : ∃ p, Pattern.parse .default
    "/a?/{n:[0-9]{2}}/*.{x}/**".toList = .ok p ∧
      p.elements.map (·.position) = [0, 1, 3, 4, 16, 17, 22] ∧
      p.elements.flatMap (·.kind.written '/') = "/a?/{n:[0-9]{2}}/*.{x}/**".toList := by
  have hread : (Pattern.parse .default "/a?/{n:[0-9]{2}}/*.{x}/**".toList).toOption.map
      (·.elements.map (·.position)) = some [0, 1, 3, 4, 16, 17, 22] := by decide +kernel
  obtain ⟨p, hp, hpositions⟩ := Option.map_eq_some_iff.mp hread
  rw [toOption_eq_some] at hp
  exact ⟨p, hp, hpositions, (written_of_parse hp).1⟩

end Patterns

end PathRouting
