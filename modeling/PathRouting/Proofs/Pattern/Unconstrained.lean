import PathRouting.Proofs.Pattern.Append
import PathRouting.Proofs.Pattern.InRange
import PathRouting.Proofs.Pattern.Parts

/-!
# Segments without constraints

The pieces of a segment without constraints are those of the parts it is written of, so the expression
of a mixed segment is known from its pieces, but for its size.

## Main definitions

* `Piece.isUnconstrained`, `RawPiece.isUnconstrained` — pieces that are no captures with a constraint.
* `isUnconstrained` — whether no capture of a pattern text has a constraint.
* `partsOf` — the parts of pieces.
* `ElementKind.IsBalanced` — that a mixed segment closes all braces that it opens.

## Main results

* `isUnconstrained_of_not_mem` — a text without `:` has no constraints.
* `readPieces_cases` — the first piece of a segment.
* `piecesOf_partsOf` — the pieces of a segment are those of their parts.
* `textOf_partsOf` — and the parts are written as the segment.
* `regex_of_readSegment`, `mixed_of_parse` — the regular expression of a mixed segment.
-/

namespace PathRouting

open Regex Text

variable {o : PatternOptions} {names names' : List (List Char)} {position : Nat}
  {segment : List Char} {pieces : List Piece}

/-! ### Constraints -/

/-- Whether a piece is no capture with a constraint. -/
def Piece.isUnconstrained : Piece → Bool
  | capture _ (some _) => false
  | _ => true

/-- Whether a piece is no capture with a constraint: there is no `:` between its braces. -/
def RawPiece.isUnconstrained : RawPiece → Bool
  | braced _ text => !text.contains ':'
  | _ => true

/-- Whether no capture of a segment has a constraint.  One that captures the rest has none. -/
def isUnconstrainedSegment (segment : List Char) : Bool :=
  (findRest segment).isSome || (rawPieces segment.length 0 segment).all RawPiece.isUnconstrained

/-- Whether no capture of a pattern text has a constraint. -/
def isUnconstrained (separator : Char) (text : List Char) : Bool :=
  (contentsFrom separator .outside text).all fun tokens =>
    tokens.all fun token => token.all isUnconstrainedSegment

theorem mem_splitCapture {s : List Char} :
    (∀ c ∈ (splitCapture s).1, c ∈ s) ∧ ∀ c ∈ (splitCapture s).2, c ∈ s := by
  unfold splitCapture
  rcases hclose : closing 0 false s with _ | ⟨inner, after⟩
  · exact ⟨fun c hc => List.dropLast_subset s hc, by simp⟩
  · rw [closing_eq_some hclose]
    exact ⟨by simp +contextual, by simp +contextual⟩

theorem isUnconstrained_rawPieces {fuel : Nat} {s : List Char} (h : ':' ∉ s) :
    (rawPieces fuel position s).all RawPiece.isUnconstrained = true := by
  have hcons (c : Char) (raws : List RawPiece) : (RawPiece.cons c raws).all RawPiece.isUnconstrained
      = raws.all RawPiece.isUnconstrained := by
    rcases raws with _ | ⟨raw, raws⟩
    · rfl
    · cases raw <;> rfl
  induction fuel generalizing position s with
  | zero => rfl
  | succ fuel ih =>
    rcases s with _ | ⟨c, s⟩
    · rfl
    have hs : ':' ∉ s := fun hmem => h (List.mem_cons_of_mem _ hmem)
    rw [rawPieces]
    split
    · have hinner : ':' ∉ (splitCapture s).1 := fun hmem => hs (mem_splitCapture.1 _ hmem)
      rw [List.all_cons, ih fun hmem => hs (mem_splitCapture.2 _ hmem), Bool.and_true]
      simpa [RawPiece.isUnconstrained] using hinner
    split
    · rw [List.all_cons, ih hs]
      rfl
    split
    · rw [List.all_cons, ih hs]
      rfl
    · rw [hcons, ih hs]

/-- A text without `:` has no constraints. -/
theorem isUnconstrained_of_not_mem {text : List Char} (h : ':' ∉ text) (separator : Char) :
    isUnconstrained separator text = true := by
  rw [isUnconstrained]
  rcases hcontents : contentsFrom separator .outside text with _ | tokens
  · rfl
  refine List.all_eq_true.mpr fun token htoken => ?_
  cases token with
  | none => rfl
  | some s =>
    have hs : ':' ∉ s := fun hmem => h (mem_of_contentsFrom hcontents htoken _ hmem)
    show ((findRest s).isSome || _) = true
    rw [isUnconstrained_rawPieces hs, Bool.or_true]

/-- Pieces without constraints are checked to pieces without constraints. -/
theorem isUnconstrained_of_readPieces {afterCapture : Bool} {raws : List RawPiece}
    (h : readPieces names afterCapture raws = .ok (pieces, names'))
    (hraws : raws.all RawPiece.isUnconstrained = true) :
    ∀ piece ∈ pieces, piece.isUnconstrained = true := by
  induction raws generalizing names afterCapture pieces with
  | nil =>
    obtain ⟨rfl, -⟩ : [] = pieces ∧ names = names' := by simpa [readPieces] using h
    simp
  | cons raw raws ih =>
    rw [List.all_cons, Bool.and_eq_true] at hraws
    rcases hraw : raw.plain? with _ | piece
    · obtain ⟨position, text, rfl⟩ := RawPiece.eq_braced hraw
      rw [readPieces_braced] at h
      split at h
      · simp at h
      obtain ⟨⟨piece, names₁⟩, hcapture, h⟩ := bind_eq_ok.mp h
      obtain ⟨⟨pieces', names₂⟩, hrest, heq⟩ := map_eq_ok.mp h
      obtain ⟨rfl, rfl⟩ := Prod.mk.inj heq
      refine List.forall_mem_cons.mpr ⟨?_, ih hrest hraws.2⟩
      have hcolon : Text.cutAt ':' text = none := by
        refine Text.cutAt_eq_none.mpr fun hmem => ?_
        simp [RawPiece.isUnconstrained, hmem] at hraws
      have hname : nameAndConstraint text = (text, none) := by rw [nameAndConstraint, hcolon]
      rw [(capture_of_readCapture hcapture).2.2, hname]
      rfl
    · rw [readPieces_plain hraw] at h
      obtain ⟨⟨pieces', names₁⟩, hrest, heq⟩ := map_eq_ok.mp h
      obtain ⟨rfl, rfl⟩ := Prod.mk.inj heq
      refine List.forall_mem_cons.mpr ⟨?_, ih hrest hraws.2⟩
      cases raw <;> simp only [RawPiece.plain?, Option.some.injEq, reduceCtorEq] at hraw <;>
        subst hraw <;> rfl

/-! ### Parts -/

/-- The parts of pieces: literal text is cut into its characters. -/
def partsOf : List Piece → List Part
  | [] => []
  | .literal t :: pieces => t.map .char ++ partsOf pieces
  | .star :: pieces => .star :: partsOf pieces
  | .question :: pieces => .question :: partsOf pieces
  | .capture name _ :: pieces => .capture name :: partsOf pieces

theorem partsOf_cons (c : Char) (pieces : List Piece) :
    partsOf (Piece.cons c pieces) = .char c :: partsOf pieces := by
  rcases Piece.cons_eq c pieces with ⟨t, rest, rfl, hcons⟩ | hcons <;> rw [hcons] <;> rfl

theorem isUnconstrained_of_cons {c : Char}
    (h : ∀ piece ∈ Piece.cons c pieces, piece.isUnconstrained = true) :
    ∀ piece ∈ pieces, piece.isUnconstrained = true := by
  rcases Piece.cons_eq c pieces with ⟨t, rest, rfl, hcons⟩ | hcons
  · rw [hcons] at h
    exact List.forall_mem_cons.mpr ⟨rfl, (List.forall_mem_cons.mp h).2⟩
  · rw [hcons] at h
    exact (List.forall_mem_cons.mp h).2

/-- What stands between the braces of a capture without a constraint is its name. -/
theorem nameAndConstraint_of_isUnconstrained {text : List Char}
    (h : (Piece.capture (nameAndConstraint text).1 (nameAndConstraint text).2).isUnconstrained
      = true) : nameAndConstraint text = (text, none) := by
  unfold nameAndConstraint at h ⊢
  cases hcut : cutAt ':' text with
  | none => rfl
  | some r => simp [hcut, Piece.isUnconstrained] at h

/-- **The first piece of a segment**: a capture at a `{`, and else what its first character is. -/
theorem readPieces_cases {fuel : Nat} {c : Char} {s : List Char} {afterCapture : Bool}
    (h : readPieces names afterCapture (rawPieces (fuel + 1) position (c :: s))
      = .ok (pieces, names')) :
    (c = '{' ∧ ∃ pieces' names₁ position',
      IsName (nameAndConstraint (splitCapture s).1).1 ∧
      pieces = .capture (nameAndConstraint (splitCapture s).1).1
        (nameAndConstraint (splitCapture s).1).2 :: pieces' ∧
      readPieces names₁ true (rawPieces fuel position' (splitCapture s).2)
        = .ok (pieces', names')) ∨
    (c ≠ '{' ∧ ∃ pieces' position',
      readPieces names false (rawPieces fuel position' s) = .ok (pieces', names') ∧
      (c = '*' ∧ pieces = .star :: pieces' ∨ c = '?' ∧ pieces = .question :: pieces' ∨
        pieces = Piece.cons c pieces')) := by
  rw [rawPieces] at h
  split at h
  · next hopen =>
    rw [readPieces_braced] at h
    split at h
    · simp at h
    obtain ⟨⟨piece, names₁⟩, hcapture, h⟩ := bind_eq_ok.mp h
    obtain ⟨⟨pieces', names₂⟩, hrest, heq⟩ := map_eq_ok.mp h
    obtain ⟨rfl, rfl⟩ := Prod.mk.inj heq
    obtain ⟨hname, -, rfl⟩ := capture_of_readCapture hcapture
    exact .inl ⟨hopen, pieces', names₁, _, hname, rfl, hrest⟩
  next hopen =>
  split at h
  · next hstar =>
    rw [readPieces_plain rfl] at h
    obtain ⟨⟨pieces', names₁⟩, hrest, heq⟩ := map_eq_ok.mp h
    obtain ⟨rfl, rfl⟩ := Prod.mk.inj heq
    exact .inr ⟨hopen, pieces', _, hrest, .inl ⟨hstar, rfl⟩⟩
  split at h
  · next hquestion =>
    rw [readPieces_plain rfl] at h
    obtain ⟨⟨pieces', names₁⟩, hrest, heq⟩ := map_eq_ok.mp h
    obtain ⟨rfl, rfl⟩ := Prod.mk.inj heq
    exact .inr ⟨hopen, pieces', _, hrest, .inr (.inl ⟨hquestion, rfl⟩)⟩
  · rw [readPieces_cons] at h
    obtain ⟨⟨pieces', names₁⟩, hrest, heq⟩ := map_eq_ok.mp h
    obtain ⟨rfl, rfl⟩ := Prod.mk.inj heq
    exact .inr ⟨hopen, pieces', _, hrest, .inr (.inr rfl)⟩

/-- **The pieces of a segment without constraints are those of their parts.** -/
theorem piecesOf_partsOf {fuel : Nat} {s : List Char} {afterCapture : Bool}
    (h : readPieces names afterCapture (rawPieces fuel position s) = .ok (pieces, names'))
    (hplain : ∀ piece ∈ pieces, piece.isUnconstrained = true) :
    piecesOf (partsOf pieces) = pieces := by
  induction fuel generalizing position s names afterCapture pieces with
  | zero =>
    obtain ⟨rfl, -⟩ : [] = pieces ∧ names = names' := by simpa [rawPieces, readPieces] using h
    rfl
  | succ fuel ih =>
    rcases s with _ | ⟨c, s⟩
    · obtain ⟨rfl, -⟩ : [] = pieces ∧ names = names' := by simpa [rawPieces, readPieces] using h
      rfl
    rcases readPieces_cases h with ⟨-, pieces', names₁, _, -, rfl, hrest⟩ |
      ⟨-, pieces', _, hrest, hfirst⟩
    · obtain ⟨hpiece, hpieces⟩ := List.forall_mem_cons.mp hplain
      rw [partsOf, piecesOf, ih hrest hpieces, nameAndConstraint_of_isUnconstrained hpiece]
    rcases hfirst with ⟨-, rfl⟩ | ⟨-, rfl⟩ | rfl
    · rw [partsOf, piecesOf, ih hrest (List.forall_mem_cons.mp hplain).2]
    · rw [partsOf, piecesOf, ih hrest (List.forall_mem_cons.mp hplain).2]
    · rw [partsOf_cons, piecesOf, ih hrest (isUnconstrained_of_cons hplain)]

/-- A capture ends with a brace when the segment closes all braces that it opens, since no backslash
in the name hides the brace. -/
theorem eq_append_splitCapture {s : List Char}
    (hrun : Braces.run ⟨1, false, false⟩ s = .ok .outside)
    (hname : IsName (nameAndConstraint (splitCapture s).1).1) :
    s = (splitCapture s).1 ++ '}' :: (splitCapture s).2 ∧
      Braces.outside.run (splitCapture s).2 = .ok .outside := by
  have hslash : '\\' ∉ (nameAndConstraint (splitCapture s).1).1 := hname.notMem (by decide)
  refine ⟨?_, Indexed.run_after_splitCapture hrun hslash⟩
  rcases hclosing : closing 0 false s with _ | ⟨inner, after⟩
  · rw [splitCapture, hclosing] at hslash
    obtain ⟨r, hr⟩ := exists_closing hrun hslash
    simp [hclosing] at hr
  · rw [splitCapture, hclosing]
    exact closing_eq_some hclosing

/-- **The parts of a segment without constraints are written as the segment.** -/
theorem textOf_partsOf {fuel : Nat} {s : List Char} {afterCapture : Bool}
    (hfuel : s.length ≤ fuel) (hbalanced : Braces.outside.run s = .ok .outside)
    (h : readPieces names afterCapture (rawPieces fuel position s) = .ok (pieces, names'))
    (hplain : ∀ piece ∈ pieces, piece.isUnconstrained = true) : textOf (partsOf pieces) = s := by
  induction fuel generalizing position s names afterCapture pieces with
  | zero =>
    obtain rfl := List.length_eq_zero_iff.mp (Nat.le_zero.mp hfuel)
    obtain ⟨rfl, -⟩ : [] = pieces ∧ names = names' := by simpa [rawPieces, readPieces] using h
    rfl
  | succ fuel ih =>
    rcases s with _ | ⟨c, s⟩
    · obtain ⟨rfl, -⟩ : [] = pieces ∧ names = names' := by simpa [rawPieces, readPieces] using h
      rfl
    have hlength : s.length ≤ fuel := Nat.le_of_succ_le_succ hfuel
    obtain ⟨next, hstep, hrun⟩ := Braces.run_cons_ok.mp hbalanced
    rcases readPieces_cases h with ⟨rfl, pieces', names₁, _, hname, rfl, hrest⟩ |
      ⟨hopen, pieces', _, hrest, hfirst⟩
    · obtain rfl := Except.ok.inj hstep
      obtain ⟨hpiece, hpieces⟩ := List.forall_mem_cons.mp hplain
      obtain ⟨hs, hafter⟩ := eq_append_splitCapture hrun hname
      have hle : (splitCapture s).2.length ≤ fuel := by
        rw [hs, List.length_append, List.length_cons] at hlength
        omega
      rw [partsOf, textOf_cons, ih hle hafter hrest hpieces,
        nameAndConstraint_of_isUnconstrained hpiece]
      conv_rhs => rw [hs]
      simp [Part.text]
    have hclose : c ≠ '}' := by
      rintro rfl
      simp at hstep
    obtain rfl : Braces.outside = next :=
      Except.ok.inj ((Braces.step_outside hopen hclose).symm.trans hstep)
    rcases hfirst with ⟨rfl, rfl⟩ | ⟨rfl, rfl⟩ | rfl
    · rw [partsOf, textOf_cons, ih hlength hrun hrest (List.forall_mem_cons.mp hplain).2]
      rfl
    · rw [partsOf, textOf_cons, ih hlength hrun hrest (List.forall_mem_cons.mp hplain).2]
      rfl
    · rw [partsOf_cons, textOf_cons, ih hlength hrun hrest (isUnconstrained_of_cons hplain)]
      rfl

/-! ### Mixed segments -/

/-- **The regular expression of a mixed segment** without constraints is that of its parts. -/
theorem regex_of_readSegment {t : List Char} {re : Regex}
    (h : readSegment o names position segment = .ok (.mixed t pieces re, names'))
    (hplain : ∀ piece ∈ pieces, piece.isUnconstrained = true) :
    re = ⟨mixedSource pieces, mixedExpr (!o.caseSensitive) (partsOf pieces)⟩ ∧
      re.expr.fits = true := by
  rw [readSegment_eq] at h
  split at h
  · simp at h
  split at h
  · split at h <;> simp at h
  obtain ⟨⟨pieces₀, names₁⟩, hread, h⟩ := bind_eq_ok.mp h
  obtain ⟨kind, hkind, heq⟩ := map_eq_ok.mp h
  obtain ⟨rfl, -⟩ := Prod.mk.inj heq
  dsimp only at hkind
  unfold kindOfPieces at hkind
  split at hkind
  · simp at hkind
  · obtain ⟨re', -, hmixed⟩ := map_eq_ok.mp hkind
    simp at hmixed
  · obtain ⟨re', hmixed⟩ := readMixed_ok hkind
    obtain ⟨-, rfl, -⟩ := ElementKind.mixed.inj hmixed
    have hpieces := piecesOf_partsOf hread hplain
    rw [← hpieces, readMixed_piecesOf, hpieces] at hkind
    split at hkind
    · next hfits =>
      obtain ⟨-, -, rfl⟩ := ElementKind.mixed.inj (Except.ok.inj hkind)
      exact ⟨rfl, hfits⟩
    · simp at hkind

/-- Whether the text of an element, if it is a mixed segment, closes all braces that it opens. -/
def ElementKind.IsBalanced (k : ElementKind) : Prop :=
  ∀ t pieces re, k = .mixed t pieces re → Braces.outside.run t = .ok .outside

/-- The mixed segments of a pattern close all braces that they open. -/
theorem isBalanced_of_parse {text : List Char} {p : Pattern} (h : Pattern.parse o text = .ok p) :
    ∀ k ∈ p.kinds, k.IsBalanced := by
  obtain ⟨ts, ch, hts, hch, rfl⟩ := parse_ok h
  have hall : (∀ q s, Token.segment q s ∈ [] → Braces.outside.run s = .ok .outside) ∧
      ∀ e ∈ ch.elements, e.kind.IsBalanced := by
    refine Chain.placeAll_invariant (fun ch ts => (∀ q s, Token.segment q s ∈ ts →
      Braces.outside.run s = .ok .outside) ∧ ∀ e ∈ ch.elements, e.kind.IsBalanced)
      (fun ch t rest ch' _ hplaced ⟨htokens, hch⟩ => ?_) hch
      ⟨fun q s hs => run_of_mem_tokens hts hs, by simp⟩
    refine ⟨fun q s hs => htokens q s (List.mem_cons_of_mem _ hs), ?_⟩
    have hpush {e : PatternElement} {before : List PatternElement} (hbefore : before <:+ ch.elements)
        (he : e.kind.IsBalanced) : ∀ e' ∈ e :: before, e'.kind.IsBalanced :=
      List.forall_mem_cons.mpr ⟨he, fun e' he' => hch e' (hbefore.subset he')⟩
    cases hplaced with
    | separator | segments | captureRestAlone =>
      exact hpush (List.suffix_refl _) (by simp [ElementKind.IsBalanced])
    | rest p q before last helements =>
      exact hpush (helements ▸ List.suffix_cons ..) (by simp [ElementKind.IsBalanced])
    | captureRest p q offset s name before hfound hname hfresh helements =>
      exact hpush (helements ▸ List.suffix_cons ..) (by simp [ElementKind.IsBalanced])
    | single p s kind names _ _ hread =>
      -- the element is read from its token
      have hs := htokens p s List.mem_cons_self
      refine hpush (List.suffix_refl _) fun t pieces re hkind => ?_
      obtain rfl : kind = .mixed t pieces re := hkind
      cases segmentRead_of_readSegment hread
      exact hs
  intro k hk
  obtain ⟨e, he, rfl⟩ := List.mem_map.mp hk
  exact hall.2 e (List.mem_reverse.mp he)

/-- **A mixed segment without constraints** is written as its parts are, and its regular expression is
that of its parts. -/
theorem mixed_of_parse {text : List Char} {p : Pattern} (h : Pattern.parse o text = .ok p)
    {t : List Char} {re : Regex} (hk : .mixed t pieces re ∈ p.kinds)
    (hplain : ∀ piece ∈ pieces, piece.isUnconstrained = true) :
    textOf (partsOf pieces) = t ∧
      re = ⟨mixedSource pieces, mixedExpr (!o.caseSensitive) (partsOf pieces)⟩ := by
  have hbalanced := isBalanced_of_parse h _ hk t pieces re rfl
  cases fromToken_of_parse h _ hk with
  | single hread =>
    refine ⟨?_, (regex_of_readSegment hread hplain).1⟩
    cases segmentRead_of_readSegment hread with
    | mixed _ _ _ _ hpieces => exact textOf_partsOf (Nat.le_refl _) hbalanced hpieces hplain

end PathRouting
