import PathRouting.Pattern.Basic
import PathRouting.Proofs.Fallible
import PathRouting.Proofs.Search.Basic

/-!
# Reading one segment of a pattern

What a segment is read as depends on its text alone.  Its place only shows in faults, and the
names given before only decide whether it is refused.

## Main definitions

* `kindOfPieces` — the kind of element that checked pieces make.
* `SegmentRead` — the ways to read a segment.
* `IsName` — whether a text is a name.
* `keepApart` — the names given while reading, put before other names if they differ from them.

## Main results

* `readSegment_eq` — reading a segment as a choice between four forms.
* `segmentRead_of_readSegment` — what is read, is read in one of six ways.
* `readSegment_ok` — what a segment is read as, and the names it adds.
* `toOption_readSegment` — reading a segment elsewhere, with further names given.
-/

namespace PathRouting

open Text

/-! ### The forms of a segment -/

/-- The kind of element that the checked pieces of a segment make. -/
def kindOfPieces (o : PatternOptions) (position : Nat) (segment : List Char) :
    List Piece → Except (PatternCause × Nat) ElementKind
  | [.capture name none] => .ok (.capture name none)
  | [.capture name (some constraint)] =>
    (compileAt o position (constraintSource constraint)).map fun re =>
      .capture name (some (constraint, re))
  | pieces => readMixed o position segment pieces

/-- A segment is `*`, literal text, text with `?`, or made of pieces. -/
theorem readSegment_eq (o : PatternOptions) (names : List (List Char)) (position : Nat)
    (segment : List Char) : readSegment o names position segment =
      if segment = ['*'] then .ok (.wildcard, names)
      else if !segment.contains '{' && !segment.contains '*' then
        if segment.contains '?' then .ok (.singleChars segment o.caseSensitive, names)
        else .ok (.literal segment o.caseSensitive, names)
      else readPieces names false (rawPieces segment.length position segment) >>= fun r =>
        (kindOfPieces o position segment r.1).map (·, r.2) := by
  unfold readSegment
  split
  · rfl
  · split
    · split <;> rfl
    · congr 1
      funext ⟨pieces, names'⟩
      dsimp only
      split
      · rfl
      · rw [kindOfPieces]
        cases compileAt o position (constraintSource _) <;> rfl
      · rw [kindOfPieces]
        · cases readMixed o position segment pieces <;> rfl
        all_goals assumption

theorem readMixed_ok {o : PatternOptions} {position : Nat} {segment : List Char}
    {pieces : List Piece} {kind : ElementKind}
    (h : readMixed o position segment pieces = .ok kind) :
    ∃ re, kind = .mixed segment pieces re := by
  simp only [readMixed, bind_eq_ok] at h
  obtain ⟨re, -, h⟩ := h
  split at h
  · simp at h
  · exact ⟨re, (pure_eq_ok.mp h).symm⟩

/-- The ways to read a segment. -/
inductive SegmentRead (o : PatternOptions) (names : List (List Char)) (position : Nat)
    (segment : List Char) : ElementKind → List (List Char) → Prop
  /-- A `*` alone. -/
  | wildcard (star : segment = ['*']) : SegmentRead o names position segment .wildcard names
  /-- Text with `?`. -/
  | singleChars (question : '?' ∈ segment) :
      SegmentRead o names position segment (.singleChars segment o.caseSensitive) names
  /-- Literal text. -/
  | literal (question : '?' ∉ segment) :
      SegmentRead o names position segment (.literal segment o.caseSensitive) names
  /-- A capture alone. -/
  | capture (name : List Char) (names' : List (List Char))
      (read : readPieces names false (rawPieces segment.length position segment)
        = .ok ([.capture name none], names')) :
      SegmentRead o names position segment (.capture name none) names'
  /-- A capture alone with a constraint. -/
  | constrained (name constraint : List Char) (re : Regex) (names' : List (List Char))
      (read : readPieces names false (rawPieces segment.length position segment)
        = .ok ([.capture name (some constraint)], names'))
      (compiled : compileAt o position (constraintSource constraint) = .ok re) :
      SegmentRead o names position segment (.capture name (some (constraint, re))) names'
  /-- Any other pieces. -/
  | mixed (pieces : List Piece) (re : Regex) (names' : List (List Char))
      (opened : '{' ∈ segment ∨ '*' ∈ segment)
      (read : readPieces names false (rawPieces segment.length position segment)
        = .ok (pieces, names')) :
      SegmentRead o names position segment (.mixed segment pieces re) names'

/-- A segment is read in one of the six ways. -/
theorem segmentRead_of_readSegment {o : PatternOptions} {names names' : List (List Char)}
    {position : Nat} {segment : List Char} {kind : ElementKind}
    (h : readSegment o names position segment = .ok (kind, names')) :
    SegmentRead o names position segment kind names' := by
  rw [readSegment_eq] at h
  split at h
  · next hstar =>
    obtain ⟨rfl, rfl⟩ := Prod.mk.inj (Except.ok.inj h)
    exact .wildcard hstar
  split at h
  · split at h
    · next hquestion =>
      obtain ⟨rfl, rfl⟩ := Prod.mk.inj (Except.ok.inj h)
      exact .singleChars (List.contains_iff_mem.mp hquestion)
    · next hquestion =>
      obtain ⟨rfl, rfl⟩ := Prod.mk.inj (Except.ok.inj h)
      exact .literal (mt List.contains_iff_mem.mpr hquestion)
  · next hplain =>
    obtain ⟨⟨pieces, names₁⟩, hpieces, h⟩ := bind_eq_ok.mp h
    obtain ⟨kind, hkind, heq⟩ := map_eq_ok.mp h
    obtain ⟨rfl, rfl⟩ := Prod.mk.inj heq
    dsimp only at hkind
    unfold kindOfPieces at hkind
    split at hkind
    · obtain rfl := Except.ok.inj hkind
      exact .capture _ _ hpieces
    · obtain ⟨re, hre, rfl⟩ := map_eq_ok.mp hkind
      exact .constrained _ _ re _ hpieces hre
    · obtain ⟨re, rfl⟩ := readMixed_ok hkind
      refine .mixed pieces re _ ?_ hpieces
      simpa [Classical.or_iff_not_imp_left] using hplain

/-! ### Pieces -/

/-- The checked piece for a piece that needs no check. -/
def RawPiece.plain? : RawPiece → Option Piece
  | literal t => some (.literal t)
  | star => some .star
  | question => some .question
  | braced .. => none

/-- Only what stands between braces needs a check. -/
theorem RawPiece.eq_braced {raw : RawPiece} (h : raw.plain? = none) :
    ∃ position text, raw = .braced position text := by
  cases raw with
  | braced position text => exact ⟨position, text, rfl⟩
  | _ => simp [plain?] at h

theorem readPieces_plain {raw : RawPiece} {piece : Piece} (h : raw.plain? = some piece)
    (names : List (List Char)) (afterCapture : Bool) (raws : List RawPiece) :
    readPieces names afterCapture (raw :: raws)
      = (readPieces names false raws).map fun r => (piece :: r.1, r.2) := by
  cases raw <;> simp only [RawPiece.plain?, Option.some.injEq, reduceCtorEq] at h <;> subst h <;>
    rw [readPieces] <;> cases readPieces names false raws <;> rfl

theorem readPieces_braced (names : List (List Char)) (afterCapture : Bool) (position : Nat)
    (text : List Char) (raws : List RawPiece) :
    readPieces names afterCapture (.braced position text :: raws)
      = if afterCapture then .error (.adjacentCaptures, position - 1)
        else readCapture names position text >>= fun c =>
          (readPieces c.2 true raws).map fun r => (c.1 :: r.1, r.2) := by
  rw [readPieces]
  cases afterCapture
  · simp only [Bool.false_eq_true, if_false]
    congr 1
  · rfl

theorem captureNames_cons (piece : Piece) (pieces : List Piece) :
    captureNames (piece :: pieces) = piece.name?.toList ++ captureNames pieces := by
  rw [captureNames, List.filterMap_cons, captureNames]
  cases piece.name? <;> rfl

theorem name?_of_plain? {raw : RawPiece} {piece : Piece} (h : raw.plain? = some piece) :
    piece.name? = none := by
  cases raw <;> simp only [RawPiece.plain?, Option.some.injEq, reduceCtorEq] at h <;> subst h <;>
    rfl

/-! ### Names -/

/-- Whether a text is a name: a letter, `_` or `$`, and after it letters, numerals, `_`, `$` and
`-`. -/
def IsName : List Char → Prop
  | [] => False
  | c :: s => isNameStart c = true ∧ ∀ d ∈ s, isNameChar d = true

theorem isNameChar_of_isNameStart {c : Char} (h : isNameStart c = true) : isNameChar c = true := by
  rw [isNameStart, Bool.or_eq_true, Bool.or_eq_true] at h
  rcases h with (h | h) | h <;> simp [isNameChar, isAlphanumeric, h]

theorem IsName.chars {s : List Char} (h : IsName s) : ∀ c ∈ s, isNameChar c = true := by
  cases s with
  | nil => exact h.elim
  | cons c s => exact List.forall_mem_cons.mpr ⟨isNameChar_of_isNameStart h.1, h.2⟩

/-- What no name can hold is not in a name. -/
theorem IsName.notMem {s : List Char} (h : IsName s) {c : Char} (hc : isNameChar c = false) :
    c ∉ s := by
  intro hmem
  have hchar := h.chars c hmem
  simp [hc] at hchar

theorem firstIllegal_eq_none (position : Nat) (s : List Char) :
    firstIllegal position s = none ↔ ∀ c ∈ s, isNameChar c = true := by
  induction s generalizing position with
  | nil => simp [firstIllegal]
  | cons c s ih =>
    rw [firstIllegal, List.forall_mem_cons, ← ih (position + 1)]
    split <;> simp_all

/-- A text passes the check when it is a name. -/
theorem checkName_ok {whenEmpty : PatternCause × Nat} {position : Nat} {s : List Char} {u : Unit} :
    checkName whenEmpty position s = .ok u ↔ IsName s := by
  cases s with
  | nil => simp [checkName, IsName]
  | cons c s =>
    rw [checkName, IsName]
    cases hstart : isNameStart c with
    | false => simp
    | true =>
      have hlegal := firstIllegal_eq_none position (c :: s)
      rw [List.forall_mem_cons, and_iff_right (isNameChar_of_isNameStart hstart)] at hlegal
      rcases hfirst : firstIllegal position (c :: s) with _ | ⟨bad, place⟩
      · simpa [hfirst] using hlegal
      · simpa [hfirst] using hlegal

theorem addName_ok {names names' : List (List Char)} {position : Nat} {name : List Char} :
    addName names position name = .ok names' ↔ name ∉ names ∧ names' = name :: names := by
  unfold addName
  split <;> simp_all [eq_comm]

theorem readCapture_ok {names names' : List (List Char)} {position : Nat} {text : List Char}
    {piece : Piece} (h : readCapture names position text = .ok (piece, names')) :
    ∃ name constraint,
      piece = .capture name constraint ∧ name ∉ names ∧ names' = name :: names := by
  unfold readCapture at h
  split at h
  next name constraint _ =>
    simp only [bind_eq_ok] at h
    obtain ⟨-, -, h⟩ := h
    split at h
    · simp at h
    · simp only [bind_eq_ok, pure_eq_ok, Prod.mk.injEq] at h
      obtain ⟨names, hadd, rfl, rfl⟩ := h
      obtain ⟨hmem, rfl⟩ := addName_ok.mp hadd
      exact ⟨name, constraint, rfl, hmem, rfl⟩

/-- The names given while reading pieces differ from those given earlier, before which they are
put, the latest first. -/
theorem names_readPieces {names names' : List (List Char)} {afterCapture : Bool}
    {raws : List RawPiece} {pieces : List Piece}
    (h : readPieces names afterCapture raws = .ok (pieces, names')) :
    names' = (captureNames pieces).reverse ++ names ∧ (names.Nodup → names'.Nodup) := by
  induction raws generalizing names afterCapture pieces with
  | nil =>
    obtain ⟨rfl, rfl⟩ : [] = pieces ∧ names = names' := by simpa [readPieces] using h
    exact ⟨rfl, id⟩
  | cons raw raws ih =>
    rcases hraw : raw.plain? with _ | piece
    · obtain ⟨position, text, rfl⟩ := RawPiece.eq_braced hraw
      rw [readPieces_braced] at h
      split at h
      · simp at h
      · obtain ⟨⟨piece, names₁⟩, hcap, h⟩ := bind_eq_ok.mp h
        obtain ⟨⟨pieces', names₂⟩, hrest, heq⟩ := map_eq_ok.mp h
        obtain ⟨rfl, rfl⟩ := Prod.mk.inj heq
        obtain ⟨name, constraint, rfl, hmem, rfl⟩ := readCapture_ok hcap
        obtain ⟨hnames, hnodup⟩ := ih hrest
        refine ⟨?_, fun hn => hnodup (List.nodup_cons.mpr ⟨hmem, hn⟩)⟩
        simpa [captureNames_cons, Piece.name?] using hnames
    · rw [readPieces_plain hraw] at h
      obtain ⟨⟨pieces', names₁⟩, hrest, heq⟩ := map_eq_ok.mp h
      obtain ⟨rfl, rfl⟩ := Prod.mk.inj heq
      rw [captureNames_cons, name?_of_plain? hraw]
      exact ih hrest

/-- What a segment is read as, apart from separators and what spans several segments. -/
theorem readSegment_ok {o : PatternOptions} {names names' : List (List Char)} {position : Nat}
    {segment : List Char} {kind : ElementKind}
    (h : readSegment o names position segment = .ok (kind, names')) :
    (segment = ['*'] ∧ kind = .wildcard ∨ kind.takes = true) ∧
      names' = kind.names.reverse ++ names ∧
      (names.Nodup → names'.Nodup) := by
  cases segmentRead_of_readSegment h with
  | wildcard hstar => exact ⟨.inl ⟨hstar, rfl⟩, rfl, id⟩
  | singleChars _ => exact ⟨.inr rfl, rfl, id⟩
  | literal _ => exact ⟨.inr rfl, rfl, id⟩
  | capture name names' hread => exact ⟨.inr rfl, names_readPieces hread⟩
  | constrained name constraint re names' hread _ => exact ⟨.inr rfl, names_readPieces hread⟩
  | mixed pieces re names' _ hread => exact ⟨.inr rfl, names_readPieces hread⟩

/-! ### Reading without places -/

/-- What is read put before names given elsewhere, if the names given while reading differ from
those. -/
def keepApart {γ : Type} (others : List (List Char)) (r : γ × List (List Char)) :
    Option (γ × List (List Char)) :=
  if ∀ n ∈ r.2, n ∉ others then some (r.1, r.2 ++ others) else none

@[simp] theorem keepApart_nil {γ : Type} :
    (keepApart [] : γ × List (List Char) → Option (γ × List (List Char))) = some := by
  funext r
  simp [keepApart]

theorem keepApart_eq_none {γ : Type} {others : List (List Char)} {r : γ × List (List Char)}
    {n : List Char} (hn : n ∈ r.2) (hothers : n ∈ others) : keepApart others r = none :=
  if_neg fun h => h n hn hothers

/-- Whether a text starts a name or is one does not depend on where it stands. -/
theorem isNone_firstIllegal (position position' : Nat) (s : List Char) :
    (firstIllegal position s).isNone = (firstIllegal position' s).isNone := by
  induction s generalizing position position' with
  | nil => rfl
  | cons c s ih =>
    rw [firstIllegal, firstIllegal]
    split
    · exact ih _ _
    · rfl

theorem toOption_checkName (whenEmpty whenEmpty' : PatternCause × Nat) (position position' : Nat)
    (s : List Char) :
    (checkName whenEmpty position s).toOption = (checkName whenEmpty' position' s).toOption := by
  cases s with
  | nil => rfl
  | cons c s =>
    rw [checkName, checkName]
    split
    · rfl
    · have h := isNone_firstIllegal position position' (c :: s)
      cases h₁ : firstIllegal position (c :: s) <;> cases h₂ : firstIllegal position' (c :: s) <;>
        first | rfl | simp [h₁, h₂] at h

section Names

variable {names others : List (List Char)}

theorem toOption_addName (hnames : ∀ n ∈ names, n ∉ others) (position position' : Nat)
    (name : List Char) : (addName (names ++ others) position' name).toOption
      = (addName names position name).toOption.bind fun names' =>
          if ∀ n ∈ names', n ∉ others then some (names' ++ others) else none := by
  unfold addName
  by_cases h : name ∈ names
  · simp [h]
  · by_cases h' : name ∈ others
    · simp [h, h']
    · simpa [h, h'] using hnames

/-- The name and the constraint in the text between braces. -/
def nameAndConstraint (text : List Char) : List Char × Option (List Char) :=
  match cutAt ':' text with
  | some (name, constraint) => (name, some constraint)
  | none => (text, none)

theorem readCapture_eq (names : List (List Char)) (position : Nat) (text : List Char) :
    readCapture names position text
      = checkName (.emptyName, position) position (nameAndConstraint text).1 >>= fun _ =>
        if (nameAndConstraint text).2 = some [] then
          .error (.missingConstraint, position + (nameAndConstraint text).1.length + 1)
        else (addName names position (nameAndConstraint text).1).map fun names =>
          (.capture (nameAndConstraint text).1 (nameAndConstraint text).2, names) := by
  unfold readCapture nameAndConstraint
  rcases cutAt ':' text with _ | ⟨name, constraint⟩ <;> dsimp only <;> congr 1

/-- The text between braces has a name, and where it has a constraint, that is not empty. -/
theorem capture_of_readCapture {position : Nat} {text : List Char} {piece : Piece}
    {names' : List (List Char)} (h : readCapture names position text = .ok (piece, names')) :
    IsName (nameAndConstraint text).1 ∧ (nameAndConstraint text).2 ≠ some [] ∧
      piece = .capture (nameAndConstraint text).1 (nameAndConstraint text).2 := by
  rw [readCapture_eq] at h
  obtain ⟨u, hname, h⟩ := bind_eq_ok.mp h
  split at h
  · simp at h
  · next hconstraint =>
    obtain ⟨names₁, -, heq⟩ := map_eq_ok.mp h
    exact ⟨checkName_ok.mp hname, hconstraint, (Prod.mk.inj heq).1.symm⟩

theorem toOption_readCapture (hnames : ∀ n ∈ names, n ∉ others) (position position' : Nat)
    (text : List Char) : (readCapture (names ++ others) position' text).toOption
      = (readCapture names position text).toOption.bind (keepApart others) := by
  rw [readCapture_eq, readCapture_eq, toOption_bind, toOption_bind,
    toOption_checkName _ (.emptyName, position) _ position]
  rcases (checkName (.emptyName, position) position (nameAndConstraint text).1).toOption with _ | u
  · rfl
  · simp only [Option.bind_some]
    split
    · rfl
    · rw [toOption_map, toOption_map, toOption_addName hnames position position']
      rcases (addName names position (nameAndConstraint text).1).toOption with _ | names'
      · rfl
      · simp only [Option.bind_some, Option.map_some, keepApart]
        split <;> rfl

/-- A piece without its place. -/
def RawPiece.unplaced : RawPiece → RawPiece
  | braced _ text => braced 0 text
  | raw => raw

theorem unplaced_cons (c : Char) {raws raws' : List RawPiece}
    (h : raws.map RawPiece.unplaced = raws'.map RawPiece.unplaced) :
    (RawPiece.cons c raws).map RawPiece.unplaced
      = (RawPiece.cons c raws').map RawPiece.unplaced := by
  rcases raws with _ | ⟨raw, raws⟩ <;> rcases raws' with _ | ⟨raw', raws'⟩
  · rfl
  · simp at h
  · simp at h
  · cases raw <;> cases raw' <;> simp_all [RawPiece.cons, RawPiece.unplaced]

/-- The pieces of a segment are the same wherever it stands. -/
theorem unplaced_rawPieces (fuel position position' : Nat) (s : List Char) :
    (rawPieces fuel position s).map RawPiece.unplaced
      = (rawPieces fuel position' s).map RawPiece.unplaced := by
  induction fuel generalizing position position' s with
  | zero => rfl
  | succ fuel ih =>
    cases s with
    | nil => rfl
    | cons c s =>
      rw [rawPieces, rawPieces]
      split
      · simp only [List.map_cons, RawPiece.unplaced, List.cons.injEq, true_and]
        exact ih _ _ _
      · split
        · simp only [List.map_cons, List.cons.injEq, true_and]
          exact ih _ _ _
        · split
          · simp only [List.map_cons, List.cons.injEq, true_and]
            exact ih _ _ _
          · exact unplaced_cons c (ih _ _ _)

theorem plain?_of_unplaced {raw raw' : RawPiece} (h : raw.unplaced = raw'.unplaced) :
    raw.plain? = raw'.plain? := by
  cases raw <;> cases raw' <;> simp_all [RawPiece.unplaced, RawPiece.plain?]

theorem toOption_readPieces {raws raws' : List RawPiece}
    (h : raws'.map RawPiece.unplaced = raws.map RawPiece.unplaced)
    (hnames : ∀ n ∈ names, n ∉ others)
    (afterCapture : Bool) : (readPieces (names ++ others) afterCapture raws').toOption
      = (readPieces names afterCapture raws).toOption.bind (keepApart others) := by
  induction raws generalizing raws' names afterCapture with
  | nil =>
    obtain rfl := List.map_eq_nil_iff.mp h
    exact (if_pos hnames).symm
  | cons raw raws ih =>
    obtain ⟨raw', raws', rfl, hraw, hraws⟩ := List.map_eq_cons_iff.mp h
    rcases hplain : raw.plain? with _ | piece
    · obtain ⟨position, text, rfl⟩ := RawPiece.eq_braced hplain
      obtain ⟨position', rfl⟩ : ∃ position', raw' = .braced position' text := by
        cases raw' <;> simp_all [RawPiece.unplaced]
      rw [readPieces_braced, readPieces_braced]
      split
      · rfl
      · rw [toOption_bind, toOption_bind, toOption_readCapture hnames position position']
        rcases hcap : readCapture names position text with e | ⟨piece, names₁⟩
        · rfl
        · simp only [toOption_ok, Option.bind_some]
          by_cases happart : ∀ n ∈ names₁, n ∉ others
          · rw [keepApart, if_pos happart]
            simp only [Option.bind_some, toOption_map, ih hraws happart]
            rcases (readPieces names₁ true raws).toOption with _ | ⟨pieces, names₂⟩
            · rfl
            · simp only [Option.bind_some, Option.map_some, keepApart]
              split <;> rfl
          · -- a name that is given twice stays among those given
            obtain ⟨n, hn, hothers⟩ : ∃ n ∈ names₁, n ∈ others := by simpa using happart
            rw [keepApart_eq_none hn hothers, Option.bind_none, toOption_map]
            rcases hrest : readPieces names₁ true raws with e | ⟨pieces, names₂⟩
            · rfl
            · have hmem : n ∈ names₂ := by
                rw [(names_readPieces hrest).1]
                exact List.mem_append_right _ hn
              simp only [toOption_ok, Option.map_some, Option.bind_some]
              exact (keepApart_eq_none hmem hothers).symm
    · rw [readPieces_plain hplain, readPieces_plain (plain?_of_unplaced hraw ▸ hplain),
        toOption_map, toOption_map, ih hraws hnames]
      rcases (readPieces names false raws).toOption with _ | ⟨pieces, names₁⟩
      · rfl
      · simp only [Option.bind_some, Option.map_some, keepApart]
        split <;> rfl

theorem toOption_kindOfPieces (o : PatternOptions) (position position' : Nat)
    (segment : List Char) (pieces : List Piece) :
    (kindOfPieces o position segment pieces).toOption
      = (kindOfPieces o position' segment pieces).toOption := by
  have hcompile : ∀ source, (compileAt o position source).toOption
      = (compileAt o position' source).toOption := by
    intro source
    unfold compileAt
    cases Regex.compile? (!o.caseSensitive) source <;> rfl
  unfold kindOfPieces
  split
  · rfl
  · rw [toOption_map, toOption_map, hcompile]
  · rw [readMixed, readMixed, toOption_bind, toOption_bind, hcompile]
    congr 1
    funext re
    split <;> rfl

/-- **A segment is read as the same element wherever it stands**, and further names given elsewhere
only forbid names. -/
theorem toOption_readSegment (o : PatternOptions) (hnames : ∀ n ∈ names, n ∉ others)
    (position position' : Nat) (segment : List Char) :
    (readSegment o (names ++ others) position' segment).toOption
      = (readSegment o names position segment).toOption.bind (keepApart others) := by
  rw [readSegment_eq, readSegment_eq]
  split
  · exact (if_pos hnames).symm
  · split
    · split <;> exact (if_pos hnames).symm
    · rw [toOption_bind, toOption_bind,
        toOption_readPieces (unplaced_rawPieces _ position' position _) hnames]
      rcases (readPieces names false (rawPieces segment.length position segment)).toOption
        with _ | ⟨pieces, names₁⟩
      · rfl
      · -- a name given elsewhere is found before an expression is compiled; either fault refuses
        simp only [Option.bind_some, toOption_map, toOption_kindOfPieces o position position']
        by_cases happart : ∀ n ∈ names₁, n ∉ others
        · rw [keepApart, if_pos happart]
          simp only [Option.bind_some]
          rcases (kindOfPieces o position' segment pieces).toOption with _ | kind
          · rfl
          · exact (if_pos happart).symm
        · rw [keepApart, if_neg happart]
          rcases (kindOfPieces o position' segment pieces).toOption with _ | kind
          · rfl
          · exact (if_neg happart).symm

theorem toOption_readRestName (position position' offset : Nat) (segment : List Char) :
    (readRestName position offset segment).toOption
      = (readRestName position' offset segment).toOption := by
  unfold readRestName
  split
  · rfl
  · rw [toOption_bind, toOption_bind]
    congr 1
    exact toOption_checkName ..

end Names

end PathRouting
