import PathRouting.Proofs.Pattern.Braces
import PathRouting.Proofs.Pattern.Mixed

/-!
# Reading the parts of a segment

The text of a segment that was written part by part is cut into the pieces these parts make.  The
tests that tell one kind of segment from another look for braces, `*` and `?` in the text, and agree
with the parts it was written of.  Only the regular expression of a mixed segment can be refused,
and only because it takes too much room.

## Main definitions

* `rawPiecesOf` — the pieces of parts before captures are checked.
* `readAs` — the result of reading a segment, which only its size can forbid.

## Main results

* `rawPieces_textOf`, `readPieces_rawPiecesOf` — the text of parts is cut into their pieces, and
  these are checked.
* `readMixed_piecesOf` — a mixed segment is refused for its size only.
* `readSegment_textOf` — a segment is read as it was written.
-/

namespace PathRouting

open Regex

variable {o : PatternOptions} {separator : Char} {parts : List Part} {names : List (List Char)}
  {position : Nat}

/-! ### Pieces -/

/-- The search for a closing brace goes past a name. -/
theorem closing_append_name {name : List Char} (h : ∀ c ∈ name, isNameChar c = true)
    (rest : List Char) :
    closing 0 false (name ++ rest) = (closing 0 false rest).map fun r => (name ++ r.1, r.2) := by
  induction name with
  | nil => exact (Option.map_id' ..).symm
  | cons c name ih =>
    obtain ⟨hc, hname⟩ := List.forall_mem_cons.mp h
    have hne : ∀ d, isNameChar d = false → c ≠ d := by
      rintro d hd rfl
      simp [hc] at hd
    have hstep : closeStep 0 false c = some (0, false) := by
      simp [closeStep, hne '\\' (by decide), hne '{' (by decide), hne '}' (by decide)]
    rw [List.cons_append, closing_cons, hstep]
    simp only [ih hname, Option.map_map]
    rfl

/-- A name goes up to its closing brace. -/
theorem closing_name {name : List Char} (h : ∀ c ∈ name, isNameChar c = true) (rest : List Char) :
    closing 0 false (name ++ '}' :: rest) = some (name, rest) := by
  rw [closing_append_name h]
  show some (name ++ [], rest) = _
  rw [List.append_nil]

/-- The pieces of parts before captures are checked. -/
def rawPiecesOf : Nat → List Part → List RawPiece
  | _, [] => []
  | position, .char c :: parts => RawPiece.cons c (rawPiecesOf (position + 1) parts)
  | position, .star :: parts => .star :: rawPiecesOf (position + 1) parts
  | position, .question :: parts => .question :: rawPiecesOf (position + 1) parts
  | position, .capture name :: parts =>
    .braced (position + 1) name :: rawPiecesOf (position + name.length + 2) parts

/-- The text of parts is cut into their pieces. -/
theorem rawPieces_textOf (h : ∀ part ∈ parts, part.IsProper separator) {fuel : Nat}
    (hfuel : (textOf parts).length ≤ fuel) (position : Nat) :
    rawPieces fuel position (textOf parts) = rawPiecesOf position parts := by
  induction parts generalizing fuel position with
  | nil => cases fuel <;> rfl
  | cons part parts ih =>
    obtain ⟨hpart, hparts⟩ := List.forall_mem_cons.mp h
    rw [textOf_cons, List.length_append] at hfuel
    rw [textOf_cons]
    obtain ⟨fuel, rfl⟩ : ∃ n, fuel = n + 1 := by
      have : 0 < part.text.length := by cases part <;> simp [Part.text]
      exact ⟨fuel - 1, by omega⟩
    cases part with
    | char c =>
      have hc : c ≠ '{' ∧ c ≠ '}' ∧ c ≠ '*' ∧ c ≠ '?' := by simpa using hpart.1
      simp only [Part.text, List.length_singleton] at hfuel
      show rawPieces (fuel + 1) position (c :: textOf parts) = _
      rw [rawPieces, if_neg hc.1, if_neg hc.2.2.1, if_neg hc.2.2.2, ih hparts (by omega)]
      rfl
    | star =>
      simp only [Part.text, List.length_singleton] at hfuel
      show rawPieces (fuel + 1) position ('*' :: textOf parts) = _
      rw [rawPieces, if_neg (by decide), if_pos rfl, ih hparts (by omega)]
      rfl
    | question =>
      simp only [Part.text, List.length_singleton] at hfuel
      show rawPieces (fuel + 1) position ('?' :: textOf parts) = _
      rw [rawPieces, if_neg (by decide), if_neg (by decide), if_pos rfl, ih hparts (by omega)]
      rfl
    | capture name =>
      simp only [Part.text, List.length_cons, List.length_append] at hfuel
      have htext : (Part.capture name).text ++ textOf parts
          = '{' :: (name ++ '}' :: textOf parts) := by simp [Part.text]
      have hsplit : splitCapture (name ++ '}' :: textOf parts) = (name, textOf parts) := by
        rw [splitCapture, closing_name (IsName.chars hpart), Option.getD_some]
      rw [htext, rawPieces, if_pos rfl, hsplit]
      simp only [ih hparts (show (textOf parts).length ≤ fuel by omega)]
      rfl

/-- A character put before pieces is put before the checked ones. -/
theorem readPieces_cons (names : List (List Char)) (afterCapture : Bool) (c : Char)
    (raws : List RawPiece) : readPieces names afterCapture (RawPiece.cons c raws)
      = (readPieces names false raws).map fun r => (Piece.cons c r.1, r.2) := by
  have hliteral (t : List Char) : (RawPiece.literal t).plain? = some (.literal t) := rfl
  have hstar : RawPiece.star.plain? = some .star := rfl
  have hquestion : RawPiece.question.plain? = some .question := rfl
  rcases raws with _ | ⟨raw, raws⟩
  · rfl
  cases raw with
  | literal t =>
    rw [RawPiece.cons, readPieces_plain (hliteral _), readPieces_plain (hliteral _)]
    cases readPieces names false raws <;> rfl
  | star =>
    rw [RawPiece.cons, readPieces_plain (hliteral _), readPieces_plain hstar]
    · cases readPieces names false raws <;> rfl
    · simp
  | question =>
    rw [RawPiece.cons, readPieces_plain (hliteral _), readPieces_plain hquestion]
    · cases readPieces names false raws <;> rfl
    · simp
  | braced position text =>
    rw [RawPiece.cons, readPieces_plain (hliteral _), readPieces_braced]
    · rcases hcapture : readCapture names position text with e | ⟨piece, names'⟩
      · rfl
      · obtain ⟨name, constraint, rfl, -, -⟩ := readCapture_ok hcapture
        show ((readPieces names' true raws).map _).map _ = ((readPieces names' true raws).map _).map _
        cases readPieces names' true raws <;> rfl
    · simp

/-- A name that was not given yet is read as a capture. -/
theorem readCapture_name {name : List Char} (h : IsName name) (hfresh : name ∉ names)
    (position : Nat) :
    readCapture names position name = .ok (.capture name none, name :: names) := by
  have hcolon : nameAndConstraint name = (name, none) := by
    rw [nameAndConstraint, Text.cutAt_eq_none.mpr (h.notMem (by decide))]
  have hname : checkName (.emptyName, position) position name = .ok () := checkName_ok.mpr h
  have hadd : addName names position name = .ok (name :: names) := addName_ok.mpr ⟨hfresh, rfl⟩
  rw [readCapture_eq, hcolon, hname, hadd]
  rfl

/-- **The pieces of parts are checked** when names are new and no two captures stand side by side. -/
theorem readPieces_rawPiecesOf (h : ∀ part ∈ parts, part.IsProper separator)
    (hapart : parts.IsChain fun a b => a.isCapture = false ∨ b.isCapture = false)
    (hfresh : (namesOfParts parts ++ names).Nodup) {afterCapture : Bool}
    (hafter : afterCapture = true → ∀ part ∈ parts.head?, part.isCapture = false)
    (position : Nat) : readPieces names afterCapture (rawPiecesOf position parts)
      = .ok (piecesOf parts, (namesOfParts parts).reverse ++ names) := by
  induction parts generalizing names afterCapture position with
  | nil => rfl
  | cons part parts ih =>
    obtain ⟨hpart, hparts⟩ := List.forall_mem_cons.mp h
    have hrest : (namesOfParts parts ++ names).Nodup → ∀ position,
        readPieces names false (rawPiecesOf position parts)
          = .ok (piecesOf parts, (namesOfParts parts).reverse ++ names) :=
      fun hfresh position => ih hparts hapart.tail hfresh (by simp) position
    have hstar : RawPiece.star.plain? = some .star := rfl
    have hquestion : RawPiece.question.plain? = some .question := rfl
    cases part with
    | char c =>
      rw [rawPiecesOf, readPieces_cons, hrest hfresh]
      rfl
    | star =>
      rw [rawPiecesOf, readPieces_plain hstar, hrest hfresh]
      rfl
    | question =>
      rw [rawPiecesOf, readPieces_plain hquestion, hrest hfresh]
      rfl
    | capture name =>
      have hfirst : afterCapture = false := by
        by_contra htrue
        have := hafter (by simpa using htrue) (.capture name) rfl
        simp [Part.isCapture] at this
      have hnames : (name :: (namesOfParts parts ++ names)).Nodup := hfresh
      have hnew : name ∉ names := fun hmem =>
        (List.nodup_cons.mp hnames).1 (List.mem_append_right _ hmem)
      have hapart' : ∀ part ∈ parts.head?, part.isCapture = false := fun part hmem =>
        (List.IsChain.rel_head? hapart hmem).resolve_left (by simp [Part.isCapture])
      rw [rawPiecesOf, readPieces_braced, hfirst, if_neg Bool.false_ne_true,
        readCapture_name hpart hnew]
      show (readPieces (name :: names) true (rawPiecesOf _ parts)).map _ = _
      rw [ih hparts hapart.tail (List.perm_middle.symm.nodup hnames) (fun _ => hapart')]
      simp [Except.map, piecesOf, namesOfParts, Part.names]

/-! ### Segments -/

theorem piecesOf_eq_nil : piecesOf parts = [] ↔ parts = [] := by
  cases parts with
  | nil => simp [piecesOf]
  | cons part parts =>
    cases part with
    | char c =>
      rw [piecesOf]
      rcases Piece.cons_eq c (piecesOf parts) with ⟨t, rest, -, hcons⟩ | hcons <;> simp [hcons]
    | _ => simp [piecesOf]

/-- A lone capture among pieces is a lone capture among parts. -/
theorem piecesOf_eq_capture {name : List Char} {constraint : Option (List Char)}
    (h : piecesOf parts = [.capture name constraint]) : parts = [.capture name] := by
  cases parts with
  | nil => simp [piecesOf] at h
  | cons part parts =>
    cases part with
    | char c =>
      rw [piecesOf] at h
      rcases Piece.cons_eq c (piecesOf parts) with ⟨t, rest, -, hcons⟩ | hcons <;> simp [hcons] at h
    | capture name' =>
      rw [piecesOf, List.cons.injEq, Piece.capture.injEq, piecesOf_eq_nil] at h
      rw [h.1.1, h.2]
    | _ => simp [piecesOf] at h

theorem captureNames_piecesOf (parts : List Part) :
    captureNames (piecesOf parts) = namesOfParts parts := by
  induction parts with
  | nil => rfl
  | cons part parts ih =>
    have hnames : namesOfParts (part :: parts) = part.names ++ namesOfParts parts :=
      List.flatMap_cons
    rw [hnames, ← ih]
    cases part with
    | char c =>
      rw [piecesOf]
      rcases Piece.cons_eq c (piecesOf parts) with ⟨t, rest, heq, hcons⟩ | hcons
      · rw [hcons, heq, captureNames_cons, captureNames_cons]
        rfl
      · rw [hcons, captureNames_cons]
        rfl
    | _ => exact captureNames_cons _ _

/-- **A mixed segment is refused for its size only.** -/
theorem readMixed_piecesOf (o : PatternOptions) (position : Nat) (segment : List Char)
    (parts : List Part) : readMixed o position segment (piecesOf parts)
      = if (mixedExpr (!o.caseSensitive) parts).fits then
          .ok (.mixed segment (piecesOf parts)
            ⟨mixedSource (piecesOf parts), mixedExpr (!o.caseSensitive) parts⟩)
        else .error (.malformedConstraint, position) := by
  obtain ⟨item, hread, hexpr⟩ := read?_mixedSource (!o.caseSensitive) parts
  have hparse : parse? (baseFlags !o.caseSensitive) (mixedSource (piecesOf parts))
      = if (mixedExpr (!o.caseSensitive) parts).fits then
          some (mixedExpr (!o.caseSensitive) parts) else none := by
    rw [parse?, hread]
    show (if item.expr.fits then some item.expr else none) = _
    rw [hexpr]
  have hgroups : (Regex.mk (mixedSource (piecesOf parts))
      (mixedExpr (!o.caseSensitive) parts)).groupCount = (captureNames (piecesOf parts)).length := by
    rw [captureNames_piecesOf]
    exact groupCount_mixedExpr _ parts
  split
  · next hfits =>
    have hcompile : compileAt o position (mixedSource (piecesOf parts)) = .ok
        ⟨mixedSource (piecesOf parts), mixedExpr (!o.caseSensitive) parts⟩ := by
      rw [compileAt, Regex.compile?, hparse, if_pos hfits]
      rfl
    rw [readMixed, hcompile]
    show (if _ ≠ _ then _ else _) = _
    rw [if_neg (not_not_intro hgroups)]
    rfl
  · next hfits =>
    have hcompile : compileAt o position (mixedSource (piecesOf parts))
        = .error (.malformedConstraint, position) := by
      rw [compileAt, Regex.compile?, hparse, if_neg hfits]
      rfl
    rw [readMixed, hcompile]
    rfl

/-- Parts that need a regular expression hold a brace or a `*`. -/
theorem isMixing_iff (h : ∀ part ∈ parts, part.IsProper separator) :
    parts.any Part.isMixing = true ↔ '{' ∈ textOf parts ∨ '*' ∈ textOf parts := by
  constructor
  · intro hmixing
    obtain ⟨part, hpart, hmix⟩ := List.any_eq_true.mp hmixing
    cases part with
    | star => exact .inr (List.mem_flatMap.mpr ⟨_, hpart, List.mem_singleton_self _⟩)
    | capture name => exact .inl (List.mem_flatMap.mpr ⟨_, hpart, List.mem_cons_self⟩)
    | _ => simp [Part.isMixing] at hmix
  · intro hmem
    by_contra hnot
    have hplain : ∀ part ∈ parts, '{' ∉ part.text ∧ '*' ∉ part.text := by
      intro part hpart
      have hmix : part.isMixing = false := by
        by_contra htrue
        exact hnot (List.any_eq_true.mpr ⟨part, hpart, by simpa using htrue⟩)
      have hproper := h part hpart
      cases part with
      | char c =>
        simp only [Part.IsProper, List.mem_cons, not_or] at hproper
        exact ⟨by simpa [Part.text] using Ne.symm hproper.1.1,
          by simpa [Part.text] using Ne.symm hproper.1.2.2.1⟩
      | question => simp [Part.text]
      | _ => simp [Part.isMixing] at hmix
    rcases hmem with hmem | hmem
    · exact notMem_textOf (fun part hpart => (hplain part hpart).1) hmem
    · exact notMem_textOf (fun part hpart => (hplain part hpart).2) hmem

/-- Without an expression a `?` in the text is one of the parts. -/
theorem question_mem_textOf (h : ∀ part ∈ parts, part.IsProper separator)
    (hmixing : ¬parts.any Part.isMixing = true) : '?' ∈ textOf parts ↔ .question ∈ parts := by
  constructor
  · intro hmem
    obtain ⟨part, hpart, hc⟩ := List.mem_flatMap.mp hmem
    have hproper := h part hpart
    cases part with
    | char c =>
      obtain rfl : '?' = c := by simpa [Part.text] using hc
      simp [Part.IsProper] at hproper
    | question => exact hpart
    | star => exact absurd (List.any_eq_true.mpr ⟨_, hpart, rfl⟩) hmixing
    | capture name => exact absurd (List.any_eq_true.mpr ⟨_, hpart, rfl⟩) hmixing
  · exact fun hmem => List.mem_flatMap.mpr ⟨_, hmem, List.mem_singleton_self _⟩

/-- What a segment is, unless it is `*`, `**` or a lone capture. -/
theorem segmentKind_eq (hstar : parts ≠ [.star]) (hsegments : parts ≠ [.star, .star])
    (hcapture : ∀ name, parts ≠ [.capture name]) : segmentKind o parts
      = if parts.any Part.isMixing then
          .mixed (textOf parts) (piecesOf parts)
            ⟨mixedSource (piecesOf parts), mixedExpr (!o.caseSensitive) parts⟩
        else if parts.contains .question then .singleChars (textOf parts) o.caseSensitive
        else .literal (textOf parts) o.caseSensitive := by
  unfold segmentKind
  split
  · exact absurd rfl hstar
  · exact absurd rfl hsegments
  · next name => exact absurd rfl (hcapture name)
  · rfl

/-- The pieces of a segment with `*` or captures are what the segment is, or are refused for their
size. -/
theorem kindOfPieces_piecesOf (hstar : parts ≠ [.star]) (hsegments : parts ≠ [.star, .star])
    (hmixing : parts.any Part.isMixing = true) :
    kindOfPieces o position (textOf parts) (piecesOf parts)
      = if (segmentKind o parts).fits then .ok (segmentKind o parts)
        else .error (.malformedConstraint, position) := by
  by_cases hcapture : ∃ name, parts = [.capture name]
  · obtain ⟨name, rfl⟩ := hcapture
    rfl
  · rw [not_exists] at hcapture
    have hmixed : kindOfPieces o position (textOf parts) (piecesOf parts)
        = readMixed o position (textOf parts) (piecesOf parts) := by
      rw [kindOfPieces]
      · exact fun name heq => hcapture name (piecesOf_eq_capture heq)
      · exact fun name constraint heq => hcapture name (piecesOf_eq_capture heq)
    rw [hmixed, readMixed_piecesOf, segmentKind_eq hstar hsegments hcapture, if_pos hmixing]
    rfl

/-- The result of reading a segment, which only its size can forbid. -/
def readAs (kind : ElementKind) (names : List (List Char)) (position : Nat) :
    Except (PatternCause × Nat) (ElementKind × List (List Char)) :=
  if kind.fits then .ok (kind, names) else .error (.malformedConstraint, position)

/-- **A segment is read as it was written**, or refused for its size. -/
theorem readSegment_textOf (h : IsSegment separator parts) (hsegments : parts ≠ [.star, .star])
    (hfresh : (namesOfParts parts ++ names).Nodup) (position : Nat) :
    readSegment o names position (textOf parts)
      = readAs (segmentKind o parts) ((namesOfParts parts).reverse ++ names) position := by
  by_cases hstar : parts = [.star]
  · subst hstar
    rfl
  have hcontains : (!(textOf parts).contains '{' && !(textOf parts).contains '*') = true ↔
      ¬parts.any Part.isMixing = true := by
    rw [isMixing_iff h.proper]
    simp
  rw [readSegment_eq, if_neg (mt (textOf_eq_star h.proper).mp hstar)]
  by_cases hmixing : parts.any Part.isMixing = true
  · rw [if_neg (mt hcontains.mp (not_not_intro hmixing)),
      rawPieces_textOf h.proper (Nat.le_refl _),
      readPieces_rawPiecesOf h.proper h.apart hfresh (by simp)]
    show (kindOfPieces o position (textOf parts) (piecesOf parts)).map _ = _
    rw [kindOfPieces_piecesOf hstar hsegments hmixing, readAs]
    split <;> rfl
  · have hcapture : ∀ name, parts ≠ [.capture name] := by
      rintro name rfl
      simp [Part.isMixing] at hmixing
    have hnames : namesOfParts parts = [] := by
      refine List.flatMap_eq_nil_iff.mpr fun part hpart => ?_
      cases part with
      | capture name => exact absurd (List.any_eq_true.mpr ⟨_, hpart, rfl⟩) hmixing
      | _ => rfl
    have hquestion : (textOf parts).contains '?' = parts.contains .question := by
      rw [Bool.eq_iff_iff, List.contains_iff_mem, List.contains_iff_mem,
        question_mem_textOf h.proper hmixing]
    rw [if_pos (hcontains.mpr hmixing), segmentKind_eq hstar hsegments hcapture, if_neg hmixing,
      hnames, hquestion]
    split <;> rfl

end PathRouting
