import PathRouting.Proofs.Pattern.Accept
import PathRouting.Proofs.Pattern.CaseRoom
import PathRouting.Proofs.Pattern.Match
import PathRouting.Proofs.Pattern.Spelling
import PathRouting.Proofs.Pattern.Splits
import PathRouting.Proofs.Regex.Folding

/-!
# Wildcards added to literal text

A segment of literal text matches more when one of its characters becomes a `?`, or when a `*` comes
after it.  Where case is disregarded that has exceptions.  Literal text is compared as a whole in
lowercase, text with `?` character by character in lowercase, and a mixed segment character by
character by folding.  Only the dotted `İ` has a lowercase form of two characters, and only a few
capitals do not fold to their lowercase forms.  Besides, the expression of a mixed segment may be too
large.

## Main definitions

* `DottedAlike` — whether two texts have `İ` at the same places.
* `StartsAs` — whether a text starts with characters that a pattern text stands for.

## Main results

* `parse_segment`, `isMatch_segment` — a pattern of one segment, and the paths of one segment that it
  matches.
* `forall₂_lowercase_iff` — texts of the same lowercase form that agree character by character.
* `isMatch_widened` — what literal text matches with a wildcard added to it.
-/

namespace PathRouting

open Regex Text

variable {o : PatternOptions} {text before after v : List Char} {parts : List Part} {p : Pattern}
  {path : Path} {s : Segment}

/-! ### Patterns of one segment -/

/-- The text of parts that make a segment is a pattern when its expression fits. -/
theorem parse_segment (hvalid : o.validate = .ok o) (h : IsSegment o.separator parts)
    (hnames : (namesOfParts parts).Nodup) (hfits : (segmentKind o parts).fits = true) :
    ∃ p, Pattern.parse o (textOf parts) = .ok p ∧ p.kinds = [segmentKind o parts] := by
  have hwritten : IsWritten o.separator [.segment parts] :=
    ⟨by simpa [Block.IsProper] using h, .singleton _, by simp, by simpa [Block.names] using hnames⟩
  obtain ⟨ch, hch, hkinds⟩ := Chain.placeAll_blocks (o := o) hwritten.ready
    (by simpa [Block.kind] using hfits) (by simp [Chain.EndsWithSeparator]) 0
  have htext : Block.textOf o.separator [.segment parts] = textOf parts := by
    simp [Block.textOf, Block.run, Run.raw]
  refine ⟨_, htext ▸ parse_of_placeAll (tokens_textOf hvalid hwritten) hch, ?_⟩
  rw [Pattern.kinds, List.map_reverse, hkinds]
  simp [Block.chain, Block.absorb, Block.kind]

/-- It is refused when its expression does not fit. -/
theorem parse_segment_error (hvalid : o.validate = .ok o) (h : IsSegment o.separator parts)
    (hnames : (namesOfParts parts).Nodup) (hfits : (segmentKind o parts).fits = false) :
    Pattern.parse o (textOf parts) = .error ⟨textOf parts, 0, .malformedConstraint⟩ := by
  have hwritten : IsWritten o.separator [.segment parts] :=
    ⟨by simpa [Block.IsProper] using h, .singleton _, by simp, by simpa [Block.names] using hnames⟩
  have htext : Block.textOf o.separator [.segment parts] = textOf parts := by
    simp [Block.textOf, Block.run, Run.raw]
  have hready : Chain.Ready o ⟨[], []⟩ ([] ++ .segment parts :: []) := hwritten.ready
  exact htext ▸ parse_error_of_placeAll (tokens_textOf hvalid hwritten)
    (Chain.placeAll_blocks_error hready (by simp) hfits 0)

/-- Paths of one segment are matched by what the only element takes. -/
theorem isMatch_segment {k : ElementKind} (h : Pattern.parse o text = .ok p)
    (hkinds : p.kinds = [k]) (htakes : k.takes = true) (hpath : path.elements = [.segment s]) :
    p.isMatch path = ((p.query path false false).take? s k).isSome := by
  obtain ⟨e, helements, rfl⟩ : ∃ e, p.elements = [e] ∧ e.kind = k := by
    simpa [Pattern.kinds, List.map_eq_singleton_iff] using hkinds
  have hsegment : (p.query path false false).segment? 0 = some s := by
    simp [Query.segment?, Pattern.query, hpath, PathElement.segment?]
  have hfinish (afterSegment : Bool) :
      (p.query path false false).finish 1 afterSegment = some ⟨[], none⟩ :=
    (Query.finish_whole rfl).mpr ⟨.inl (by simp [Path.length, hpath]), rfl⟩
  rw [isMatch_eq_search h (by simp [helements]) (by simp [hpath]) false, helements,
    search_takes htakes, hsegment, Option.bind_some, search_nil, hfinish]
  cases (p.query path false false).take? s e.kind <;> rfl

/-! ### Literal text and one more wildcard -/

theorem textOf_chars (s : List Char) : textOf (s.map .char) = s := by
  induction s with
  | nil => rfl
  | cons c s ih => rw [List.map_cons, textOf_cons, ih]; rfl

theorem textOf_append (parts parts' : List Part) :
    textOf (parts ++ parts') = textOf parts ++ textOf parts' := List.flatMap_append

/-- Parts that are no captures make a segment. -/
theorem isSegment_of_forall {separator : Char} (hne : parts ≠ [])
    (h : ∀ part ∈ parts, part.IsProper separator ∧ part.isCapture = false) :
    IsSegment separator parts :=
  ⟨hne, fun part hpart => (h part hpart).1,
    (List.pairwise_of_forall_mem_list fun part hpart _ _ => .inl (h part hpart).2).isChain⟩

theorem namesOfParts_of_forall (h : ∀ part ∈ parts, part.isCapture = false) :
    namesOfParts parts = [] := by
  refine List.flatMap_eq_nil_iff.mpr fun part hpart => ?_
  have hcapture := h part hpart
  cases part <;> first | rfl | simp [Part.isCapture] at hcapture

/-- A text with a `?` is compared character by character. -/
theorem charsMatch_iff {caseSensitive : Bool} :
    charsMatch caseSensitive text v = true ↔
      List.Forall₂ (fun a b => charMatches caseSensitive a b = true) text v := by
  induction text generalizing v with
  | nil => cases v <;> simp [charsMatch]
  | cons a text ih => cases v <;> simp [charsMatch, ih]

/-! ### Lowercase character by character -/

/-- Whether two texts have the dotted `İ` at the same places. -/
def DottedAlike (s t : List Char) : Prop := ∀ i : Nat, s[i]? = some 'İ' ↔ t[i]? = some 'İ'

theorem dottedAlike_cons {a b : Char} {s t : List Char} :
    DottedAlike (a :: s) (b :: t) ↔ (a = 'İ' ↔ b = 'İ') ∧ DottedAlike s t := by
  constructor
  · intro h
    exact ⟨by simpa using h 0, fun i => by simpa using h (i + 1)⟩
  · rintro ⟨hfirst, hrest⟩ i
    cases i with
    | zero => simpa using hfirst
    | succ i => simpa using hrest i

theorem lowercase_ne_nil (c : Char) : lowercase c ≠ [] := by
  rw [lowercase]
  split <;> simp

/-- The dotted `İ` has a lowercase form of its own. -/
theorem eq_dotted_iff {a b : Char} (h : lowercase a = lowercase b) : a = 'İ' ↔ b = 'İ' := by
  have hlength (c : Char) : (lowercase c).length = 2 ↔ c = 'İ' := by
    rw [lowercase]
    split <;> simp [*]
  rw [← hlength, h, hlength]

/-- Characters of the same lowercase form have texts of the same lowercase form. -/
theorem lowercaseAll_of_forall₂ {s t : List Char}
    (h : List.Forall₂ (fun a b => lowercase a = lowercase b) s t) :
    lowercaseAll s = lowercaseAll t := by
  induction h with
  | nil => rfl
  | cons hab _ ih => rw [lowercaseAll_cons, lowercaseAll_cons, hab, ih]

/-- **Texts of the same lowercase form agree character by character** when they have `İ` at the same
places. -/
theorem forall₂_lowercase_iff {s t : List Char} (h : lowercaseAll s = lowercaseAll t) :
    List.Forall₂ (fun a b => lowercase a = lowercase b) s t ↔ DottedAlike s t := by
  constructor
  · intro hall
    clear h
    induction hall with
    | nil => exact fun _ => Iff.rfl
    | cons hab _ ih => exact dottedAlike_cons.mpr ⟨eq_dotted_iff hab, ih⟩
  · intro hdotted
    induction s generalizing t with
    | nil =>
      cases t with
      | nil => exact .nil
      | cons b t => simp [lowercase_ne_nil] at h
    | cons a s ih =>
      cases t with
      | nil => simp [lowercase_ne_nil] at h
      | cons b t =>
        obtain ⟨hfirst, hrest⟩ := dottedAlike_cons.mp hdotted
        have hlength : (lowercase a).length = (lowercase b).length := by
          rw [lowercase, lowercase]
          split <;> split <;> simp_all
        obtain ⟨hab, hst⟩ := List.append_inj h hlength
        exact .cons hab (ih hst hrest)

theorem charMatches_false {a b : Char} (ha : a ≠ '?') :
    charMatches false a b = true ↔ lowercase a = lowercase b := by
  simp only [charMatches, Bool.or_eq_true, beq_iff_eq, ha, false_or, Bool.not_false, Bool.true_and]
  exact ⟨fun h => h.elim (congrArg lowercase) id, .inr⟩

/-- Text without `?` agrees character by character in lowercase. -/
theorem forall₂_charMatches (hplain : IsPlainText text) :
    List.Forall₂ (fun a b => charMatches false a b = true) text v ↔
      List.Forall₂ (fun a b => lowercase a = lowercase b) text v := by
  induction text generalizing v with
  | nil => simp
  | cons a text ih =>
    obtain ⟨ha, htext⟩ := List.forall_mem_cons.mp hplain
    have hne : a ≠ '?' := by rintro rfl; simp at ha
    simp only [List.forall₂_cons_left_iff, charMatches_false hne, ih htext]

/-- Where texts have the same lowercase form, a `?` in place of a character costs nothing but that
the other characters have to agree one by one. -/
theorem forall₂_question {c : Char} (hplain : IsPlainText (before ++ c :: after))
    (hlower : lowercaseAll (before ++ c :: after) = lowercaseAll v) :
    List.Forall₂ (fun a b => charMatches false a b = true) (before ++ '?' :: after) v ↔
      List.Forall₂ (fun a b => lowercase a = lowercase b) (before ++ c :: after) v := by
  induction before generalizing v with
  | nil =>
    have hafter : IsPlainText after := fun a ha => hplain a (by simp [ha])
    simp only [List.nil_append, List.forall₂_cons_left_iff, forall₂_charMatches hafter]
    constructor
    · rintro ⟨d, back, -, hback, rfl⟩
      rw [List.nil_append, lowercaseAll_cons, lowercaseAll_cons, lowercaseAll_of_forall₂ hback,
        List.append_cancel_right_eq] at hlower
      exact ⟨d, back, hlower, hback, rfl⟩
    · rintro ⟨d, back, -, hback, rfl⟩
      exact ⟨d, back, rfl, hback, rfl⟩
  | cons a before ih =>
    obtain ⟨ha, hrest⟩ := List.forall_mem_cons.mp hplain
    have hne : a ≠ '?' := by rintro rfl; simp at ha
    have hcancel {b : Char} {back : List Char} (hab : lowercase a = lowercase b)
        (hv : v = b :: back) :
        lowercaseAll (before ++ c :: after) = lowercaseAll back := by
      rwa [hv, List.cons_append, lowercaseAll_cons, lowercaseAll_cons, hab,
        List.append_cancel_left_eq] at hlower
    simp only [List.cons_append, List.forall₂_cons_left_iff, charMatches_false hne]
    constructor
    · rintro ⟨b, back, hab, hback, hv⟩
      exact ⟨b, back, hab, (ih hrest (hcancel hab hv)).mp hback, hv⟩
    · rintro ⟨b, back, hab, hback, hv⟩
      exact ⟨b, back, hab, (ih hrest (hcancel hab hv)).mpr hback, hv⟩

/-- A text is its own with a `?` in place of any character. -/
theorem forall₂_question_self (before after : List Char) (c : Char) :
    List.Forall₂ (fun a b => charMatches true a b = true) (before ++ '?' :: after)
      (before ++ c :: after) := by
  have hself (a : Char) : charMatches true a a = true := by simp [charMatches]
  induction before with
  | nil => exact .cons (by simp [charMatches]) (List.forall₂_same.mpr fun a _ => hself a)
  | cons a before ih => exact .cons (hself a) ih

/-- **A `?` in place of a character matches what the character did**, in lowercase only where `İ`
stands at the same places. -/
theorem charsMatch_question {caseSensitive : Bool} {c : Char}
    (hplain : IsPlainText (before ++ c :: after))
    (hmatch : textMatches caseSensitive (before ++ c :: after) v = true) :
    charsMatch caseSensitive (before ++ '?' :: after) v = true ↔
      caseSensitive = true ∨ DottedAlike (before ++ c :: after) v := by
  rw [charsMatch_iff]
  cases caseSensitive with
  | true =>
    obtain rfl : before ++ c :: after = v := by simpa [textMatches] using hmatch
    simpa using forall₂_question_self before after c
  | false =>
    have hlower : lowercaseAll (before ++ c :: after) = lowercaseAll v := by
      simpa [textMatches] using hmatch
    rw [forall₂_question hplain hlower, forall₂_lowercase_iff hlower]
    simp

/-! ### Folding character by character -/

/-- Whether a text starts with characters that those of a pattern text stand for. -/
def StartsAs (ignoreCase : Bool) (text v : List Char) : Prop :=
  ∃ front back, List.Forall₂ (fun a b => (variants ignoreCase a).contains b = true) text front ∧
    v = front ++ back

/-- Literal text before a `*` matches what starts as it. -/
theorem splits_chars_star {ignoreCase : Bool} :
    Splits ignoreCase (text.map .char ++ [.star]) v ↔ StartsAs ignoreCase text v := by
  simp [splits_chars, splits_cons, splits_nil, Part.Takes, StartsAs]

theorem startsAs_self (ignoreCase : Bool) (text : List Char) : StartsAs ignoreCase text text :=
  ⟨text, [], List.forall₂_same.mpr fun a _ => contains_variants_self ignoreCase a,
    (List.append_nil text).symm⟩

/-- Texts of the same lowercase form agree by folding too, if all of their characters fold to what
their lowercase forms fold to. -/
theorem startsAs_of_lowercase (hfolds : ∀ c ∈ text ++ v, foldsLowercase c = true)
    (h : List.Forall₂ (fun a b => lowercase a = lowercase b) text v) : StartsAs true text v := by
  refine ⟨v, [], ?_, (List.append_nil v).symm⟩
  induction h with
  | nil => exact .nil
  | cons hab hrest ih =>
    rename_i a b text v
    have ha := hfolds a (by simp)
    have hb := hfolds b (by simp)
    refine .cons ?_ (ih fun c hc => hfolds c ?_)
    · exact CharSet.contains_caseless_of_fold (CharSet.contains_exactly.mpr rfl)
        (fold_eq_of_lowercase ha hb hab)
    · rcases List.mem_append.mp hc with hc | hc <;> simp [hc]

/-- Without capitals that do not fold to their lowercase forms, texts of the same lowercase form
agree in both ways. -/
theorem alike_of_foldsLowercase (hfolds : ∀ c ∈ text ++ v, foldsLowercase c = true)
    (h : lowercaseAll text = lowercaseAll v) : DottedAlike text v ∧ StartsAs true text v := by
  have hdotted : 'İ' ∉ text ++ v := fun hmem => absurd (hfolds _ hmem) (by decide)
  rw [List.mem_append, not_or] at hdotted
  have halike : DottedAlike text v := fun i =>
    iff_of_false (fun h => hdotted.1 (List.mem_of_getElem? h))
      (fun h => hdotted.2 (List.mem_of_getElem? h))
  exact ⟨halike, startsAs_of_lowercase hfolds ((forall₂_lowercase_iff h).mpr halike)⟩

/-! ### Widening -/

section Widening

variable (hvalid : o.validate = .ok o) (hplain : IsPlainText text) (hsep : o.separator ∉ text)
  (hpath : path.elements = [.segment s])

include hplain hsep

/-- The characters of a text may stand in a segment. -/
theorem isProper_chars : ∀ part ∈ text.map Part.char,
    part.IsProper o.separator ∧ part.isCapture = false := by
  simp only [List.forall_mem_map]
  exact fun c hc => ⟨⟨hplain c hc, fun heq => hsep (heq ▸ hc)⟩, rfl⟩

include hvalid

/-- Literal text is a pattern that is compared as a whole. -/
theorem exists_parse_literal (hne : text ≠ []) : ∃ p, Pattern.parse o text = .ok p ∧
    p.kinds = [.literal text o.caseSensitive] := by
  have hparts := isProper_chars (o := o) hplain hsep
  have hkind : segmentKind o (text.map .char) = .literal text o.caseSensitive := by
    rw [segmentKind_eq, if_neg, if_neg, textOf_chars]
    · simp
    · simp [Part.isMixing]
    all_goals simp [List.map_eq_cons_iff]
  obtain ⟨p, hp, hkinds⟩ := parse_segment hvalid (isSegment_of_forall (by simpa using hne) hparts)
    (by simp [namesOfParts_of_forall fun part h => (hparts part h).2]) (by rw [hkind]; rfl)
  exact ⟨p, textOf_chars text ▸ hp, hkind ▸ hkinds⟩

/-- Literal text with a `?` in it is a pattern that is compared character by character. -/
theorem exists_parse_question {c : Char} (htext : text = before ++ c :: after) :
    ∃ p, Pattern.parse o (before ++ '?' :: after) = .ok p ∧
      p.kinds = [.singleChars (before ++ '?' :: after) o.caseSensitive] := by
  subst htext
  let parts : List Part := before.map .char ++ .question :: after.map .char
  have hchars := isProper_chars (o := o) hplain hsep
  have hparts : ∀ part ∈ parts, part.IsProper o.separator ∧ part.isCapture = false := by
    intro part hpart
    rcases List.mem_append.mp hpart with hpart | hpart
    · exact hchars part (by simp [List.mem_map.mp hpart])
    · rcases List.mem_cons.mp hpart with rfl | hpart
      · exact ⟨trivial, rfl⟩
      · exact hchars part (by simp [List.mem_map.mp hpart])
  have htext : textOf parts = before ++ '?' :: after := by
    rw [textOf_append, textOf_chars, textOf_cons, textOf_chars]
    rfl
  have hkind : segmentKind o parts = .singleChars (before ++ '?' :: after) o.caseSensitive := by
    rw [segmentKind_eq, if_neg, if_pos, htext]
    · simp [parts]
    · simp [parts, Part.isMixing]
    all_goals cases before <;> simp [parts]
  obtain ⟨p, hp, hkinds⟩ := parse_segment hvalid (isSegment_of_forall (by simp [parts]) hparts)
    (by simp [namesOfParts_of_forall fun part h => (hparts part h).2]) (by rw [hkind]; rfl)
  exact ⟨p, htext ▸ hp, hkind ▸ hkinds⟩

/-- Literal text before a `*` is a pattern when its expression fits, and it matches what starts as
it. -/
theorem parse_star (hne : text ≠ []) :
    ((mixedExpr (!o.caseSensitive) (text.map .char ++ [.star])).fits = true ↔
      ∃ p, Pattern.parse o (text ++ ['*']) = .ok p) ∧
    ∀ p, Pattern.parse o (text ++ ['*']) = .ok p →
      ∃ re, re.expr = mixedExpr (!o.caseSensitive) (text.map .char ++ [.star]) ∧
        p.kinds = [.mixed (text ++ ['*']) (piecesOf (text.map .char ++ [.star])) re] := by
  let parts : List Part := text.map .char ++ [.star]
  have hchars := isProper_chars (o := o) hplain hsep
  have hparts : ∀ part ∈ parts, part.IsProper o.separator ∧ part.isCapture = false := by
    intro part hpart
    rcases List.mem_append.mp hpart with hpart | hpart
    · exact hchars part hpart
    · rw [List.mem_singleton.mp hpart]
      exact ⟨trivial, rfl⟩
  have htext : textOf parts = text ++ ['*'] := by
    rw [textOf_append, textOf_chars]
    rfl
  have hkind : segmentKind o parts = .mixed (text ++ ['*']) (piecesOf parts)
      ⟨mixedSource (piecesOf parts), mixedExpr (!o.caseSensitive) parts⟩ := by
    rw [segmentKind_eq, if_pos, htext]
    · simp [parts, Part.isMixing]
    all_goals obtain ⟨c, text, rfl⟩ := List.exists_cons_of_ne_nil hne; simp [parts]
  have hsegment := isSegment_of_forall (by simp [parts]) hparts
  have hnames : (namesOfParts parts).Nodup := by
    simp [namesOfParts_of_forall fun part h => (hparts part h).2]
  cases hfits : (mixedExpr (!o.caseSensitive) parts).fits with
  | true =>
    obtain ⟨p, hp, hkinds⟩ := parse_segment hvalid hsegment hnames (by rw [hkind]; exact hfits)
    rw [htext] at hp
    refine ⟨by simp [hp], fun p' hp' => ?_⟩
    obtain rfl : p = p' := Except.ok.inj (hp.symm.trans hp')
    exact ⟨_, rfl, hkind ▸ hkinds⟩
  | false =>
    have herror := parse_segment_error hvalid hsegment hnames (by rw [hkind]; exact hfits)
    rw [htext] at herror
    simp [herror]

/-- **What literal text matches with a wildcard added to it.**  When the text matches a segment, it
still does so with a `?` in place of one of its characters, unless case is disregarded and `İ` does
not stand at the same places of both; and with a `*` after it, if its expression fits, unless case is
disregarded and the segment does not start as the text by folding.  Both exceptions need a capital
that does not fold to its lowercase form. -/
theorem isMatch_widened (hne : text ≠ []) (hpath : path.elements = [.segment s]) :
    ((mixedExpr (!o.caseSensitive) (text.map .char ++ [.star])).fits = true ↔
      ∃ q, Pattern.parse o (text ++ ['*']) = .ok q) ∧
    ∃ p, Pattern.parse o text = .ok p ∧ (p.isMatch path = true →
      (∀ before c after, text = before ++ c :: after →
        ∃ q, Pattern.parse o (before ++ '?' :: after) = .ok q ∧
          (q.isMatch path = true ↔ o.caseSensitive = true ∨ DottedAlike text s.value)) ∧
      (∀ q, Pattern.parse o (text ++ ['*']) = .ok q →
        (q.isMatch path = true ↔ o.caseSensitive = true ∨ StartsAs true text s.value)) ∧
      ((∀ c ∈ text ++ s.value, foldsLowercase c = true) →
        DottedAlike text s.value ∧ StartsAs true text s.value)) := by
  obtain ⟨hfits, hstar⟩ := parse_star hvalid hplain hsep hne
  obtain ⟨p, hp, hkinds⟩ := exists_parse_literal hvalid hplain hsep hne
  refine ⟨hfits, p, hp, fun hmatch => ?_⟩
  have htext : textMatches o.caseSensitive text s.value = true := by
    rw [isMatch_segment hp hkinds rfl hpath, Query.take?] at hmatch
    simpa using hmatch
  refine ⟨fun before c after heq => ?_, fun q hq => ?_, fun hfolds => ?_⟩
  · obtain ⟨q, hq, hquestion⟩ := exists_parse_question hvalid hplain hsep heq
    subst heq
    refine ⟨q, hq, ?_⟩
    rw [isMatch_segment hq hquestion rfl hpath, Query.take?, ← charsMatch_question hplain htext]
    simp
  · obtain ⟨re, hre, hregex⟩ := hstar q hq
    have hmixed : q.isMatch path = re.isMatch s.value := by
      rw [isMatch_segment hq hregex rfl hpath, Query.take?]
      cases re.isMatch s.value <;> rfl
    rw [hmixed, isMatch_mixedExpr hre, splits_chars_star]
    cases hcase : o.caseSensitive with
    | true =>
      obtain rfl : text = s.value := by simpa [textMatches, hcase] using htext
      simpa using startsAs_self false _
    | false => simp
  · refine alike_of_foldsLowercase hfolds ?_
    cases hcase : o.caseSensitive with
    | true => simp_all [textMatches]
    | false => simpa [textMatches, hcase] using htext

end Widening

/-- Without regard to case `Ab` matches `aB`, and so do `A?` and `Ab*`. -/
theorem isMatch_widened_cased : ∃ o : PatternOptions, o.caseSensitive = false ∧
    ∃ q r path, Pattern.parse o ['A', '?'] = .ok q ∧ Pattern.parse o ['A', 'b', '*'] = .ok r ∧
      Path.parse ['a', 'B'] .http = .ok path ∧ q.isMatch path = true ∧ r.isMatch path = true := by
  let o : PatternOptions := { PatternOptions.default with caseSensitive := false }
  let path : Path := .whole ['a', 'B'] [.segment ⟨0, ['a', 'B'], ['a', 'B'], []⟩] .http
  have hpath : Path.parse ['a', 'B'] .http = .ok path := rfl
  have hsegment : path.elements = [.segment ⟨0, ['a', 'B'], ['a', 'B'], []⟩] := rfl
  have hplain : IsPlainText ['A', 'b'] := by decide
  obtain ⟨hstar, p, hp, hmatch⟩ :=
    isMatch_widened (o := o) rfl hplain (by decide) (by decide) hsegment
  have hp' : Pattern.parse o ['A', 'b'] = .ok _ := rfl
  obtain rfl := Except.ok.inj (hp.symm.trans hp')
  obtain ⟨hquestion, hmixed, hfolds⟩ := hmatch (by decide +kernel)
  obtain ⟨hdotted, hstarts⟩ := hfolds (List.all_eq_true.mp (by decide +kernel))
  obtain ⟨q, hq, hqmatch⟩ := hquestion ['A'] 'b' [] rfl
  obtain ⟨r, hr⟩ := hstar.mp (by decide +kernel)
  exact ⟨o, rfl, q, r, _, hq, hr, hpath, hqmatch.mpr (.inr hdotted),
    (hmixed r hr).mpr (.inr hstarts)⟩

/-- There are texts that have room before a `*` only where case makes a difference. -/
theorem exists_tooLong : ∃ text, IsPlainText text ∧ '/' ∉ text ∧ ':' ∉ text ∧ text ≠ [] ∧
    (mixedExpr false (text.map .char ++ [.star])).fits = true ∧
    (mixedExpr true (text.map .char ++ [.star])).fits = false := by
  have hmem : ∀ c ∈ List.replicate 60000 'k', c = 'k' := fun c hc => List.eq_of_mem_replicate hc
  have hbytes (n : Nat) : byteLength (List.replicate n 'k') = n := by
    induction n with
    | zero => rfl
    | succ n ih =>
      rw [List.replicate_succ, byteLength_cons, ih, Nat.add_comm]
      rfl
  refine ⟨List.replicate 60000 'k', fun c hc => hmem c hc ▸ by decide,
    fun hc => absurd (hmem _ hc) (by decide), fun hc => absurd (hmem _ hc) (by decide),
    List.cons_ne_nil _ _, fits_chars_star (by rw [hbytes]; decide),
    not_fits_chars 236 (fun c hc => ?_) (by rw [List.length_replicate]; decide)⟩
  rw [hmem c hc]
  decide +kernel

/-- Without regard to case `İ` matches `i̇`, an `i` and a dot above it, which neither `?` nor `İ*` does,
and a long text matches itself while there is no room for it with a `*`. -/
theorem not_isMatch_widened : ∃ o : PatternOptions, o.caseSensitive = false ∧
    (∃ p q r path, Pattern.parse o ['İ'] = .ok p ∧ Pattern.parse o ['?'] = .ok q ∧
      Pattern.parse o ['İ', '*'] = .ok r ∧ Path.parse ['i', '\u0307'] .http = .ok path ∧
      p.isMatch path = true ∧ q.isMatch path = false ∧ r.isMatch path = false) ∧
    ∃ text p path, Pattern.parse o text = .ok p ∧
      path.elements = [.segment ⟨0, text, text, []⟩] ∧ p.isMatch path = true ∧
      ¬∃ r, Pattern.parse o (text ++ ['*']) = .ok r := by
  let o : PatternOptions := { PatternOptions.default with caseSensitive := false }
  refine ⟨o, rfl, ?_, ?_⟩
  · let s : Segment := ⟨0, ['i', '\u0307'], ['i', '\u0307'], []⟩
    let path : Path := .whole ['i', '\u0307'] [.segment s] .http
    have hstar : ((Pattern.parse o ['İ', '*']).toOption.any fun r => !r.isMatch path) = true := by
      decide +kernel
    obtain ⟨r, hr, hmatch⟩ := (Option.any_eq_true _ _).mp hstar
    exact ⟨_, _, r, path, rfl, rfl, toOption_eq_some.mp hr, rfl, by decide +kernel,
      by decide +kernel, by simpa using hmatch⟩
  · obtain ⟨text, hplain, hsep, -, hne, -, hlong⟩ := exists_tooLong
    obtain ⟨p, hp, hkinds⟩ := exists_parse_literal (o := o) rfl hplain hsep hne
    let path : Path := .whole text [.segment ⟨0, text, text, []⟩] .http
    have hpath : path.elements = [.segment ⟨0, text, text, []⟩] := rfl
    refine ⟨text, p, path, hp, hpath, ?_, ?_⟩
    · rw [isMatch_segment hp hkinds rfl hpath, Query.take?]
      simp [textMatches]
    · rw [← (parse_star (o := o) rfl hplain hsep hne).1]
      exact Bool.eq_false_iff.mp hlong

end PathRouting
