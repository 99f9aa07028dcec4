import Mathlib.Data.List.TakeWhile
import PathRouting.Pattern.Combine
import PathRouting.Proofs.Path.Split
import PathRouting.Proofs.Pattern.Plain
import PathRouting.Proofs.Pattern.Written
import PathRouting.Proofs.Search.Offset

/-!
# The literal start of a pattern

Up to its first element that is not literal, a pattern with regard to case matches only what is
spelled like it.  So the paths that it matches start with the text of these elements, and a pattern
of literal elements only matches no path but its own text.

This is about values of segments.  They are the text of the path where nothing is decoded and
nothing is cut off.

## Main definitions

* `PathOptions.Keeps` — texts that are read as they stand.
* `Pattern.literalPrefix` — the text of a pattern up to its first element that is not literal.

## Main results

* `flatMap_value_of_parse` — the values of a path that is read as it stands are its text.
* `search_literals` — literal elements match what is spelled like them.
* `literalPrefix_of_matchesText` — a text that a pattern matches starts with the literal start of
  the pattern.
* `eq_of_matchesText` — a literal pattern matches no text but its own.
-/

namespace PathRouting

open Text

/-! ### Paths that are read as they stand -/

/-- Whether the segments of a text are read as they stand: where the options would have something
cut off or decoded, there is nothing to cut off or to decode. -/
structure PathOptions.Keeps (options : PathOptions) (s : List Char) : Prop where
  /-- There are no matrix variables. -/
  matrix : options.parseMatrixVariables = true → ';' ∉ s
  /-- There are no escapes. -/
  escapes : options.decodeSegments = true → '%' ∉ s

section Kept

variable {options : PathOptions} {text raw : List Char} {path : Path}

theorem valueOf_of_keeps (h : options.Keeps raw) (offset : Nat) :
    Segment.valueOf options offset raw = .ok raw := by
  have hpart : Segment.matchPart options raw = raw := by
    rw [Segment.matchPart]
    split
    · next hmatrix => exact (span_of_notMem (h.matrix hmatrix)).1
    · rfl
  rw [Segment.valueOf, hpart]
  split
  · next hdecode => exact Percent.decode_eq_self (h.escapes hdecode) offset
  · rfl

/-- **The values of a path that is read as it stands are its text.** -/
theorem flatMap_value_of_parse (h : Path.parse text options = .ok path)
    (hkeeps : options.Keeps text) : path.elements.flatMap PathElement.value = text := by
  have hsplit := Path.isSplit_of_parse h
  rw [← hsplit.raw]
  apply List.flatMap_congr
  intro e he
  cases e with
  | separator offset c => rfl
  | segment s =>
    have hsubset : ∀ c ∈ s.raw, c ∈ text := by
      intro c hc
      rw [← hsplit.raw]
      exact List.mem_flatMap.mpr ⟨.segment s, he, hc⟩
    have hkept : options.Keeps s.raw :=
      ⟨fun hmatrix hmem => hkeeps.matrix hmatrix (hsubset _ hmem),
        fun hdecode hmem => hkeeps.escapes hdecode (hsubset _ hmem)⟩
    have hvalue := hsplit.value s he
    rw [valueOf_of_keeps hkept] at hvalue
    exact (Except.ok.inj hvalue).symm

/-- The separators of a path are those of the options. -/
theorem value_of_isSeparator (h : Path.parse text options = .ok path) :
    ∀ e ∈ path.elements, e.isSeparator = true → e.value = [options.separator] := by
  intro e he hsep
  cases e with
  | separator offset c =>
    rw [(Path.isSplit_of_parse h).separator offset c he]
    rfl
  | segment s => simp at hsep

end Kept

/-! ### Literal elements -/

variable {o : PatternOptions} {text other : List Char} {p : Pattern}

/-- The text of a pattern up to its first element that is not literal. -/
def Pattern.literalPrefix (p : Pattern) : List Char :=
  (p.elements.takeWhile (·.kind.isLiteral)).flatMap (·.kind.written p.separator)

/-- The elements of a pattern are its text, those that are literal from its start on before all
others. -/
theorem text_eq_of_parse (h : Pattern.parse o text = .ok p) :
    p.literalPrefix
      ++ (p.elements.dropWhile (·.kind.isLiteral)).flatMap (·.kind.written o.separator) = text := by
  rw [Pattern.literalPrefix, separator_of_parse h, ← List.flatMap_append,
    List.takeWhile_append_dropWhile, flatMap_written_of_parse h]

/-- A pattern starts with its literal start. -/
theorem startsWith_literalPrefix (h : Pattern.parse o text = .ok p) : p.literalPrefix <+: text :=
  ⟨_, text_eq_of_parse h⟩

theorem ElementKind.fixed_of_isLiteral {k : ElementKind} (h : k.isLiteral = true) :
    k.fixed = true := by
  cases k <;> first | rfl | simp [isLiteral] at h

section Search

variable {q : Query} {separator : Char}

/-- A literal element matches an element of a path that is spelled like it. -/
theorem exists_value_of_takeAt
    (hsep : ∀ e ∈ q.elements, e.isSeparator = true → e.value = [separator])
    (hcase : o.caseSensitive = true) {k : ElementKind} (hk : k.isLiteral = true)
    (hread : k.ReadWith o) {index : Nat} {bs : List Binding} (h : q.takeAt k index = some bs) :
    ∃ e, q.elements[index]? = some e ∧ e.value = k.written separator := by
  cases k with
  | separator =>
    obtain ⟨hat, -⟩ := Option.ite_none_right_eq_some.mp h
    obtain ⟨e, he, hise⟩ := (Option.any_eq_true _ _).mp hat
    exact ⟨e, he, hsep e (Array.mem_of_getElem? he) hise⟩
  | literal t caseSensitive =>
    obtain rfl : caseSensitive = true := hread.trans hcase
    obtain ⟨s, hs, htake⟩ := Option.bind_eq_some_iff.mp h
    obtain ⟨e, he, hsegment⟩ := Option.bind_eq_some_iff.mp hs
    have htext := (Option.ite_none_right_eq_some.mp htake).1
    simp only [textMatches, if_true, beq_iff_eq] at htext
    cases e with
    | separator position c => simp [PathElement.segment?] at hsegment
    | segment s' =>
      obtain rfl : s' = s := Option.some.inj hsegment
      exact ⟨_, he, htext.symm⟩
  | _ => simp [ElementKind.isLiteral] at hk

/-- **Literal elements match what is spelled like them**, and the elements after them match what is
left. -/
theorem search_literals
    (hsep : ∀ e ∈ q.elements, e.isSeparator = true → e.value = [separator])
    (hcase : o.caseSensitive = true) {lits rest : List PatternElement}
    (hlits : ∀ e ∈ lits, e.kind.isLiteral = true ∧ e.kind.ReadWith o) {index : Nat}
    {afterSegment : Bool} {out : Outcome}
    (h : search q (lits ++ rest) index afterSegment = some out) :
    (∃ afterSegment' out', search q rest (index + lits.length) afterSegment' = some out') ∧
      (q.elements.toList.drop index).flatMap PathElement.value
        = lits.flatMap (·.kind.written separator)
          ++ (q.elements.toList.drop (index + lits.length)).flatMap PathElement.value := by
  induction lits generalizing index afterSegment out with
  | nil => exact ⟨⟨afterSegment, out, h⟩, rfl⟩
  | cons e lits ih =>
    obtain ⟨⟨hliteral, hread⟩, hlits⟩ := List.forall_mem_cons.mp hlits
    rw [List.cons_append, search_fixed (ElementKind.fixed_of_isLiteral hliteral)] at h
    obtain ⟨bs, hbs, h⟩ := Option.bind_eq_some_iff.mp h
    obtain ⟨out', hout', -⟩ := Option.map_eq_some_iff.mp h
    obtain ⟨e', he', hvalue⟩ := exists_value_of_takeAt hsep hcase hliteral hread hbs
    obtain ⟨hrest, hvalues⟩ := ih hlits hout'
    have hindex : index + 1 + lits.length = index + (e :: lits).length := by
      rw [List.length_cons]
      omega
    rw [hindex] at hrest hvalues
    refine ⟨hrest, ?_⟩
    rw [drop_eq_cons_of_getElem? he', List.flatMap_cons, hvalue, hvalues, List.flatMap_cons,
      List.append_assoc]

end Search

/-! ### Matching -/

/-- The elements of a pattern that are literal from its start on are as they were read. -/
theorem literals_of_parse (h : Pattern.parse o text = .ok p) :
    ∀ e ∈ p.elements.takeWhile (·.kind.isLiteral),
      e.kind.isLiteral = true ∧ e.kind.ReadWith o := by
  intro e he
  have hmem : e ∈ p.elements := (List.takeWhile_sublist _).subset he
  have hliteral := List.mem_takeWhile_imp (p := fun e : PatternElement => e.kind.isLiteral) he
  exact ⟨hliteral, readWith_of_parse h _ (List.mem_map_of_mem hmem)⟩

/-- A text that a pattern matches is a path that it matches. -/
theorem exists_path_of_matchesText (h : Pattern.parse o text = .ok p)
    (hmatch : p.matchesText other = true) :
    ∃ path, Path.parse other o.path = .ok path ∧ p.isMatch path = true := by
  rw [Pattern.matchesText, (text_of_parse h).2] at hmatch
  split at hmatch
  · next path hpath => exact ⟨path, hpath, hmatch⟩
  · simp at hmatch

section Text

variable (h : Pattern.parse o text = .ok p) (hcase : o.caseSensitive = true)
  (hkeeps : o.path.Keeps other)
include h hcase hkeeps

/-- A path that is read as it stands and matches is spelled like the literal start of the pattern,
and what is left of it matches the other elements. -/
theorem exists_search_of_literalPrefix {path : Path} (hpath : Path.parse other o.path = .ok path)
    (hne : p.elements ≠ []) (hmatch : p.isMatch path = true) :
    let literals := (p.elements.takeWhile (·.kind.isLiteral)).length
    (∃ afterSegment out, search (p.query path false false)
      (p.elements.dropWhile (·.kind.isLiteral)) literals afterSegment = some out) ∧
      other = p.literalPrefix ++ (path.elements.drop literals).flatMap PathElement.value := by
  intro literals
  obtain ⟨out, hout⟩ := exists_search_of_isMatch h hne hmatch
  have hsep : ∀ e ∈ (p.query path false false).elements, e.isSeparator = true →
      e.value = [o.separator] := by
    intro e he
    exact value_of_isSeparator hpath e (by simpa [Pattern.query] using he)
  rw [← List.takeWhile_append_dropWhile (p := (·.kind.isLiteral)) (l := p.elements)] at hout
  obtain ⟨hrest, hvalues⟩ := search_literals hsep hcase (literals_of_parse h) hout
  simp only [Pattern.query, List.drop_zero, Nat.zero_add] at hvalues
  rw [flatMap_value_of_parse hpath hkeeps] at hvalues
  rw [Nat.zero_add] at hrest
  rw [Pattern.literalPrefix, separator_of_parse h]
  exact ⟨hrest, hvalues⟩

/-- **A text that a pattern matches starts with the literal start of the pattern.** -/
theorem literalPrefix_of_matchesText (hmatch : p.matchesText other = true) :
    p.literalPrefix <+: other := by
  by_cases hne : p.elements = []
  · rw [Pattern.literalPrefix, hne]
    exact List.nil_prefix
  · obtain ⟨path, hpath, hmatch⟩ := exists_path_of_matchesText h hmatch
    obtain ⟨-, hother⟩ := exists_search_of_literalPrefix h hcase hkeeps hpath hne hmatch
    exact ⟨_, hother.symm⟩

/-- **A literal pattern matches no text but its own**, where no separator may follow. -/
theorem eq_of_matchesText (htrailing : o.optionalTrailingSeparator = false)
    (hliteral : ∀ k ∈ p.kinds, k.isLiteral = true) (hmatch : p.matchesText other = true) :
    text = other := by
  obtain ⟨-, hoptions⟩ := text_of_parse h
  obtain ⟨path, hpath, hmatch⟩ := exists_path_of_matchesText h hmatch
  have hall : ∀ e ∈ p.elements, e.kind.isLiteral = true :=
    fun e he => hliteral _ (List.mem_map_of_mem he)
  have hnone : p.elements.dropWhile (·.kind.isLiteral) = [] := List.dropWhile_eq_nil_iff.mpr hall
  have htext := text_eq_of_parse h
  rw [hnone, List.flatMap_nil, List.append_nil] at htext
  -- the path ends where the elements do
  suffices hend : other = p.literalPrefix ++ [] by rw [hend, List.append_nil, htext]
  by_cases hne : p.elements = []
  · have hempty := elements_eq_nil_of_isMatch hne (hoptions ▸ htrailing) hmatch
    rw [← flatMap_value_of_parse hpath hkeeps, hempty, Pattern.literalPrefix, hne]
    rfl
  · obtain ⟨⟨afterSegment, out, hout⟩, hother⟩ :=
      exists_search_of_literalPrefix h hcase hkeeps hpath hne hmatch
    rw [hnone, search_nil] at hout
    obtain ⟨hstop, -⟩ := (Query.finish_whole rfl).mp hout
    have hlength : (p.elements.takeWhile (·.kind.isLiteral)).length = path.elements.length := by
      simpa [Pattern.query, hoptions, htrailing, Query.length] using hstop
    rw [List.drop_of_length_le hlength.ge, List.flatMap_nil] at hother
    exact hother

end Text

end PathRouting
