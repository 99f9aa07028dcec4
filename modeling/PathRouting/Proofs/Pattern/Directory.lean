import PathRouting.Proofs.Pattern.Extension

/-!
# The directory of a combined pattern

The literal start of a pattern is the directory that it is for.  A pattern that is combined with
another one is meant for a part of this directory, and mostly the combined pattern is: it has the
literal start of the first pattern, also where the first pattern makes way, because it matches
nothing that is spelled otherwise.

Where extensions are merged the directory is given up, as in `/docs/*.html` and `/hotel`, which make
`/hotel.html`.

## Main definitions

* `Pattern.LosesSeparator` — whether the `*` of a pattern goes with one of two separators before it.

## Main results

* `star_notMem_literalPrefix` — a literal start has no `*`.
* `startsWith_joinTexts` — texts put together start with the first one.
* `literalPrefix_of_combine` — the directory of the combined pattern.
-/

namespace PathRouting

variable {o : PatternOptions} {a b : List Char} {p q c : Pattern}

namespace Pattern

/-- Whether the `*` of a pattern goes with one of two separators before it, and the other pattern
does not bring two separators along. -/
structure LosesSeparator (p q : Pattern) : Prop where
  /-- It does not make way for the other one. -/
  stays : ¬p.MakesWayFor q
  /-- Only the `*` is not literal. -/
  star : p.text = p.literalPrefix ++ ['*']
  /-- There are two separators before it. -/
  separators : [p.separator, p.separator] <:+ p.literalPrefix
  /-- The other one has no two separators at its start. -/
  other : ¬[p.separator, p.separator] <+: q.text

end Pattern

/-! ### Literal starts -/

/-- Pieces make no literal segment. -/
theorem isLiteral_of_kindOfPieces {position : Nat} {segment : List Char} {pieces : List Piece}
    {k : ElementKind} (h : kindOfPieces o position segment pieces = .ok k) :
    k.isLiteral = false := by
  unfold kindOfPieces at h
  split at h
  · obtain rfl := Except.ok.inj h
    rfl
  · obtain ⟨re, -, rfl⟩ := map_eq_ok.mp h
    rfl
  · obtain ⟨re, rfl⟩ := readMixed_ok h
    rfl

/-- A literal segment has no `*`. -/
theorem ElementKind.FromToken.star_notMem {t : List Char} {caseSensitive : Bool}
    (h : (ElementKind.literal t caseSensitive).FromToken o) : '*' ∉ t := by
  intro hstar
  cases h with
  | @single names names' position segment _ hread =>
    obtain rfl : segment = t := by
      cases segmentRead_of_readSegment hread with
      | literal => rfl
    rw [readSegment_eq, List.contains_iff_mem.mpr hstar, Bool.not_true, Bool.and_false] at hread
    split at hread
    · simp at hread
    · obtain ⟨⟨pieces, names⟩, -, hread⟩ := bind_eq_ok.mp hread
      obtain ⟨k, hk, heq⟩ := map_eq_ok.mp hread
      obtain ⟨rfl, -⟩ := Prod.mk.inj heq
      exact Bool.noConfusion (isLiteral_of_kindOfPieces hk)

/-- A literal start has no `*`. -/
theorem star_notMem_literalPrefix (ho : o.validate = .ok o) (h : Pattern.parse o a = .ok p) :
    '*' ∉ p.literalPrefix := by
  intro hmem
  obtain ⟨-, -, hstar⟩ := separator_ne ho
  obtain ⟨e, he, hmem⟩ := List.mem_flatMap.mp hmem
  rw [separator_of_parse h] at hmem
  obtain ⟨hliteral, -⟩ := literals_of_parse h e he
  have htoken := fromToken_of_parse h e.kind
    (List.mem_map_of_mem ((List.takeWhile_sublist _).subset he))
  cases hkind : e.kind with
  | separator =>
    rw [hkind] at hmem
    exact hstar (List.mem_singleton.mp hmem).symm
  | literal t caseSensitive =>
    rw [hkind] at hmem htoken
    exact htoken.star_notMem hmem
  | _ => simp [hkind, ElementKind.isLiteral] at hliteral

/-! ### Texts put together -/

/-- Texts put together start with the first one. -/
theorem startsWith_joinTexts (separator : Char) (first second : List Char) :
    first <+: joinTexts separator first second := by
  rw [joinTexts_eq]
  by_cases hlast : first.getLast? = some separator
  · obtain ⟨init, rfl⟩ := List.getLast?_eq_some_iff.mp hlast
    rw [withoutLast_concat]
    exact ⟨withoutFirst separator second, by simp⟩
  · rw [withoutLast_of_ne hlast]
    exact List.prefix_append _ _

/-- A text that ends with the separator and a `*`. -/
theorem text_of_endsWithWildcard (h : p.endsWithWildcard = true) :
    p.text = p.text.take (p.text.length - 2) ++ [p.separator] ++ ['*'] := by
  have hdrop := beq_iff_eq.mp h
  conv_lhs => rw [← List.take_append_drop (p.text.length - 2) p.text, hdrop]
  simp

/-! ### Combined patterns -/

section Combined

variable (ho : o.validate = .ok o) (hcase : o.caseSensitive = true)
  (hdecode : o.path.decodeSegments = false) (hmatrix : o.path.parseMatrixVariables = false)
  (hp : Pattern.parse o a = .ok p)
include ho hp

/-- Where the `*` at the end gives way, the literal start stays, unless a separator is lost. -/
theorem literalPrefix_of_endsWithWildcard (hends : p.endsWithWildcard = true)
    (hway : ¬p.MakesWayFor q) (hloses : ¬p.LosesSeparator q) :
    p.literalPrefix <+: joinTexts p.separator (p.text.take (p.text.length - 2)) q.text := by
  have htext := text_of_endsWithWildcard hends
  generalize p.text.take (p.text.length - 2) = init at htext ⊢
  have hstarts := startsWith_literalPrefix hp
  rw [← (text_of_parse hp).1, htext] at hstarts
  rcases List.prefix_concat_iff.mp hstarts with hwhole | hstarts
  -- the `*` is not literal
  · refine absurd ?_ (star_notMem_literalPrefix ho hp)
    rw [hwhole]
    exact List.mem_concat_self
  rcases List.prefix_concat_iff.mp hstarts with hwhole | hstarts
  -- all that stands before the `*` is literal
  · rw [hwhole, joinTexts_eq]
    by_cases hlast : init.getLast? = some p.separator
    · obtain ⟨init, rfl⟩ := List.getLast?_eq_some_iff.mp hlast
      have hother : [p.separator, p.separator] <+: q.text := by
        by_contra hother
        exact hloses ⟨hway, hwhole ▸ htext, ⟨init, by rw [hwhole]; simp⟩, hother⟩
      obtain ⟨rest, hrest⟩ := hother
      rw [← hrest]
      exact ⟨rest, by simp⟩
    · rw [withoutLast_of_ne hlast]
      exact ⟨withoutFirst p.separator q.text, by simp⟩
  · exact hstarts.trans (startsWith_joinTexts _ _ _)

include hcase hdecode hmatrix

/-- Where no extensions are merged and no separator is lost, the literal start of the first pattern
stays. -/
theorem literalPrefix_of_kept (hfirst : p.text ≠ []) (hsecond : q.text ≠ [])
    (hc : p.combine q = .ok c) (hmerges : ¬p.MergesExtension q) (hloses : ¬p.LosesSeparator q) :
    p.literalPrefix <+: c.text := by
  have hcombination := p.combination q
  rw [hc] at hcombination
  generalize hresult : Except.ok c = result at hcombination
  cases hcombination with
  | neither first _ => exact absurd first hfirst
  | second first _ => exact absurd first hfirst
  | first _ second => exact absurd second hsecond
  | makesWay _ _ way =>
    obtain rfl := Except.ok.inj hresult
    have hkeeps : o.path.Keeps c.text :=
      ⟨fun h => absurd h (by simp [hmatrix]), fun h => absurd h (by simp [hdecode])⟩
    exact literalPrefix_of_matchesText hp hcase hkeeps way.2.2
  | wildcard _ _ way ends =>
    rw [Pattern.text_of_reparse hresult.symm]
    exact literalPrefix_of_endsWithWildcard ho hp ends way hloses
  | joined =>
    have hstarts := startsWith_literalPrefix hp
    rw [← (text_of_parse hp).1] at hstarts
    rw [Pattern.text_of_reparse hresult.symm]
    exact hstarts.trans (startsWith_joinTexts _ _ _)
  | clash => cases hresult
  | merged _ _ way ends captures separator star _ =>
    exact absurd ⟨way, ends, captures, separator, _, extensionAfterStar?_eq_some.mp star⟩ hmerges

/-- **A combined pattern is for the directory of the first pattern**, which is its literal start,
unless only its extension is kept: then the combined pattern is the second one with an extension
that leaves nothing open, if there is one. -/
theorem literalPrefix_of_combine (hq : Pattern.parse o b = .ok q) (ha : a ≠ []) (hb : b ≠ [])
    (hc : p.combine q = .ok c) :
    (¬p.MergesExtension q → ¬p.LosesSeparator q → p.literalPrefix <+: c.text) ∧
      (p.MergesExtension q → ∃ ext file ext', StarExtension a ext ∧ HasExtension b file ext' ∧
        c.text = file ++ if isConcrete ext then ext else ext') := by
  obtain ⟨rfl, -⟩ := text_of_parse hp
  obtain ⟨rfl, -⟩ := text_of_parse hq
  constructor
  · intro hmerges hloses
    exact literalPrefix_of_kept ho hcase hdecode hmatrix hp ha hb hc hmerges hloses
  · intro hmerges
    obtain ⟨ext, hstar⟩ := hmerges.star
    have hext : HasExtension q.text _ _ := splitExtension_eq.mp rfl
    rw [hmerges.combine_eq hb hstar hext] at hc
    split at hc
    · cases hc
    · exact ⟨ext, _, _, hstar, hext, Pattern.text_of_reparse hc⟩

end Combined

/-- The pattern `/d/*`, of which the `*` gives way to `/x`. -/
theorem literalPrefix_of_combine_wildcard :
    let o : PatternOptions := ⟨true, false, .uniform '/' false⟩
    ∃ p q c, Pattern.parse o "/d/*".toList = .ok p ∧ Pattern.parse o "/x".toList = .ok q ∧
      p.combine q = .ok c ∧ p.literalPrefix = "/d/".toList ∧ p.literalPrefix <+: c.text := by
  intro o
  let p : Pattern := ⟨"/d/*".toList, o, [⟨0, .separator⟩, ⟨1, .literal ['d'] true⟩,
    ⟨2, .separator⟩, ⟨3, .wildcard⟩]⟩
  let q : Pattern := ⟨"/x".toList, o, [⟨0, .separator⟩, ⟨1, .literal ['x'] true⟩]⟩
  let c : Pattern := ⟨"/d/x".toList, o, [⟨0, .separator⟩, ⟨1, .literal ['d'] true⟩,
    ⟨2, .separator⟩, ⟨3, .literal ['x'] true⟩]⟩
  have hp : Pattern.parse o "/d/*".toList = .ok p := rfl
  have hq : Pattern.parse o "/x".toList = .ok q := rfl
  have hc : p.combine q = .ok c := rfl
  have hmerges : ¬p.MergesExtension q := fun hmerges => Bool.noConfusion hmerges.ends
  have hloses : ¬p.LosesSeparator q := by
    intro hloses
    exact absurd hloses.separators (by decide)
  obtain ⟨hstarts, -⟩ := literalPrefix_of_combine rfl rfl rfl rfl hp hq (List.cons_ne_nil _ _)
    (List.cons_ne_nil _ _) hc
  exact ⟨p, q, c, hp, hq, hc, rfl, hstarts hmerges hloses⟩

/-- Of `/docs/*.html` only the extension is kept, and of `//*` only one of the separators. -/
theorem literalPrefix_of_combine_lost :
    let o : PatternOptions := ⟨true, false, .uniform '/' false⟩
    (∃ p q c, Pattern.parse o "/docs/*.html".toList = .ok p ∧
      Pattern.parse o "/hotel".toList = .ok q ∧
      p.combine q = .ok c ∧ (∃ k ∈ p.kinds, k.isLiteral = false) ∧ ¬p.literalPrefix <+: c.text) ∧
    ∃ p q c, Pattern.parse o "//*".toList = .ok p ∧ Pattern.parse o "x".toList = .ok q ∧
      p.combine q = .ok c ∧ (∃ k ∈ p.kinds, k.isLiteral = false) ∧ ¬p.literalPrefix <+: c.text := by
  intro o
  constructor
  · have hread : ((Pattern.parse o "/docs/*.html".toList).toOption.bind fun p =>
        (Pattern.parse o "/hotel".toList).toOption.bind fun q => (p.combine q).toOption.map fun c =>
          (p.kinds.all (·.isLiteral), p.literalPrefix, c.text))
        = some (false, "/docs/".toList, "/hotel.html".toList) := by decide +kernel
    obtain ⟨p, hp, hread⟩ := Option.bind_eq_some_iff.mp hread
    obtain ⟨q, hq, hread⟩ := Option.bind_eq_some_iff.mp hread
    obtain ⟨c, hc, hread⟩ := Option.map_eq_some_iff.mp hread
    rw [toOption_eq_some] at hp hq hc
    simp only [Prod.mk.injEq] at hread
    obtain ⟨hliteral, hstarts, htext⟩ := hread
    refine ⟨p, q, c, hp, hq, hc, by simpa using hliteral, ?_⟩
    rw [hstarts, htext]
    decide
  · let p : Pattern := ⟨"//*".toList, o, [⟨0, .separator⟩, ⟨1, .separator⟩, ⟨2, .wildcard⟩]⟩
    let q : Pattern := ⟨"x".toList, o, [⟨0, .literal ['x'] true⟩]⟩
    let c : Pattern := ⟨"/x".toList, o, [⟨0, .separator⟩, ⟨1, .literal ['x'] true⟩]⟩
    have hp : Pattern.parse o "//*".toList = .ok p := rfl
    have hq : Pattern.parse o "x".toList = .ok q := rfl
    have hc : p.combine q = .ok c := rfl
    refine ⟨p, q, c, hp, hq, hc, ⟨.wildcard, by simp [Pattern.kinds, p], rfl⟩, ?_⟩
    decide

end PathRouting
