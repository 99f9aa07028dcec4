import Mathlib.Algebra.GroupWithZero.Nat
import Mathlib.Algebra.Order.BigOperators.Group.List
import Mathlib.Algebra.Order.Group.Nat
import PathRouting.Proofs.Pattern.Match

/-!
# Patterns without captures and wildcards

Captures and wildcards are what the score of a pattern counts.  A pattern that scores nothing has
separators, literal segments and segments with `?` only, and these match a path of just as many
characters as the pattern has, as long as case makes a difference.

## Main definitions

* `ElementKind.isPlain` — what such a pattern is made of.
* `ElementKind.ReadWith` — what reading a segment sees to.

## Main results

* `readWith_of_parse` — a mixed segment has a capture or a `*`, and case counts as the options say.
* `isPlain_of_score` — a pattern that scores nothing and does not take all that is left is plain.
* `weight_of_isMatch` — a plain pattern has as many characters as the paths it matches.
-/

namespace PathRouting

/-! ### Mixed segments -/

/-- Whether a piece is a `*` or a capture. -/
def Piece.isOpen : Piece → Bool
  | star => true
  | capture .. => true
  | _ => false

/-- Whether an unchecked piece is a `*` or a capture. -/
def RawPiece.isOpen : RawPiece → Bool
  | star => true
  | braced .. => true
  | _ => false

theorem any_isOpen_cons (c : Char) (raws : List RawPiece) :
    (RawPiece.cons c raws).any RawPiece.isOpen = raws.any RawPiece.isOpen := by
  rcases raws with _ | ⟨raw, raws⟩
  · rfl
  · cases raw <;> rfl

/-- A brace or a `*` makes a piece of its own. -/
theorem any_isOpen_rawPieces {fuel : Nat} {s : List Char} (hfuel : s.length ≤ fuel)
    (h : '{' ∈ s ∨ '*' ∈ s) (position : Nat) :
    (rawPieces fuel position s).any RawPiece.isOpen = true := by
  induction fuel generalizing s position with
  | zero =>
    obtain rfl := List.length_eq_zero_iff.mp (Nat.le_zero.mp hfuel)
    simp at h
  | succ fuel ih =>
    rcases s with _ | ⟨c, s⟩
    · simp at h
    · have hlength : s.length ≤ fuel := Nat.le_of_succ_le_succ hfuel
      rw [rawPieces]
      split
      · rfl
      next hbrace =>
      split
      · rfl
      next hstar =>
      have hrest : '{' ∈ s ∨ '*' ∈ s := by
        simpa [Ne.symm hbrace, Ne.symm hstar] using h
      split
      · exact ih hlength hrest _
      · rw [any_isOpen_cons]
        exact ih hlength hrest _

/-- Checking pieces keeps what they are. -/
theorem any_isOpen_readPieces {names names' : List (List Char)} {afterCapture : Bool}
    {raws : List RawPiece} {pieces : List Piece}
    (h : readPieces names afterCapture raws = .ok (pieces, names')) :
    pieces.any Piece.isOpen = raws.any RawPiece.isOpen := by
  induction raws generalizing names afterCapture pieces with
  | nil =>
    obtain ⟨rfl, -⟩ : [] = pieces ∧ names = names' := by simpa [readPieces] using h
    rfl
  | cons raw raws ih =>
    rcases hraw : raw.plain? with _ | piece
    · obtain ⟨position, text, rfl⟩ := RawPiece.eq_braced hraw
      rw [readPieces_braced] at h
      split at h
      · simp at h
      obtain ⟨⟨piece, names₁⟩, hcap, h⟩ := bind_eq_ok.mp h
      obtain ⟨⟨pieces', names₂⟩, -, heq⟩ := map_eq_ok.mp h
      obtain ⟨rfl, rfl⟩ := Prod.mk.inj heq
      obtain ⟨name, constraint, rfl, -, -⟩ := readCapture_ok hcap
      rfl
    · rw [readPieces_plain hraw] at h
      obtain ⟨⟨pieces', names₁⟩, hrest, heq⟩ := map_eq_ok.mp h
      obtain ⟨rfl, rfl⟩ := Prod.mk.inj heq
      have hpiece : piece.isOpen = raw.isOpen := by
        cases raw <;> simp only [RawPiece.plain?, Option.some.injEq, reduceCtorEq] at hraw <;>
          subst hraw <;> rfl
      rw [List.any_cons, List.any_cons, ih hrest, hpiece]

/-! ### What reading a segment sees to -/

namespace ElementKind

/-- Whether the element is a separator, literal text, or text with `?`. -/
def isPlain : ElementKind → Bool
  | separator => true
  | literal .. => true
  | singleChars .. => true
  | _ => false

/-- What reading a segment sees to: a mixed segment has a capture or a `*`, and case makes a
difference where the options say so. -/
def ReadWith (o : PatternOptions) : ElementKind → Prop
  | literal _ caseSensitive => caseSensitive = o.caseSensitive
  | singleChars _ caseSensitive => caseSensitive = o.caseSensitive
  | mixed _ pieces _ => pieces.any Piece.isOpen = true
  | _ => True

end ElementKind

variable {o : PatternOptions} {text : List Char} {p : Pattern}

theorem readWith_of_readSegment {names names' : List (List Char)} {position : Nat}
    {segment : List Char} {kind : ElementKind}
    (h : readSegment o names position segment = .ok (kind, names')) : kind.ReadWith o := by
  cases segmentRead_of_readSegment h with
  | singleChars _ => rfl
  | literal _ => rfl
  | mixed pieces re names' hopened hread =>
    exact (any_isOpen_readPieces hread).trans
      (any_isOpen_rawPieces (Nat.le_refl _) hopened position)
  | _ => trivial

/-- **Every element is as reading its segment has seen to.** -/
theorem readWith_of_parse (h : Pattern.parse o text = .ok p) : ∀ k ∈ p.kinds, k.ReadWith o := by
  intro k hk
  cases fromToken_of_parse h k hk with
  | single hread => exact readWith_of_readSegment hread
  | _ => trivial

/-! ### Patterns that score nothing -/

theorem Pattern.total_eq_sum (p : Pattern) (measure : ElementKind → Nat) :
    p.total measure = (p.kinds.map measure).sum := by
  rw [Pattern.total, List.sum, List.foldr_map]

/-- No element has more than the whole pattern. -/
theorem Pattern.le_total (p : Pattern) (measure : ElementKind → Nat) {k : ElementKind}
    (hk : k ∈ p.kinds) : measure k ≤ p.total measure := by
  rw [p.total_eq_sum]
  exact List.le_sum_of_mem (List.mem_map_of_mem hk)

/-- **A pattern that scores nothing and does not take all that is left is plain.** -/
theorem isPlain_of_score (h : Pattern.parse o text = .ok p) (hscore : p.score = 0)
    (hrest : p.isCatchAll = false) : ∀ k ∈ p.kinds, k.isPlain = true := by
  intro k hk
  have hcounts : p.captureCount = 0 ∧ p.wildcardCount = 0 := by
    rw [Pattern.score] at hscore
    omega
  have hcaptures : k.captures = 0 := Nat.le_zero.mp (hcounts.1 ▸ p.le_total (·.captures) hk)
  have hwildcards : k.wildcards = 0 := Nat.le_zero.mp (hcounts.2 ▸ p.le_total (·.wildcards) hk)
  have hcatchAll : k.isCatchAll = false := by
    rw [Pattern.isCatchAll, List.any_eq_false] at hrest
    simpa using hrest k hk
  cases k with
  | mixed segment pieces re =>
    -- a capture would count as one, and a `*` as a wildcard
    have hopen : pieces.any Piece.isOpen = true := readWith_of_parse h _ hk
    obtain ⟨piece, hpiece, hisOpen⟩ := List.any_eq_true.mp hopen
    cases piece with
    | star =>
      have hstars := List.length_eq_zero_iff.mp hwildcards
      exact absurd hpiece fun hmem => by
        simpa [Piece.isStar] using List.filter_eq_nil_iff.mp hstars _ hmem
    | capture name constraint =>
      have hnames := List.length_eq_zero_iff.mp hcaptures
      simpa [Piece.name?] using List.filterMap_eq_nil_iff.mp hnames _ hpiece
    | literal t => simp [Piece.isOpen] at hisOpen
    | question => simp [Piece.isOpen] at hisOpen
  | separator => rfl
  | literal t caseSensitive => rfl
  | singleChars t caseSensitive => rfl
  | wildcard => simp [ElementKind.wildcards] at hwildcards
  | segments => simp [ElementKind.wildcards] at hwildcards
  | capture name constraint => simp [ElementKind.captures, ElementKind.names] at hcaptures
  | rest c => simp [ElementKind.isCatchAll] at hcatchAll
  | captureRest name c => simp [ElementKind.isCatchAll] at hcatchAll

/-! ### Characters of patterns and paths -/

/-- The number of characters of a path, escapes replaced and matrix variables left out. -/
def Path.weight (path : Path) : Nat := (path.elements.flatMap PathElement.value).length

theorem length_eq_of_charsMatch {caseSensitive : Bool} {pattern value : List Char}
    (h : charsMatch caseSensitive pattern value = true) : pattern.length = value.length := by
  induction pattern generalizing value with
  | nil =>
    cases value with
    | nil => rfl
    | cons c cs => simp [charsMatch] at h
  | cons p ps ih =>
    cases value with
    | nil => simp [charsMatch] at h
    | cons c cs =>
      rw [charsMatch, Bool.and_eq_true] at h
      rw [List.length_cons, List.length_cons, ih h.2]

/-- Where case makes a difference, a plain element that takes a segment has as many characters. -/
theorem weight_of_take? {q : Query} {s : Segment} {k : ElementKind} {bs : List Binding}
    (hk : k.isPlain = true) (hread : k.ReadWith o) (hcase : o.caseSensitive = true)
    (h : q.take? s k = some bs) : k.weight = s.value.length := by
  cases k with
  | literal t caseSensitive =>
    obtain rfl : caseSensitive = true := hread.trans hcase
    have heq := (Option.ite_none_right_eq_some.mp h).1
    simp only [textMatches, if_true, beq_iff_eq] at heq
    rw [ElementKind.weight, heq]
  | singleChars t caseSensitive =>
    exact length_eq_of_charsMatch (Option.ite_none_right_eq_some.mp h).1
  | _ => simp [Query.take?] at h <;> simp [ElementKind.isPlain] at hk

/-- The elements of a path from the index of a segment or a separator on. -/
theorem drop_eq_cons_of_getElem? {q : Query} {index : Nat} {e : PathElement}
    (h : q.elements[index]? = some e) :
    q.elements.toList.drop index = e :: q.elements.toList.drop (index + 1) := by
  obtain ⟨hlt, rfl⟩ := Array.getElem?_eq_some_iff.mp h
  rw [List.drop_eq_getElem_cons (by simpa using hlt)]
  rfl

/-- Plain elements have as many characters as what they match. -/
theorem weight_of_search {q : Query} {es : List PatternElement} {index : Nat}
    {afterSegment : Bool} {out : Outcome} (hcase : o.caseSensitive = true)
    (hplain : ∀ e ∈ es, e.kind.isPlain = true ∧ e.kind.ReadWith o) (hwhole : q.ofStart = false)
    (htrailing : q.optionalTrailingSeparator = false)
    (h : search q es index afterSegment = some out) :
    (es.map (·.kind.weight)).sum
      = ((q.elements.toList.drop index).flatMap PathElement.value).length := by
  induction es using search_induction generalizing index afterSegment out with
  | nil =>
    obtain ⟨hend, -⟩ := (Query.finish_whole hwhole).mp (search_nil index afterSegment ▸ h)
    obtain rfl : index = q.length := by simpa [htrailing] using hend
    rw [List.drop_of_length_le (by simp [Query.length])]
    rfl
  | separator e after hkind ih =>
    obtain ⟨hsep, h⟩ := (search_separator_eq_some hkind).mp h
    obtain ⟨e', he', hsep⟩ := (Option.any_eq_true _ _).mp hsep
    have hvalue : e'.value.length = 1 := by
      cases e' with
      | separator p c => rfl
      | segment s => simp at hsep
    rw [List.map_cons, List.sum_cons, hkind, ih (fun e he => hplain e (by simp [he])) h,
      drop_eq_cons_of_getElem? he', List.flatMap_cons, List.length_append, hvalue]
    rfl
  | takes e after hkind ih =>
    obtain ⟨s, bs, o', hs, hbs, h, -⟩ := (search_takes_eq_some hkind).mp h
    obtain ⟨e', he', hs⟩ := Option.bind_eq_some_iff.mp hs
    have hvalue : e'.value = s.value := by
      cases e' with
      | separator p c => simp [PathElement.segment?] at hs
      | segment s' =>
        obtain rfl : s' = s := Option.some.inj hs
        rfl
    obtain ⟨hplain₁, hread⟩ := hplain e List.mem_cons_self
    rw [List.map_cons, List.sum_cons, weight_of_take? hplain₁ hread hcase hbs,
      ih (fun e he => hplain e (by simp [he])) h, drop_eq_cons_of_getElem? he',
      List.flatMap_cons, List.length_append, hvalue]
  | wildcard e after hkind _ =>
    simpa [hkind, ElementKind.isPlain] using (hplain e List.mem_cons_self).1
  | lastSegments e hkind =>
    simpa [hkind, ElementKind.isPlain] using (hplain e List.mem_cons_self).1
  | segments e next later hkind _ _ =>
    simpa [hkind, ElementKind.isPlain] using (hplain e List.mem_cons_self).1
  | catchAll e after hkind =>
    have hplain₁ := (hplain e List.mem_cons_self).1
    obtain ⟨position, kind⟩ := e
    cases kind <;> simp_all [ElementKind.isPlain, ElementKind.isCatchAll]

/-- **A plain pattern has as many characters as the paths it matches**, where case makes a
difference and no separator may follow. -/
theorem weight_of_isMatch (h : Pattern.parse o text = .ok p) (hcase : o.caseSensitive = true)
    (htrailing : o.optionalTrailingSeparator = false) (hplain : ∀ k ∈ p.kinds, k.isPlain = true)
    {path : Path} (hmatch : p.isMatch path = true) : p.weight = path.weight := by
  have hoptions := (text_of_parse h).2
  have hweight : p.weight = (p.elements.map (·.kind.weight)).sum := by
    rw [Pattern.weight, p.total_eq_sum, Pattern.kinds, List.map_map]
    rfl
  by_cases hne : p.elements = []
  · -- no elements match no elements
    have hpath := elements_eq_nil_of_isMatch hne (hoptions ▸ htrailing) hmatch
    rw [hweight, hne, Path.weight, hpath]
    rfl
  · obtain ⟨out, hout⟩ := exists_search_of_isMatch h hne hmatch
    have hall : ∀ e ∈ p.elements, e.kind.isPlain = true ∧ e.kind.ReadWith o := fun e he =>
      ⟨hplain _ (List.mem_map_of_mem he), readWith_of_parse h _ (List.mem_map_of_mem he)⟩
    have htrailing' : (p.query path false false).optionalTrailingSeparator = false := by
      rw [Pattern.query, hoptions, htrailing]
    have hsearch := weight_of_search hcase hall rfl htrailing' hout
    rw [hweight, hsearch, Path.weight]
    simp [Pattern.query]

end PathRouting
