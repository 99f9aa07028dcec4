import PathRouting.Proofs.Config
import PathRouting.Proofs.Pattern.Plain
import PathRouting.Proofs.Pattern.Written

/-!
# What all patterns have in common

The search for a match relies on how the elements of a pattern may follow one another, and the
recorded match relies on its names.  Both are settled while the tokens are placed: a `**` or a
capture of the rest that comes last takes in the separator before it, nothing may come after a
capture of the rest, and a name is checked before it is given.

## Main definitions

* `Pattern.WellFormed` — what all patterns have in common.
* `Chain.Lone` — the elements that may only stand alone.

## Main results

* `isName_of_parse` — all names of a pattern are names.
* `lone_of_parse` — a capture of the rest without a separator stands alone, and so does a `**` that
  comes last.
* `hasSyntax_eq_false` — without pattern syntax there are separators and literal segments only.
* `wellFormed_of_parse` — **every pattern is well formed**.
-/

namespace PathRouting

variable {o : PatternOptions} {text : List Char} {p : Pattern}

/-- What all patterns have in common. -/
structure Pattern.WellFormed (p : Pattern) : Prop where
  /-- At most one element takes all that is left of a path. -/
  catchAll_once : p.kinds.countP (·.isCatchAll) ≤ 1
  /-- It is the last one. -/
  catchAll_last : ∀ k ∈ p.kinds.dropLast, k.isCatchAll = false
  /-- A `**` that takes all that is left has the separator. -/
  rest : ∀ c, .rest c ∈ p.kinds → c = p.separator
  /-- So has a capture of the rest, unless it stands alone. -/
  captureRest : ∀ name c, .captureRest name c ∈ p.kinds →
    c = some p.separator ∨ c = none ∧ p.kinds = [.captureRest name none]
  /-- Of two neighbours the first is a separator, or the second is one or has one. -/
  adjoining : p.kinds.IsChain fun k k' => k = .separator ∨ k' = .separator ∨
    (∃ c, k' = .rest c) ∨ ∃ name c, k' = .captureRest name (some c)
  /-- A `**` that is the last element is the only one. -/
  segments_last : ∀ before, p.kinds = before ++ [.segments] → before = []
  /-- After any other `**` comes a separator or what takes all that is left. -/
  segments_next : ∀ before k after, p.kinds = before ++ .segments :: k :: after →
    k = .separator ∨ k.isCatchAll = true
  /-- All names are names. -/
  names : ∀ name ∈ p.names, IsName name
  /-- No name is given twice. -/
  names_nodup : p.names.Nodup
  /-- A mixed segment has a capture or a `*`. -/
  mixed : ∀ segment pieces re, .mixed segment pieces re ∈ p.kinds →
    0 < (ElementKind.mixed segment pieces re).captures
      + (ElementKind.mixed segment pieces re).wildcards
  /-- Without pattern syntax there are separators and literal segments only. -/
  hasSyntax : p.hasSyntax = false ↔ ∀ k ∈ p.kinds, k.isLiteral = true

/-! ### Names -/

theorem isName_of_readRestName {position offset : Nat} {s name : List Char}
    (h : readRestName position offset s = .ok name) : IsName name := by
  unfold readRestName at h
  split at h
  · simp at h
  · obtain ⟨u, hcheck, hname⟩ := bind_eq_ok.mp h
    obtain rfl := pure_eq_ok.mp hname
    exact checkName_ok.mp hcheck

/-- The names among checked pieces are names. -/
theorem isName_of_readPieces {names names' : List (List Char)} {afterCapture : Bool}
    {raws : List RawPiece} {pieces : List Piece}
    (h : readPieces names afterCapture raws = .ok (pieces, names')) :
    ∀ name ∈ captureNames pieces, IsName name := by
  induction raws generalizing names afterCapture pieces with
  | nil =>
    obtain ⟨rfl, -⟩ : [] = pieces ∧ names = names' := by simpa [readPieces] using h
    simp [captureNames]
  | cons raw raws ih =>
    rcases hraw : raw.plain? with _ | piece
    · obtain ⟨position, text, rfl⟩ := RawPiece.eq_braced hraw
      rw [readPieces_braced] at h
      split at h
      · simp at h
      obtain ⟨⟨piece, names₁⟩, hcapture, h⟩ := bind_eq_ok.mp h
      obtain ⟨⟨pieces', names₂⟩, hrest, heq⟩ := map_eq_ok.mp h
      obtain ⟨rfl, rfl⟩ := Prod.mk.inj heq
      obtain ⟨hname, -, rfl⟩ := capture_of_readCapture hcapture
      simpa [captureNames_cons, Piece.name?] using ⟨hname, ih hrest⟩
    · rw [readPieces_plain hraw] at h
      obtain ⟨⟨pieces', names₁⟩, hrest, heq⟩ := map_eq_ok.mp h
      obtain ⟨rfl, rfl⟩ := Prod.mk.inj heq
      rw [captureNames_cons, name?_of_plain? hraw]
      exact ih hrest

theorem isName_of_readSegment {names names' : List (List Char)} {position : Nat}
    {segment : List Char} {kind : ElementKind}
    (h : readSegment o names position segment = .ok (kind, names')) :
    ∀ name ∈ kind.names, IsName name := by
  cases segmentRead_of_readSegment h with
  | capture name names' hread => exact isName_of_readPieces hread
  | constrained name constraint re names' hread _ => exact isName_of_readPieces hread
  | mixed pieces re names' _ hread => exact isName_of_readPieces hread
  | _ => simp [ElementKind.names]

/-- **All names of a pattern are names.** -/
theorem isName_of_parse (h : Pattern.parse o text = .ok p) : ∀ name ∈ p.names, IsName name := by
  intro name hname
  obtain ⟨k, hk, hname⟩ := List.mem_flatMap.mp hname
  cases fromToken_of_parse h k hk with
  | captureRest hread _ =>
    obtain rfl := List.mem_singleton.mp hname
    exact isName_of_readRestName hread
  | single hread => exact isName_of_readSegment hread name hname
  | _ => simp [ElementKind.names] at hname

/-! ### Elements that stand alone -/

namespace Chain

variable {ch ch' : Chain} {t : Token} {ts : List Token}

/-- The elements that may only stand alone. -/
structure Lone (ch : Chain) (ts : List Token) : Prop where
  /-- A capture of the rest without a separator. -/
  captureRest : ∀ e ∈ ch.elements, ∀ name, e.kind = .captureRest name none → ch.elements = [e]
  /-- A `**` after which nothing comes. -/
  segments : ts = [] → ∀ e ∈ ch.elements.head?, e.kind = .segments → ch.elements = [e]

/-- Where a token comes, no capture of the rest precedes. -/
theorem Lone.ne_captureRest (h : ch.Lone (t :: ts)) (hopen : ch.isClosed = false) :
    ∀ e ∈ ch.elements, ∀ name, e.kind ≠ .captureRest name none := by
  intro ⟨q, kind⟩ he name hkind
  obtain rfl : kind = .captureRest name none := hkind
  simp [isClosed, h.captureRest _ he name rfl] at hopen

/-- A segment that does not come after a separator comes first. -/
theorem Joined.elements_eq_nil {p : Nat} {s : List Char} (h : ch.Joined (.segment p s :: ts))
    (hnot : ¬ch.EndsWithSeparator) : ch.elements = [] := by
  rcases h.next with hnil | hends | hsep
  · exact hnil
  · exact absurd hends hnot
  · simp [Token.isSeparator] at hsep

theorem Lone.step (hopen : ch.isClosed = false) (hplaced : Placed o ts.isEmpty ch t ch')
    (hjoined : ch.Joined (t :: ts)) (h : ch.Lone (t :: ts)) : ch'.Lone ts := by
  have hall := h.ne_captureRest hopen
  -- an element that may stand among others
  have hpush {e : PatternElement} {before : List PatternElement} {names : List (List Char)}
      (hbefore : ∀ e' ∈ before, e' ∈ ch.elements) (hrest : ∀ name, e.kind ≠ .captureRest name none)
      (hsegments : e.kind ≠ .segments) : Lone ⟨e :: before, names⟩ ts :=
    { captureRest := fun e' he' name hkind => by
        rcases List.mem_cons.mp he' with rfl | he'
        · exact absurd hkind (hrest name)
        · exact absurd hkind (hall e' (hbefore e' he') name)
      segments := fun _ e' he' hkind => by
        obtain rfl : e = e' := by simpa using he'
        exact absurd hkind hsegments }
  have hreplace {q : Nat} {before : List PatternElement}
      (hq : ch.elements = ⟨q, .separator⟩ :: before) : ∀ e' ∈ before, e' ∈ ch.elements :=
    fun e' he' => hq ▸ List.mem_cons_of_mem _ he'
  cases hplaced with
  | separator p => exact hpush (fun _ => id) (by simp) (by simp)
  | rest p q before _ hq => exact hpush (hreplace hq) (by simp) (by simp)
  | segments p hnotRest =>
    refine ⟨fun e he name hkind => ?_, fun hlast e he _ => ?_⟩
    · rcases List.mem_cons.mp he with rfl | he
      · simp at hkind
      · exact absurd hkind (hall e he name)
    · -- after a separator it would have been taken for the rest
      have hnot : ¬ch.EndsWithSeparator := fun hends => hnotRest ⟨by simp [hlast], hends⟩
      obtain rfl : ⟨p, .segments⟩ = e := by simpa [Chain.push] using he
      simp [Chain.push, hjoined.elements_eq_nil hnot]
  | captureRest p q offset s name before _ _ _ hq => exact hpush (hreplace hq) (by simp) (by simp)
  | captureRestAlone p offset s name _ _ _ hnotAfter =>
    have hnil := hjoined.elements_eq_nil hnotAfter
    simp only [hnil]
    exact ⟨fun e he _ _ => by rw [List.mem_singleton.mp he],
      fun _ e he _ => by rw [Option.mem_some_iff.mp he]⟩
  | single p s kind names _ _ hread =>
    refine hpush (fun _ => id) (fun name => ?_) ?_
    all_goals
      rintro rfl
      simpa [ElementKind.takes] using (readSegment_ok hread).1

end Chain

/-- **A capture of the rest without a separator stands alone, and so does a last `**`.** -/
theorem lone_of_parse (h : Pattern.parse o text = .ok p) :
    (∀ name, .captureRest name none ∈ p.kinds → p.kinds = [.captureRest name none]) ∧
      ∀ before, p.kinds = before ++ [.segments] → before = [] := by
  obtain ⟨ts, ch, hts, hch, rfl⟩ := parse_ok h
  obtain ⟨-, hlone⟩ : ch.Joined [] ∧ ch.Lone [] :=
    Chain.placeAll_invariant (fun ch ts => ch.Joined ts ∧ ch.Lone ts)
      (fun ch t rest ch' hopen hplaced ⟨hjoined, hlone⟩ =>
        ⟨hjoined.step hplaced, hlone.step hopen hplaced hjoined⟩) hch
      ⟨⟨.nil, .inl rfl, isChain_tokensFrom hts⟩, by simp, by simp⟩
  refine ⟨fun name hk => ?_, fun before hkinds => ?_⟩
  · obtain ⟨e, he, hkind⟩ := List.mem_map.mp hk
    have helements := hlone.captureRest e (List.mem_reverse.mp he) name hkind
    simp [Pattern.kinds, helements, hkind]
  · obtain ⟨initial, final, helements, rfl, hfinal⟩ := List.map_eq_append_iff.mp hkinds
    obtain ⟨e, rfl, hkind⟩ := List.map_eq_singleton_iff.mp hfinal
    have hlatest : ch.elements = e :: initial.reverse := by
      simpa using congrArg List.reverse helements
    have halone := hlone.segments rfl e (by simp [hlatest]) hkind
    rw [hlatest] at halone
    simpa using halone

/-! ### Patterns without syntax -/

theorem ElementKind.FromToken.question_mem {t : List Char} {caseSensitive : Bool}
    (h : (ElementKind.singleChars t caseSensitive).FromToken o) : '?' ∈ t := by
  cases h with
  | single hread =>
    cases segmentRead_of_readSegment hread with
    | singleChars hquestion => exact hquestion

theorem ElementKind.FromToken.question_notMem {t : List Char} {caseSensitive : Bool}
    (h : (ElementKind.literal t caseSensitive).FromToken o) : '?' ∉ t := by
  cases h with
  | single hread =>
    cases segmentRead_of_readSegment hread with
    | literal hquestion => exact hquestion

/-- A character of a pattern text stands in one of the elements. -/
theorem mem_text_iff (h : Pattern.parse o text = .ok p) (c : Char) :
    c ∈ text ↔ ∃ k ∈ p.kinds, c ∈ k.written o.separator := by
  conv_lhs => rw [← flatMap_written_of_parse h]
  simp [Pattern.kinds]

/-- A pattern of elements that all measure nothing measures nothing. -/
theorem Pattern.total_eq_zero {measure : ElementKind → Nat} (h : ∀ k ∈ p.kinds, measure k = 0) :
    p.total measure = 0 := by
  rw [p.total_eq_sum, List.sum_eq_zero_iff]
  intro n hn
  obtain ⟨k, hk, rfl⟩ := List.mem_map.mp hn
  exact h k hk

/-- **Without pattern syntax there are separators and literal segments only.** -/
theorem hasSyntax_eq_false (ho : o.validate = .ok o) (h : Pattern.parse o text = .ok p) :
    p.hasSyntax = false ↔ ∀ k ∈ p.kinds, k.isLiteral = true := by
  have hseparator : o.separator ≠ '?' := by
    intro heq
    exact notMem_reservedChars ho (by rw [heq]; decide)
  have htext : p.text.contains '?' = false ↔ '?' ∉ text := by
    rw [(text_of_parse h).1, ← Bool.not_eq_true, List.contains_iff_mem]
  have hzero : p.hasSyntax = false ↔ p.score = 0 ∧ p.isCatchAll = false ∧ '?' ∉ text := by
    rw [← htext]
    simp [Pattern.hasSyntax, and_assoc]
  rw [hzero, mem_text_iff h]
  constructor
  · rintro ⟨hscore, hrest, hquestion⟩ k hk
    have hplain := isPlain_of_score h hscore hrest k hk
    cases k with
    | singleChars t caseSensitive =>
      exact absurd ⟨_, hk, (fromToken_of_parse h _ hk).question_mem⟩ hquestion
    | separator => rfl
    | literal t caseSensitive => rfl
    | _ => simp [ElementKind.isPlain] at hplain
  · intro hall
    refine ⟨?_, ?_, ?_⟩
    · have hcounts : ∀ k ∈ p.kinds, k.captures = 0 ∧ k.wildcards = 0 := by
        intro k hk
        have hliteral := hall k hk
        cases k <;> first | exact ⟨rfl, rfl⟩ | simp [ElementKind.isLiteral] at hliteral
      have hcaptures : p.captureCount = 0 := Pattern.total_eq_zero fun k hk => (hcounts k hk).1
      have hwildcards : p.wildcardCount = 0 := Pattern.total_eq_zero fun k hk => (hcounts k hk).2
      rw [Pattern.score, hcaptures, hwildcards]
    · refine List.any_eq_false.mpr fun k hk => ?_
      have hliteral := hall k hk
      cases k <;> simp [ElementKind.isLiteral, ElementKind.isCatchAll] at hliteral ⊢
    · rintro ⟨k, hk, hquestion⟩
      have hliteral := hall k hk
      cases k with
      | separator => exact hseparator (List.mem_singleton.mp hquestion).symm
      | literal t caseSensitive => exact (fromToken_of_parse h _ hk).question_notMem hquestion
      | _ => simp [ElementKind.isLiteral] at hliteral

/-! ### Well-formed patterns -/

/-- What starts at a separator is one or has one. -/
theorem ElementKind.startsAtSeparator_iff {k : ElementKind} : k.startsAtSeparator = true ↔
    k = .separator ∨ (∃ c, k = .rest c) ∨ ∃ name c, k = .captureRest name (some c) := by
  cases k with
  | captureRest name c => cases c <;> simp [startsAtSeparator]
  | _ => simp [startsAtSeparator]

theorem adjoining_kinds_of_parse (h : Pattern.parse o text = .ok p) : p.kinds.IsChain fun k k' =>
    k = .separator ∨ k' = .separator ∨
      (∃ c, k' = .rest c) ∨ ∃ name c, k' = .captureRest name (some c) := by
  have hchain : p.kinds.IsChain fun k k' => k = .separator ∨ k'.startsAtSeparator = true :=
    (List.isChain_map _).mpr (adjoining_of_parse h)
  exact hchain.imp fun k k' hmeet => hmeet.imp_right ElementKind.startsAtSeparator_iff.mp

/-- A mixed segment has a capture or a `*`, which counts. -/
theorem captures_add_wildcards_pos {segment : List Char} {pieces : List Piece} {re : Regex}
    (h : (ElementKind.mixed segment pieces re).ReadWith o) :
    0 < (ElementKind.mixed segment pieces re).captures
      + (ElementKind.mixed segment pieces re).wildcards := by
  obtain ⟨piece, hpiece, hopen⟩ := List.any_eq_true.mp h
  cases piece with
  | star =>
    have hstar : Piece.star ∈ pieces.filter Piece.isStar := List.mem_filter.mpr ⟨hpiece, rfl⟩
    exact Nat.add_pos_right _ (List.length_pos_of_mem hstar)
  | capture name constraint =>
    have hname : name ∈ captureNames pieces := List.mem_filterMap.mpr ⟨_, hpiece, rfl⟩
    exact Nat.add_pos_left (List.length_pos_of_mem hname) _
  | literal t => simp [Piece.isOpen] at hopen
  | question => simp [Piece.isOpen] at hopen

/-- **Every pattern is well formed.** -/
theorem wellFormed_of_parse (ho : o.validate = .ok o) (h : Pattern.parse o text = .ok p) :
    p.WellFormed := by
  have hseparator : p.separator = o.separator := by rw [Pattern.separator, (text_of_parse h).2]
  have hlast : ∀ k ∈ p.kinds.dropLast, k.isCatchAll = false := by
    intro k hk
    rw [Pattern.kinds, ← List.map_dropLast] at hk
    obtain ⟨e, he, rfl⟩ := List.mem_map.mp hk
    exact isCatchAll_dropLast_of_parse h e he
  obtain ⟨hcaptureRest, hsegments⟩ := lone_of_parse h
  exact {
    catchAll_once := by
      rcases List.eq_nil_or_concat p.kinds with hnil | ⟨initial, k, hkinds⟩
      · simp [hnil]
      · rw [hkinds, List.concat_eq_append, List.dropLast_concat] at hlast
        have hinitial : initial.countP (·.isCatchAll) = 0 :=
          List.countP_eq_zero.mpr fun k hk => by simp [hlast k hk]
        rw [hkinds, List.concat_eq_append, List.countP_append, hinitial, Nat.zero_add]
        exact List.countP_le_length
    catchAll_last := hlast
    rest := by
      intro c hk
      cases fromToken_of_parse h _ hk with
      | rest => exact hseparator.symm
      | single hread => simpa [ElementKind.takes] using (readSegment_ok hread).1
    captureRest := by
      intro name c hk
      cases fromToken_of_parse h _ hk with
      | captureRest _ htaken =>
        rcases htaken with rfl | rfl
        · exact .inr ⟨rfl, hcaptureRest name hk⟩
        · exact .inl (by rw [hseparator])
      | single hread => simpa [ElementKind.takes] using (readSegment_ok hread).1
    adjoining := adjoining_kinds_of_parse h
    segments_last := hsegments
    segments_next := by
      intro before k after hkinds
      have hmeet := adjoining_kinds_of_parse h
      rw [hkinds] at hmeet
      rcases hmeet.right_of_append.rel with hsep | hsep | ⟨c, rfl⟩ | ⟨name, c, rfl⟩
      · simp at hsep
      · exact .inl hsep
      · exact .inr rfl
      · exact .inr rfl
    names := isName_of_parse h
    names_nodup := names_nodup_of_parse h
    mixed := fun segment pieces re hk => captures_add_wildcards_pos (readWith_of_parse h _ hk)
    hasSyntax := hasSyntax_eq_false ho h }

/-- A pattern of many kinds of elements, the last of which takes in its separator. -/
theorem wellFormed_of_parse_rest : ∃ p, PatternOptions.default.validate = .ok .default ∧
    Pattern.parse .default "/a?/**/{n:[0-9]{2}}/*.{x}/{*y}".toList = .ok p ∧ p.WellFormed := by
  have hread : (Pattern.parse .default "/a?/**/{n:[0-9]{2}}/*.{x}/{*y}".toList).toOption.isSome
      = true := by decide +kernel
  obtain ⟨p, hp⟩ := Option.isSome_iff_exists.mp hread
  rw [toOption_eq_some] at hp
  exact ⟨p, rfl, hp, wellFormed_of_parse rfl hp⟩

end PathRouting
