import PathRouting.Proofs.Pattern.Segment
import PathRouting.Proofs.Pattern.Token

/-!
# The chain of elements

Tokens are placed one after the other.  What placing one token can do is said once, and what all
chains have in common follows from it token by token.

## Main definitions

* `Chain.Placed` — the ways to place one token.
* `ElementKind.FromToken` — the elements that tokens become.
* `Pattern.names` — the names that a pattern records.

## Main results

* `placeAll_invariant` — what placing a token keeps holds of the chain of all tokens.
* `fromToken_of_parse` — the elements of a pattern are those that tokens become.
* `pairwise_position_of_parse` — the elements of a pattern stand in the order of their places.
* `adjoining_of_parse` — of two neighbours one takes no segment at the place where they meet.
* `isCatchAll_dropLast_of_parse` — only the last element takes all that is left.
* `startsAtSeparator_of_parse` — what starts with the separator starts at one.
* `names_nodup_of_parse` — no name is recorded twice.
-/

namespace PathRouting

/-- The names that a pattern records, in the order of the pattern. -/
def Pattern.names (p : Pattern) : List (List Char) := p.kinds.flatMap ElementKind.names

namespace Chain

/-! ### Placing one token -/

/-- Whether the latest element is a separator. -/
def EndsWithSeparator (ch : Chain) : Prop := ∃ p before, ch.elements = ⟨p, .separator⟩ :: before

/-- The ways to place one token. -/
inductive Placed (o : PatternOptions) (isLast : Bool) (ch : Chain) : Token → Chain → Prop
  /-- A separator stands for itself. -/
  | separator (p : Nat) : Placed o isLast ch (.separator p) (ch.push p .separator)
  /-- A last `**` takes in the separator before it. -/
  | rest (p q : Nat) (before : List PatternElement) (last : isLast = true)
      (elements : ch.elements = ⟨q, .separator⟩ :: before) :
      Placed o isLast ch (.segment p ['*', '*'])
        { ch with elements := ⟨q, .rest o.separator⟩ :: before }
  /-- Any other `**` stands for itself. -/
  | segments (p : Nat) (notRest : ¬(isLast = true ∧ ch.EndsWithSeparator)) :
      Placed o isLast ch (.segment p ['*', '*']) (ch.push p .segments)
  /-- A capture of the rest takes in the separator before it. -/
  | captureRest (p q offset : Nat) (s name : List Char) (before : List PatternElement)
      (found : findRest s = some offset) (named : readRestName p offset s = .ok name)
      (fresh : name ∉ ch.names) (elements : ch.elements = ⟨q, .separator⟩ :: before) :
      Placed o isLast ch (.segment p s)
        ⟨⟨q, .captureRest name (some o.separator)⟩ :: before, name :: ch.names⟩
  /-- A capture of the rest without a separator before it. -/
  | captureRestAlone (p offset : Nat) (s name : List Char)
      (found : findRest s = some offset) (named : readRestName p offset s = .ok name)
      (fresh : name ∉ ch.names) (notAfter : ¬ch.EndsWithSeparator) :
      Placed o isLast ch (.segment p s)
        ⟨⟨p, .captureRest name none⟩ :: ch.elements, name :: ch.names⟩
  /-- An element that takes one segment. -/
  | single (p : Nat) (s : List Char) (kind : ElementKind) (names : List (List Char))
      (notSegments : s ≠ ['*', '*']) (notRest : findRest s = none)
      (read : readSegment o ch.names p s = .ok (kind, names)) :
      Placed o isLast ch (.segment p s) ⟨⟨p, kind⟩ :: ch.elements, names⟩

/-- An element that takes in the separator before it. -/
theorem pushWithSeparator_cases (ch : Chain) (p : Nat) (kind : Bool → ElementKind) :
    (∃ q before, ch.elements = ⟨q, .separator⟩ :: before ∧
        ch.pushWithSeparator p kind = { ch with elements := ⟨q, kind true⟩ :: before }) ∨
      (¬ch.EndsWithSeparator ∧ ch.pushWithSeparator p kind = ch.push p (kind false)) := by
  unfold pushWithSeparator
  split
  · next q before h => exact .inl ⟨q, before, h, rfl⟩
  · next h => exact .inr ⟨fun ⟨q, before, hq⟩ => h q before hq, rfl⟩

/-- Placing a token succeeds in one of the six ways. -/
theorem place_ok {o : PatternOptions} {isLast : Bool} {ch ch' : Chain} {t : Token}
    (h : place o isLast ch t = .ok ch') : ch.isClosed = false ∧ Placed o isLast ch t ch' := by
  unfold place at h
  dsimp only at h
  split at h
  · simp at h
  next hopen =>
  refine ⟨by simpa using hopen, ?_⟩
  cases t with
  | separator p =>
    obtain rfl := pure_eq_ok.mp h
    exact .separator p
  | segment p s =>
    dsimp only at h
    split at h
    · next hs =>
      subst hs
      split at h
      · next hlast =>
        obtain rfl := pure_eq_ok.mp h
        rcases ch.pushWithSeparator_cases p _ with ⟨q, before, hq, heq⟩ | ⟨hnot, heq⟩
        · rw [heq]
          exact .rest p q before hlast hq
        · rw [heq]
          exact .segments p fun hboth => hnot hboth.2
      · next hlast =>
        obtain rfl := pure_eq_ok.mp h
        exact .segments p fun hboth => hlast hboth.1
    · next hs =>
      split at h
      · next offset hfound =>
        obtain ⟨name, hname, h⟩ := bind_eq_ok.mp h
        obtain ⟨names, hadd, h⟩ := bind_eq_ok.mp h
        obtain ⟨hfresh, rfl⟩ := addName_ok.mp hadd
        obtain rfl := pure_eq_ok.mp h
        rcases pushWithSeparator_cases ⟨ch.elements, name :: ch.names⟩ p _ with
          ⟨q, before, hq, heq⟩ | ⟨hnot, heq⟩
        · rw [heq]
          exact .captureRest p q offset s name before hfound hname hfresh hq
        · rw [heq]
          exact .captureRestAlone p offset s name hfound hname hfresh hnot
      · next hnone =>
        obtain ⟨⟨kind, names⟩, hread, h⟩ := bind_eq_ok.mp h
        obtain rfl := pure_eq_ok.mp h
        exact .single p s kind names hs hnone hread

/-! ### Placing all tokens -/

/-- **What placing one token keeps, placing all of them keeps.**  The property may speak about the
tokens still to come. -/
theorem placeAll_invariant {o : PatternOptions} (Inv : Chain → List Token → Prop)
    (step : ∀ ch t rest ch', ch.isClosed = false → Placed o rest.isEmpty ch t ch' →
      Inv ch (t :: rest) → Inv ch' rest) {ts : List Token} {ch ch' : Chain}
    (h : placeAll o ch ts = .ok ch') (h0 : Inv ch ts) : Inv ch' [] := by
  induction ts generalizing ch with
  | nil =>
    obtain rfl := Except.ok.inj h
    exact h0
  | cons t rest ih =>
    obtain ⟨ch₁, hplace, hrest⟩ := bind_eq_ok.mp h
    obtain ⟨hopen, hplaced⟩ := place_ok hplace
    exact ih hrest (step ch t rest ch₁ hopen hplaced h0)

end Chain

/-- The elements that tokens become, each token for itself. -/
inductive ElementKind.FromToken (o : PatternOptions) : ElementKind → Prop
  /-- A separator. -/
  | separator : FromToken o .separator
  /-- A `**` with the separator before it. -/
  | rest : FromToken o (.rest o.separator)
  /-- A `**` alone. -/
  | segments : FromToken o .segments
  /-- A capture of the rest, with the separator before it or without one. -/
  | captureRest {position offset : Nat} {s name : List Char} {separator : Option Char}
      (named : readRestName position offset s = .ok name)
      (taken : separator = none ∨ separator = some o.separator) :
      FromToken o (.captureRest name separator)
  /-- An element that takes one segment. -/
  | single {names names' : List (List Char)} {position : Nat} {s : List Char} {kind : ElementKind}
      (read : readSegment o names position s = .ok (kind, names')) : FromToken o kind

namespace Chain

/-- A token becomes one element, which is put to all those before it or to all but the last. -/
theorem Placed.latest {o : PatternOptions} {isLast : Bool} {ch ch' : Chain} {t : Token}
    (h : Placed o isLast ch t ch') : ∃ e before, ch'.elements = e :: before ∧
      before <:+ ch.elements ∧ e.kind.FromToken o := by
  have htail {q : Nat} {before : List PatternElement}
      (hq : ch.elements = ⟨q, .separator⟩ :: before) : before <:+ ch.elements :=
    hq ▸ List.suffix_cons ..
  cases h with
  | separator p => exact ⟨_, _, rfl, List.suffix_rfl, .separator⟩
  | rest p q before _ hq => exact ⟨_, _, rfl, htail hq, .rest⟩
  | segments p _ => exact ⟨_, _, rfl, List.suffix_rfl, .segments⟩
  | captureRest p q offset s name before _ hname _ hq =>
    exact ⟨_, _, rfl, htail hq, .captureRest hname (.inr rfl)⟩
  | captureRestAlone p offset s name _ hname _ _ =>
    exact ⟨_, _, rfl, List.suffix_rfl, .captureRest hname (.inl rfl)⟩
  | single p s kind names _ _ hread => exact ⟨_, _, rfl, List.suffix_rfl, .single hread⟩

/-- Places fall from the latest element to the first one, and all come before those of the
tokens to come. -/
structure Ordered (ch : Chain) (ts : List Token) : Prop where
  /-- Places fall from the latest element on. -/
  elements : ch.elements.Pairwise fun later earlier => earlier.position < later.position
  /-- The elements stand before the tokens. -/
  before : ∀ e ∈ ch.elements, ∀ t ∈ ts, e.position < t.position
  /-- The tokens stand in order. -/
  tokens : ts.Pairwise (·.position < ·.position)

theorem Ordered.push {ch : Chain} {t : Token} {ts : List Token} (h : ch.Ordered (t :: ts))
    (kind : ElementKind) (names : List (List Char)) :
    Ordered ⟨⟨t.position, kind⟩ :: ch.elements, names⟩ ts where
  elements := .cons (fun e he => h.before e he t List.mem_cons_self) h.elements
  before := by
    intro e he u hu
    rcases List.mem_cons.mp he with rfl | he
    · exact List.rel_of_pairwise_cons h.tokens hu
    · exact h.before e he u (List.mem_cons_of_mem t hu)
  tokens := h.tokens.of_cons

theorem Ordered.replace {ch : Chain} {t : Token} {ts : List Token} (h : ch.Ordered (t :: ts))
    {q : Nat} {before : List PatternElement} (hq : ch.elements = ⟨q, .separator⟩ :: before)
    (kind : ElementKind) (names : List (List Char)) :
    Ordered ⟨⟨q, kind⟩ :: before, names⟩ ts where
  elements := by
    have helements := hq ▸ h.elements
    exact .cons (fun e he => List.rel_of_pairwise_cons helements he) helements.of_cons
  before := by
    intro e he u hu
    have hbefore := hq ▸ h.before
    rcases List.mem_cons.mp he with rfl | he
    · exact hbefore _ List.mem_cons_self u (List.mem_cons_of_mem t hu)
    · exact hbefore e (List.mem_cons_of_mem _ he) u (List.mem_cons_of_mem t hu)
  tokens := h.tokens.of_cons

theorem Ordered.step {o : PatternOptions} {ch ch' : Chain} {t : Token} {ts : List Token}
    (hplaced : Placed o ts.isEmpty ch t ch') (h : ch.Ordered (t :: ts)) : ch'.Ordered ts := by
  cases hplaced with
  | separator p => exact h.push _ _
  | rest p q before _ hq => exact h.replace hq _ _
  | segments p _ => exact h.push _ _
  | captureRest p q offset s name before _ _ _ hq => exact h.replace hq _ _
  | captureRestAlone p offset s name => exact h.push _ _
  | single p s kind names => exact h.push _ _

/-- Neighbours fit, and where a segment comes next the chain has ended with a separator or has not
begun. -/
structure Joined (ch : Chain) (ts : List Token) : Prop where
  /-- Of two neighbours the earlier one is a separator, or the later one starts at one. -/
  elements : ch.elements.IsChain fun later earlier =>
    earlier.kind = .separator ∨ later.kind.startsAtSeparator = true
  /-- Only a separator may come next, unless the chain ends with one or is empty. -/
  next : ch.elements = [] ∨ ch.EndsWithSeparator ∨ ∀ t ∈ ts.head?, t.isSeparator = true
  /-- Of two tokens side by side one is a separator. -/
  tokens : ts.IsChain fun t u => t.isSeparator = true ∨ u.isSeparator = true

theorem Joined.head {ch : Chain} {p : Nat} {s : List Char} {ts : List Token}
    (h : ch.Joined (.segment p s :: ts)) :
    ∀ e ∈ ch.elements.head?, e.kind = .separator := by
  intro e he
  rcases h.next with hnil | ⟨q, before, hq⟩ | hsep
  · simp [hnil] at he
  · obtain rfl : ⟨q, .separator⟩ = e := by simpa [hq] using he
    rfl
  · simp [Token.isSeparator] at hsep

theorem Joined.afterSegment {ch : Chain} {p : Nat} {s : List Char} {ts : List Token}
    (h : ch.Joined (.segment p s :: ts)) : ∀ t ∈ ts.head?, t.isSeparator = true := by
  intro t ht
  rcases h.tokens.rel_head? ht with hs | hsep
  · simp [Token.isSeparator] at hs
  · exact hsep

theorem Joined.push {ch : Chain} {p q : Nat} {s : List Char} {ts : List Token}
    (h : ch.Joined (.segment p s :: ts)) (kind : ElementKind) (names : List (List Char)) :
    Joined ⟨⟨q, kind⟩ :: ch.elements, names⟩ ts where
  elements := h.elements.cons fun e he => .inl (h.head e he)
  next := .inr (.inr h.afterSegment)
  tokens := h.tokens.tail

theorem Joined.replace {ch : Chain} {p q : Nat} {s : List Char} {ts : List Token}
    (h : ch.Joined (.segment p s :: ts)) {before : List PatternElement}
    (hq : ch.elements = ⟨q, .separator⟩ :: before) {kind : ElementKind}
    (hkind : kind.startsAtSeparator = true) (names : List (List Char)) :
    Joined ⟨⟨q, kind⟩ :: before, names⟩ ts where
  elements := (hq ▸ h.elements).tail.cons fun _ _ => .inr hkind
  next := .inr (.inr h.afterSegment)
  tokens := h.tokens.tail

theorem Joined.step {o : PatternOptions} {ch ch' : Chain} {t : Token} {ts : List Token}
    (hplaced : Placed o ts.isEmpty ch t ch') (h : ch.Joined (t :: ts)) : ch'.Joined ts := by
  cases hplaced with
  | separator p =>
    exact ⟨h.elements.cons fun _ _ => .inr rfl, .inr (.inl ⟨p, ch.elements, rfl⟩), h.tokens.tail⟩
  | rest p q before _ hq => exact h.replace hq rfl _
  | segments p _ => exact h.push _ _
  | captureRest p q offset s name before _ _ _ hq => exact h.replace hq rfl _
  | captureRestAlone p offset s name => exact h.push _ _
  | single p s kind names => exact h.push _ _

/-- The names given so far are those the elements record, latest first, each once. -/
structure Named (ch : Chain) : Prop where
  /-- The names are those of the elements. -/
  names : ch.names = ch.elements.flatMap fun e => e.kind.names.reverse
  /-- No name is given twice. -/
  nodup : ch.names.Nodup

theorem Named.step {o : PatternOptions} {isLast : Bool} {ch ch' : Chain} {t : Token}
    (hplaced : Placed o isLast ch t ch') (h : ch.Named) : ch'.Named := by
  cases hplaced with
  | separator p => exact ⟨h.names, h.nodup⟩
  | rest p q before _ hq => exact ⟨by simpa [hq, ElementKind.names] using h.names, h.nodup⟩
  | segments p _ => exact ⟨h.names, h.nodup⟩
  | captureRest p q offset s name before _ _ hfresh hq =>
    exact ⟨by simpa [hq, ElementKind.names] using h.names, List.nodup_cons.mpr ⟨hfresh, h.nodup⟩⟩
  | captureRestAlone p offset s name _ _ hfresh _ =>
    exact ⟨by simpa [ElementKind.names] using h.names, List.nodup_cons.mpr ⟨hfresh, h.nodup⟩⟩
  | single p s kind names _ _ hread =>
    obtain ⟨-, hnames, hnodup⟩ := readSegment_ok hread
    exact ⟨by rw [hnames, h.names]; rfl, hnodup h.nodup⟩

/-- Only the latest element may take all that is left of a path, and then nothing comes after it. -/
structure RestLast (ch : Chain) (ts : List Token) : Prop where
  /-- No earlier element takes all that is left. -/
  earlier : ∀ e ∈ ch.elements.tail, e.kind.isCatchAll = false
  /-- If the latest one does, no token may come or none comes. -/
  latest : ∀ e ∈ ch.elements.head?, e.kind.isCatchAll = true → ch.isClosed = true ∨ ts = []

/-- Where a token comes, no element takes all that is left. -/
theorem RestLast.isCatchAll_eq_false {ch : Chain} {t : Token} {ts : List Token}
    (h : ch.RestLast (t :: ts)) (hopen : ch.isClosed = false) :
    ∀ e ∈ ch.elements, e.kind.isCatchAll = false := by
  rcases helements : ch.elements with _ | ⟨e, before⟩
  · simp
  · have hlatest := h.latest e (by rw [helements]; rfl)
    have hearlier := h.earlier
    rw [helements] at hearlier
    refine List.forall_mem_cons.mpr ⟨?_, hearlier⟩
    simpa [hopen] using hlatest

theorem RestLast.step {o : PatternOptions} {ch ch' : Chain} {t : Token} {ts : List Token}
    (hopen : ch.isClosed = false) (hplaced : Placed o ts.isEmpty ch t ch')
    (h : ch.RestLast (t :: ts)) : ch'.RestLast ts := by
  have hall := h.isCatchAll_eq_false hopen
  have hbefore : ∀ {q before}, ch.elements = ⟨q, .separator⟩ :: before →
      ∀ e ∈ before, e.kind.isCatchAll = false := fun hq e he =>
    hall e (hq ▸ List.mem_cons_of_mem _ he)
  cases hplaced with
  | separator p => exact ⟨hall, by simp [Chain.push, ElementKind.isCatchAll]⟩
  | rest p q before hlast hq => exact ⟨hbefore hq, fun _ _ _ => .inr (List.isEmpty_iff.mp hlast)⟩
  | segments p _ => exact ⟨hall, by simp [Chain.push, ElementKind.isCatchAll]⟩
  | captureRest p q offset s name before _ _ _ hq => exact ⟨hbefore hq, fun _ _ _ => .inl rfl⟩
  | captureRestAlone p offset s name => exact ⟨hall, fun _ _ _ => .inl rfl⟩
  | single p s kind names _ _ hread =>
    have hkind : kind.isCatchAll = false := by
      rcases (readSegment_ok hread).1 with ⟨-, rfl⟩ | htakes
      · rfl
      · exact ElementKind.isCatchAll_of_takes htakes
    exact ⟨hall, by simp [hkind]⟩

/-- As long as there are no elements, a separator comes next, and the first element starts at
one. -/
structure Led (ch : Chain) (ts : List Token) : Prop where
  /-- The first element starts at a separator. -/
  first : ∀ e ∈ ch.elements.getLast?, e.kind.startsAtSeparator = true
  /-- A separator comes first. -/
  next : ch.elements = [] → ∀ t ∈ ts.head?, t.isSeparator = true

theorem Led.push {ch : Chain} {ts : List Token} (hne : ch.elements ≠ []) (h : ch.Led ts)
    (e : PatternElement) (names : List (List Char)) (rest : List Token) :
    Led ⟨e :: ch.elements, names⟩ rest where
  first := by
    rw [List.getLast?_cons_of_ne_nil hne]
    exact h.first
  next := by simp

theorem Led.replace {ch : Chain} {q : Nat} {before : List PatternElement} {ts : List Token}
    (hq : ch.elements = ⟨q, .separator⟩ :: before) (h : ch.Led ts) {kind : ElementKind}
    (hkind : kind.startsAtSeparator = true) (names : List (List Char)) (rest : List Token) :
    Led ⟨⟨q, kind⟩ :: before, names⟩ rest where
  first := by
    by_cases hbefore : before = []
    · simp [hbefore, hkind]
    · have hfirst := hq ▸ h.first
      rw [List.getLast?_cons_of_ne_nil hbefore] at hfirst ⊢
      exact hfirst
  next := by simp

theorem Led.step {o : PatternOptions} {ch ch' : Chain} {t : Token} {ts : List Token}
    (hplaced : Placed o ts.isEmpty ch t ch') (h : ch.Led (t :: ts)) : ch'.Led ts := by
  -- a segment never comes first
  have hsegment : ∀ {p s}, t = .segment p s → ch.elements ≠ [] := by
    rintro p s rfl hnil
    simpa [Token.isSeparator] using h.next hnil _ rfl
  cases hplaced with
  | separator p =>
    by_cases hnil : ch.elements = []
    · exact ⟨by simp [Chain.push, hnil, ElementKind.startsAtSeparator], by simp [Chain.push]⟩
    · exact h.push hnil _ _ _
  | rest p q before _ hq => exact h.replace hq rfl _ _
  | segments p _ => exact h.push (hsegment rfl) _ _ _
  | captureRest p q offset s name before _ _ _ hq => exact h.replace hq rfl _ _
  | captureRestAlone p offset s name => exact h.push (hsegment rfl) _ _ _
  | single p s kind names => exact h.push (hsegment rfl) _ _ _

end Chain

/-! ### Parsed patterns -/

section Parsed

variable {o : PatternOptions} {text : List Char} {p : Pattern}

/-- The elements of a pattern are the chain of its tokens. -/
theorem parse_ok (h : Pattern.parse o text = .ok p) : ∃ ts ch, tokens o.separator text = .ok ts ∧
    Chain.placeAll o ⟨[], []⟩ ts = .ok ch ∧ p = ⟨text, o, ch.elements.reverse⟩ := by
  unfold Pattern.parse at h
  split at h
  · next elements helements =>
    obtain ⟨ts, hts, hplaced⟩ := bind_eq_ok.mp helements
    obtain ⟨ch, hch, hreverse⟩ := bind_eq_ok.mp hplaced
    obtain rfl := pure_eq_ok.mp hreverse
    exact ⟨ts, ch, hts, hch, (Except.ok.inj h).symm⟩
  · simp at h

/-- A pattern keeps the text it is read from and the options. -/
theorem text_of_parse (h : Pattern.parse o text = .ok p) : p.text = text ∧ p.options = o := by
  obtain ⟨ts, ch, -, -, rfl⟩ := parse_ok h
  exact ⟨rfl, rfl⟩

theorem separator_of_parse (h : Pattern.parse o text = .ok p) : p.separator = o.separator :=
  congrArg PatternOptions.separator (text_of_parse h).2

/-- **The elements of a pattern are those that tokens become.** -/
theorem fromToken_of_parse (h : Pattern.parse o text = .ok p) : ∀ k ∈ p.kinds, k.FromToken o := by
  obtain ⟨ts, ch, -, hch, rfl⟩ := parse_ok h
  have hall : ∀ e ∈ ch.elements, e.kind.FromToken o := by
    refine Chain.placeAll_invariant (fun ch _ => ∀ e ∈ ch.elements, e.kind.FromToken o)
      (fun ch t rest ch' _ hplaced hch => ?_) hch (by simp)
    obtain ⟨e, before, helements, hbefore, he⟩ := hplaced.latest
    rw [helements]
    exact List.forall_mem_cons.mpr ⟨he, fun e' he' => hch e' (hbefore.subset he')⟩
  intro k hk
  obtain ⟨e, he, rfl⟩ := List.mem_map.mp hk
  exact hall e (List.mem_reverse.mp he)

/-- Elements stand in the order of their places. -/
theorem pairwise_position_of_parse (h : Pattern.parse o text = .ok p) :
    p.elements.Pairwise (·.position < ·.position) := by
  obtain ⟨ts, ch, hts, hch, rfl⟩ := parse_ok h
  have hordered : ch.Ordered [] :=
    Chain.placeAll_invariant _ (fun _ _ _ _ _ => Chain.Ordered.step) hch
      ⟨.nil, by simp, pairwise_position_tokensFrom hts⟩
  exact List.pairwise_reverse.mpr hordered.elements

/-- Of two neighbours the first is a separator, or the second starts at one. -/
theorem adjoining_of_parse (h : Pattern.parse o text = .ok p) : Adjoining p.elements := by
  obtain ⟨ts, ch, hts, hch, rfl⟩ := parse_ok h
  have hjoined : ch.Joined [] :=
    Chain.placeAll_invariant _ (fun _ _ _ _ _ => Chain.Joined.step) hch
      ⟨.nil, .inl rfl, isChain_tokensFrom hts⟩
  exact List.isChain_reverse.mpr hjoined.elements

/-- Only the last element takes all that is left of a path. -/
theorem isCatchAll_dropLast_of_parse (h : Pattern.parse o text = .ok p) :
    ∀ e ∈ p.elements.dropLast, e.kind.isCatchAll = false := by
  obtain ⟨ts, ch, hts, hch, rfl⟩ := parse_ok h
  have hlast : ch.RestLast [] :=
    Chain.placeAll_invariant _ (fun _ _ _ _ hopen hplaced => Chain.RestLast.step hopen hplaced)
      hch ⟨by simp, by simp⟩
  simpa [List.dropLast_reverse] using hlast.earlier

/-- A text that is not empty has elements. -/
theorem elements_ne_nil_of_parse (h : Pattern.parse o text = .ok p) (hne : text ≠ []) :
    p.elements ≠ [] := by
  obtain ⟨ts, ch, hts, hch, rfl⟩ := parse_ok h
  have hts' : ts ≠ [] := by
    rintro rfl
    exact hne (flatMap_text_tokensFrom hts).symm
  -- as long as there are no elements, tokens are still to come
  have hinv := Chain.placeAll_invariant (fun ch ts => ch.elements = [] → ts ≠ [])
    (fun ch t rest ch' _ hplaced _ hnil => by cases hplaced <;> simp [Chain.push] at hnil)
    hch fun _ => hts'
  simpa using hinv

/-- The first element of a text that starts with the separator starts at one. -/
theorem startsAtSeparator_of_parse (h : Pattern.parse o text = .ok p)
    (hopen : o.separator ≠ '{') (hclose : o.separator ≠ '}')
    (hhead : text.head? = some o.separator) :
    ∀ e ∈ p.elements.head?, e.kind.startsAtSeparator = true := by
  obtain ⟨ts, ch, hts, hch, rfl⟩ := parse_ok h
  have hfirst : ∀ t ∈ ts.head?, t.isSeparator = true := by
    rcases text with _ | ⟨c, s⟩
    · simp at hhead
    · obtain rfl : c = o.separator := Option.some.inj hhead
      obtain ⟨next, rest, -, -, rfl⟩ := tokensFrom_cons hts
      simp [Braces.cutsAt, Braces.outside, hopen, hclose, Token.isSeparator]
  have hled : ch.Led [] :=
    Chain.placeAll_invariant _ (fun _ _ _ _ _ => Chain.Led.step) hch ⟨by simp, fun _ => hfirst⟩
  rw [List.head?_reverse]
  exact hled.first

theorem named_of_placeAll {ts : List Token} {ch : Chain}
    (h : Chain.placeAll o ⟨[], []⟩ ts = .ok ch) : ch.Named :=
  Chain.placeAll_invariant (fun ch _ => ch.Named) (fun _ _ _ _ _ hplaced hnamed =>
    hnamed.step hplaced) h ⟨rfl, .nil⟩

/-- The names of the chain are those of the pattern, latest first. -/
theorem Chain.Named.names_reverse {ch : Chain} (h : ch.Named) (text : List Char) :
    (Pattern.mk text o ch.elements.reverse).names = ch.names.reverse := by
  rw [h.names, Pattern.names, Pattern.kinds, List.flatMap_map, List.reverse_flatMap]
  simp [Function.comp_def]

/-- No name is recorded twice. -/
theorem names_nodup_of_parse (h : Pattern.parse o text = .ok p) : p.names.Nodup := by
  obtain ⟨ts, ch, hts, hch, rfl⟩ := parse_ok h
  have hnamed := named_of_placeAll hch
  rw [hnamed.names_reverse]
  exact (List.reverse_perm ch.names).symm.nodup hnamed.nodup

end Parsed

end PathRouting
