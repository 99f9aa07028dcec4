import PathRouting.Proofs.Config
import PathRouting.Proofs.Path.Split
import PathRouting.Proofs.Pattern.Match
import PathRouting.Proofs.Pattern.Written
import PathRouting.Proofs.Percent
import PathRouting.Proofs.Search.Offset

/-!
# Paths written from patterns

A pattern of separators, literal texts and captures is a template for paths: once every capture is
given a value, the texts are written one after the other, with escapes for the characters that paths
give a meaning of their own.  Matched with the pattern, the path gives back the values.

## Main definitions

* `ElementKind.filling?` — the text that stands for an element of a template.
* `Expands` — the paths that are written from a template.
* `expand` — the one with no more escapes than needed.

## Main results

* `readRuns_of_expands` — the elements of a path that is written from a template.
* `search_of_filled` — the template matches these elements.
* `match?_of_expands` — a path written from a pattern is matched with the values that it was
  written with.
-/

namespace PathRouting

open Text Percent

/-! ### Templates -/

namespace ElementKind

/-- Whether the element is a separator, a literal text or a capture. -/
def isTemplate : ElementKind → Bool
  | separator => true
  | literal .. => true
  | capture .. => true
  | _ => false

/-- The text that stands for a literal text or a capture, the values of captures being given. -/
def filling? (values : List Char → List Char) : ElementKind → Option (List Char)
  | literal text _ => some text
  | capture name _ => some (values name)
  | _ => none

/-- Whether the value of a capture is not empty and satisfies the constraint. -/
def accepts (values : List Char → List Char) : ElementKind → Bool
  | capture name constraint =>
    values name ≠ [] && constraint.all fun (_, re) => re.isMatch (values name)
  | _ => true

end ElementKind

/-- Whether a character has to be escaped where a text stands for a segment. -/
def mustEscape (separator c : Char) : Bool := c == '%' || c == ';' || c == separator

/-- Whether a path is written from the elements of a template: the separator for each separator, and
for any other element the text that stands for it, with escapes. -/
inductive Expands (separator : Char) (values : List Char → List Char) :
    List ElementKind → List Char → Prop
  /-- Nothing is written for no elements. -/
  | nil : Expands separator values [] []
  /-- The separator is written as it is. -/
  | separator {kinds : List ElementKind} {t : List Char} (rest : Expands separator values kinds t) :
      Expands separator values (.separator :: kinds) (separator :: t)
  /-- Any other text is written with escapes. -/
  | segment {k : ElementKind} {kinds : List ElementKind} {s e t : List Char}
      (filling : k.filling? values = some s) (encodes : Encodes (mustEscape separator) s e)
      (rest : Expands separator values kinds t) : Expands separator values (k :: kinds) (e ++ t)

/-- The path that is written with no more escapes than needed. -/
def expand (separator : Char) (values : List Char → List Char) (kinds : List ElementKind) :
    List Char :=
  kinds.flatMap fun k => ((k.filling? values).map (encode (mustEscape separator))).getD [separator]

section Templates

variable {separator : Char} {values : List Char → List Char} {kinds : List ElementKind}
  {s t e : List Char}

theorem expands_expand (h : ∀ k ∈ kinds, k.isTemplate = true) :
    Expands separator values kinds (expand separator values kinds) := by
  induction kinds with
  | nil => exact .nil
  | cons k kinds ih =>
    obtain ⟨hk, hkinds⟩ := List.forall_mem_cons.mp h
    cases k with
    | separator => exact .separator (ih hkinds)
    | literal text caseSensitive => exact .segment rfl (encodes_encode _ _) (ih hkinds)
    | capture name constraint => exact .segment rfl (encodes_encode _ _) (ih hkinds)
    | _ => simp [ElementKind.isTemplate] at hk

theorem semicolon_notMem_of_encodes (h : Encodes (mustEscape separator) s e) : ';' ∉ e := by
  intro hmem
  rcases mem_of_encodes h hmem with heq | hdigit | hplain
  · exact absurd heq (by decide)
  · exact absurd hdigit (by decide)
  · simp [mustEscape] at hplain

theorem separator_notMem_of_encodes (hpercent : separator ≠ '%')
    (hdigit : isHexDigit separator = false) (h : Encodes (mustEscape separator) s e) :
    separator ∉ e := by
  intro hmem
  rcases mem_of_encodes h hmem with heq | hdigit' | hplain
  · exact hpercent heq
  · simp [hdigit] at hdigit'
  · simp [mustEscape] at hplain

end Templates

/-! ### The path of a template -/

section Paths

variable {options : PathOptions} {values : List Char → List Char} {kinds : List ElementKind}
  {s t e : List Char}

/-- A text with escapes is read as a segment that has the text for its value. -/
theorem read_of_encodes (hdecode : options.decodeSegments = true) {separator : Char}
    (h : Encodes (mustEscape separator) s e) (offset : Nat) :
    Segment.read options offset e = .ok ⟨offset, e, s, []⟩ := by
  obtain ⟨htake, hdrop⟩ := span_of_notMem (semicolon_notMem_of_encodes h)
  have hmatch : Segment.matchPart options e = e := by
    rw [Segment.matchPart, htake, ite_self]
  have hmatrix : Segment.matrixPart options e = [] := by
    rw [Segment.matrixPart, hdrop, ite_self]
  have hvalue : Segment.valueOf options offset e = .ok s := by
    rw [Segment.valueOf, if_pos hdecode, hmatch]
    exact decode_of_encodes (by simp [mustEscape]) h offset
  rw [Segment.read_eq, hmatrix, hvalue]
  rfl

/-- Whether an element of a path is what an element of a template is filled with. -/
inductive FilledWith (values : List Char → List Char) : ElementKind → PathElement → Prop
  /-- A separator stands for a separator. -/
  | separator (offset : Nat) (c : Char) : FilledWith values .separator (.separator offset c)
  /-- A segment without matrix variables stands for a text. -/
  | segment {k : ElementKind} (s : Segment) (filling : k.filling? values = some s.value)
      (plain : s.matrix = []) : FilledWith values k (.segment s)

/-- Where a separator comes next in a template, one comes next in the path. -/
theorem runs_head_of_expands {separator : Char} (h : Expands separator values kinds t)
    (hhead : ∀ k ∈ kinds.head?, k.startsAtSeparator = true) :
    ∀ r ∈ (runs separator t).head?, r = .separator := by
  cases h with
  | nil => simp [runs]
  | separator rest => simp [runs_separator]
  | @segment k kinds s e t filling encodes rest =>
    have hk := hhead k rfl
    cases k <;> simp [ElementKind.filling?, ElementKind.startsAtSeparator] at filling hk

/-- **The elements of a path that is written from a template** are those it is filled with. -/
theorem readRuns_of_expands (hpercent : options.separator ≠ '%')
    (hdigit : isHexDigit options.separator = false) (hdecode : options.decodeSegments = true)
    (h : Expands options.separator values kinds t)
    (hchain : kinds.IsChain fun k k' => k = .separator ∨ k'.startsAtSeparator = true)
    (hne : ∀ k ∈ kinds, ∀ s, k.filling? values = some s → s ≠ []) (offset : Nat) :
    ∃ es, PathElement.readRuns options offset (runs options.separator t) = .ok es ∧
      List.Forall₂ (FilledWith values) kinds es := by
  induction h generalizing offset with
  | nil => exact ⟨[], rfl, .nil⟩
  | separator _ ih =>
    obtain ⟨es, hread, hes⟩ := ih hchain.tail (List.forall_mem_cons.mp hne).2
      (offset + options.separator.utf8Size)
    refine ⟨.separator offset options.separator :: es, ?_, .cons (.separator _ _) hes⟩
    rw [runs_separator, PathElement.readRuns, hread]
    rfl
  | @segment k kinds s e t filling encodes rest ih =>
    obtain ⟨hk, hkinds⟩ := List.forall_mem_cons.mp hne
    have hnotSeparator : k ≠ .separator := by
      rintro rfl
      simp [ElementKind.filling?] at filling
    -- only a separator may follow, so the text is a run of its own
    have hhead := runs_head_of_expands rest fun k' hk' =>
      (hchain.rel_head? hk').resolve_left hnotSeparator
    have hruns := runs_append (ne_nil_of_encodes encodes (hk s filling))
      (separator_notMem_of_encodes hpercent hdigit encodes) hhead
    obtain ⟨es, hread, hes⟩ := ih hchain.tail hkinds (offset + byteLength e)
    refine ⟨.segment ⟨offset, e, s, []⟩ :: es, ?_, .cons (.segment _ filling rfl) hes⟩
    rw [hruns, PathElement.readRuns, read_of_encodes hdecode encodes, hread]
    rfl

end Paths

/-! ### Matching -/

section Matching

variable {values : List Char → List Char} {q : Query}

/-- The bindings of names to their values. -/
def bindingsOf (values : List Char → List Char) (names : List (List Char)) : List Binding :=
  names.map fun n => ⟨n, values n, []⟩

/-- An element of a template takes what it is filled with. -/
theorem takeAt_of_filled (hextract : q.extract = true) {k : ElementKind} {x : PathElement}
    (h : FilledWith values k x) (haccepts : k.accepts values = true) {index : Nat}
    (hx : q.elements[index]? = some x) :
    k.fixed = true ∧ q.takeAt k index = some (bindingsOf values k.names) := by
  cases h with
  | separator offset c =>
    refine ⟨rfl, ?_⟩
    simp [Query.takeAt, ElementKind.isSeparator, Query.isSeparator, hx, bindingsOf,
      ElementKind.names]
  | segment s filling plain =>
    have hsegment : q.segment? index = some s := by
      rw [Query.segment?, hx]
      rfl
    cases k with
    | literal text caseSensitive =>
      obtain rfl := Option.some.inj filling
      refine ⟨rfl, ?_⟩
      simp [Query.takeAt, ElementKind.isSeparator, hsegment, Query.take?, textMatches, bindingsOf,
        ElementKind.names]
    | capture name constraint =>
      obtain hvalue : values name = s.value := Option.some.inj filling
      simp only [ElementKind.accepts, hvalue, Bool.and_eq_true, decide_eq_true_eq] at haccepts
      obtain ⟨hnonempty, hconstraint⟩ := haccepts
      have hmatch : constraint.any (fun (_, re) => !re.isMatch s.value) = false := by
        rcases constraint with _ | ⟨source, re⟩
        · rfl
        · simpa using hconstraint
      refine ⟨rfl, ?_⟩
      simp [Query.takeAt, ElementKind.isSeparator, hsegment, Query.take?, hmatch, hnonempty,
        Query.recorded, hextract, bindingsOf, ElementKind.names, hvalue, plain]
    | _ => simp [ElementKind.filling?] at filling

/-- **A template matches the elements that it is filled with** and records the values. -/
theorem search_of_filled (hextract : q.extract = true) (hwhole : q.ofStart = false)
    {elements : List PatternElement} {es : List PathElement}
    (h : List.Forall₂ (fun e x => FilledWith values e.kind x) elements es)
    (haccepts : ∀ e ∈ elements, e.kind.accepts values = true) {index : Nat}
    (hindex : index ≤ q.length) (hes : q.elements.toList.drop index = es) (afterSegment : Bool) :
    search q elements index afterSegment = some ⟨bindingsOf values (namesOf elements), none⟩ := by
  induction h generalizing index afterSegment with
  | nil =>
    have hend : index = q.length := by
      have hle := List.drop_eq_nil_iff.mp hes
      rw [Array.length_toList] at hle
      exact Nat.le_antisymm hindex hle
    rw [search_nil, Query.finish_whole hwhole]
    exact ⟨.inl hend, rfl⟩
  | @cons e x elements es hx _ ih =>
    obtain ⟨he, helements⟩ := List.forall_mem_cons.mp haccepts
    have hget : q.elements[index]? = some x := by
      have hhead := congrArg List.head? hes
      rw [List.head?_drop, Array.getElem?_toList] at hhead
      exact hhead
    have hrest : q.elements.toList.drop (index + 1) = es := by
      rw [← List.tail_drop, hes, List.tail_cons]
    obtain ⟨hfixed, htake⟩ := takeAt_of_filled hextract hx he hget
    have hlt : index < q.length := (Array.getElem?_eq_some_iff.mp hget).1
    rw [search_fixed hfixed, htake, Option.bind_some, ih helements hlt hrest]
    simp [Outcome.prepend, bindingsOf, namesOf]

/-- Bindings of different names are kept as they are, without matrix variables. -/
theorem ofBindings_bindingsOf {names : List (List Char)} (h : names.Nodup) :
    MatchInfo.ofBindings (bindingsOf values names) = ⟨names.map fun n => (n, values n), []⟩ := by
  have hnames : (bindingsOf values names).map (·.name) = names := by
    simp [bindingsOf, Function.comp_def]
  rw [ofBindings_eq (by rwa [hnames])]
  simp [bindingsOf, Function.comp_def, List.filter_map]

end Matching

/-! ### Patterns -/

section Patterns

variable {o : PatternOptions} {text : List Char} {p : Pattern} {values : List Char → List Char}

/-- What stands for an element of a pattern is not empty. -/
theorem filling_ne_nil_of_parse (h : Pattern.parse o text = .ok p)
    (haccepts : ∀ k ∈ p.kinds, k.accepts values = true) :
    ∀ k ∈ p.kinds, ∀ s, k.filling? values = some s → s ≠ [] := by
  intro k hk s hs
  cases k with
  | literal t caseSensitive =>
    obtain rfl := Option.some.inj hs
    obtain ⟨e, he, hkind⟩ := List.mem_map.mp hk
    have hnonempty := (covers_of_parse h).1.nonempty _ (List.mem_map_of_mem he)
    simpa [PatternElement.stretch, hkind, ElementKind.written] using hnonempty
  | capture name constraint =>
    obtain rfl := Option.some.inj hs
    have haccept := haccepts _ hk
    simp only [ElementKind.accepts, Bool.and_eq_true, decide_eq_true_eq] at haccept
    exact haccept.1
  | _ => simp [ElementKind.filling?] at hs

/-- **A path written from a pattern is matched with the values that it was written with.**  The
pattern is made of separators, literal texts and captures, and the values of captures satisfy their
constraints; there is such a path, whatever the values are. -/
theorem match?_of_expands (ho : o.validate = .ok o) (hdecode : o.path.decodeSegments = true)
    (h : Pattern.parse o text = .ok p) (htemplate : ∀ k ∈ p.kinds, k.isTemplate = true)
    (haccepts : ∀ k ∈ p.kinds, k.accepts values = true) :
    Expands o.separator values p.kinds (expand o.separator values p.kinds) ∧
      ∀ t, Expands o.separator values p.kinds t → ∃ path, Path.parse t o.path = .ok path ∧
        p.match? path = some ⟨p.names.map fun n => (n, values n), []⟩ := by
  refine ⟨expands_expand htemplate, fun t ht => ?_⟩
  have hpercent : o.path.separator ≠ '%' := by
    intro heq
    exact notMem_reservedChars ho (by rw [PatternOptions.separator, heq]; decide)
  have hdigit : isHexDigit o.path.separator = false := by
    rw [← Bool.not_eq_true]
    intro hdigit
    have halpha := isAlphanumeric_separator ho
    rw [PatternOptions.separator, isAlphanumeric_of_isHexDigit hdigit] at halpha
    simp at halpha
  have hchain : p.kinds.IsChain fun k k' => k = .separator ∨ k'.startsAtSeparator = true :=
    (List.isChain_map _).mpr (adjoining_of_parse h)
  obtain ⟨es, hread, hes⟩ := readRuns_of_expands hpercent hdigit hdecode ht hchain
    (filling_ne_nil_of_parse h haccepts) 0
  refine ⟨.whole t es o.path, map_eq_ok.mpr ⟨es, hread, rfl⟩, ?_⟩
  have hfilled := List.forall₂_map_left_iff.mp hes
  by_cases hne : p.elements = []
  · -- nothing is written for the pattern without elements
    rw [hne] at hfilled
    cases hfilled
    simp [Pattern.match?, Pattern.matchWith, hne, Path.isEmpty, Pattern.names, Pattern.kinds,
      MatchInfo.empty]
  · have hpath : es ≠ [] := by
      rintro rfl
      exact hne (List.forall₂_nil_right_iff.mp hfilled)
    have hsearch := search_of_filled (q := p.query (.whole t es o.path) true false) rfl rfl hfilled
      (fun e he => haccepts e.kind (List.mem_map_of_mem he)) (Nat.zero_le _) (by
        simp [Pattern.query]) false
    rw [Pattern.match?, matchWith_eq h hne, hsearch, namesOf_elements]
    simp [Path.isEmpty, hpath, ofBindings_bindingsOf (names_nodup_of_parse h)]

/-- Two values written into a path, one of them with characters that have to be escaped. -/
theorem match?_of_expands_constraint : ∃ p path,
    Pattern.parse .default "/{a}/%;/{n:[0-9]+}".toList = .ok p ∧
    Path.parse "/x%2Fü%25/%25%3B/42".toList .http = .ok path ∧
    p.match? path = some ⟨[(['a'], "x/ü%".toList), (['n'], ['4', '2'])], []⟩ := by
  let values : List Char → List Char := fun n => if n = ['a'] then "x/ü%".toList else ['4', '2']
  have hread : (Pattern.parse .default "/{a}/%;/{n:[0-9]+}".toList).toOption.map (fun p =>
      (p.kinds.all fun k => k.isTemplate && k.accepts values, p.names,
        expand '/' values p.kinds)) =
      some (true, [['a'], ['n']], "/x%2Fü%25/%25%3B/42".toList) := by decide +kernel
  obtain ⟨p, hp, heq⟩ := Option.map_eq_some_iff.mp hread
  rw [toOption_eq_some] at hp
  simp only [Prod.mk.injEq, List.all_eq_true, Bool.and_eq_true] at heq
  obtain ⟨hkinds, hnames, hexpand⟩ := heq
  obtain ⟨hexpands, hmatch⟩ := match?_of_expands rfl rfl hp
    (fun k hk => (hkinds k hk).1) (fun k hk => (hkinds k hk).2)
  obtain ⟨path, hpath, hinfo⟩ := hmatch _ hexpands
  rw [hnames] at hinfo
  exact ⟨p, path, hp, hexpand ▸ hpath, hinfo⟩

end Patterns

end PathRouting
