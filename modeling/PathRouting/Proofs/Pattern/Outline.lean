import PathRouting.Proofs.Pattern.Chain

/-!
# Patterns without places

A pattern matches by the kinds of its elements; their places serve to report faults and to tell
elements apart.  Reading a text without keeping track of places is simpler, and what is read that
way of one text can be put together with what is read of another one.

## Main definitions

* `Token.content`, `contentsFrom` — tokens without places, and those of a text.
* `Outline` — a chain of elements without places.
* `Outline.place`, `Outline.placeAll`, `Outline.read` — how a chain without places is read.

## Main results

* `outline_place`, `outline_placeAll`, `content_tokensFrom` — reading with places and without.
* `read_of_parse`, `parse_of_read` — a text is a pattern when it can be read without places.
-/

namespace PathRouting

/-! ### Tokens -/

/-- A token without its place: the text of a segment, or nothing for a separator. -/
def Token.content : Token → Option (List Char)
  | .separator _ => none
  | .segment _ t => some t

/-- A character put before tokens without places. -/
def consContent (c : Char) : List (Option (List Char)) → List (Option (List Char))
  | some t :: rest => some (c :: t) :: rest
  | rest => some [c] :: rest

/-- The tokens of a text without their places, if it has no fault. -/
def contentsFrom (separator : Char) : Braces → List Char → Option (List (Option (List Char)))
  | b, [] => if b.depth = 0 then some [] else none
  | b, c :: s =>
    (b.step c).toOption.bind fun next =>
      (contentsFrom separator next s).map fun rest =>
        if b.cutsAt separator c then none :: rest else consContent c rest

theorem map_content_cons (position : Nat) (c : Char) (ts : List Token) :
    (Token.cons position c ts).map Token.content = consContent c (ts.map Token.content) := by
  rcases ts with _ | ⟨_ | ⟨p, t⟩, rest⟩ <;> rfl

/-- Places make no difference to the tokens of a text. -/
theorem content_tokensFrom (separator : Char) (b : Braces) (position : Nat) (s : List Char) :
    (tokensFrom separator b position s).toOption.map (·.map Token.content)
      = contentsFrom separator b s := by
  induction s generalizing b position with
  | nil =>
    rw [tokensFrom, contentsFrom]
    split <;> rfl
  | cons c s ih =>
    rw [tokensFrom, contentsFrom]
    cases b.step c with
    | error cause => rfl
    | ok next =>
      simp only [toOption_map, toOption_ok, Option.bind_some, ← ih next (position + 1)]
      rcases (tokensFrom separator next (position + 1) s).toOption with _ | rest
      · rfl
      · simp only [Option.map_some]
        split
        · rfl
        · rw [map_content_cons]

/-! ### Chains -/

/-- A chain of elements without their places. -/
structure Outline where
  /-- The kinds of the elements, latest first. -/
  kinds : List ElementKind
  /-- The names given. -/
  names : List (List Char)

/-- A chain without places. -/
def Chain.outline (ch : Chain) : Outline := ⟨ch.elements.map (·.kind), ch.names⟩

namespace Outline

/-- Nothing read. -/
def empty : Outline := ⟨[], []⟩

/-- One more element. -/
def push (l : Outline) (kind : ElementKind) : Outline := { l with kinds := kind :: l.kinds }

/-- One more element that takes in the separator before it, if there is one. -/
def pushWithSeparator (l : Outline) (kind : Bool → ElementKind) : Outline :=
  match l.kinds with
  | .separator :: before => { l with kinds := kind true :: before }
  | _ => l.push (kind false)

/-- Whether the last element captures the rest. -/
def isClosed (l : Outline) : Bool :=
  match l.kinds with
  | .captureRest .. :: _ => true
  | _ => false

/-- The chain with the element of one token, if it has no fault. -/
def place (o : PatternOptions) (isLast : Bool) (l : Outline) (t : Option (List Char)) :
    Option Outline :=
  if l.isClosed then none
  else match t with
  | none => some (l.push .separator)
  | some s =>
    if s = ['*', '*'] then
      some (if isLast then l.pushWithSeparator fun taken =>
          if taken then .rest o.separator else .segments
        else l.push .segments)
    else match findRest s with
    | some offset =>
      (readRestName 0 offset s).toOption.bind fun name =>
        (addName l.names 0 name).toOption.map fun names =>
          { l with names }.pushWithSeparator fun taken =>
            .captureRest name (if taken then some o.separator else none)
    | none => (readSegment o l.names 0 s).toOption.map fun r => ⟨r.1 :: l.kinds, r.2⟩

/-- The chain with the elements of all tokens. -/
def placeAll (o : PatternOptions) (l : Outline) : List (Option (List Char)) → Option Outline
  | [] => some l
  | t :: rest => (l.place o rest.isEmpty t).bind fun l => placeAll o l rest

/-- The chain of a text. -/
def read (o : PatternOptions) (text : List Char) : Option Outline :=
  (contentsFrom o.separator .outside text).bind (placeAll o empty)

end Outline

theorem isClosed_outline (ch : Chain) : ch.outline.isClosed = ch.isClosed := by
  obtain ⟨elements, names⟩ := ch
  rcases elements with _ | ⟨⟨p, k⟩, before⟩
  · rfl
  · cases k <;> rfl

theorem outline_pushWithSeparator (ch : Chain) (position : Nat) (kind : Bool → ElementKind) :
    (ch.pushWithSeparator position kind).outline = ch.outline.pushWithSeparator kind := by
  obtain ⟨elements, names⟩ := ch
  rcases elements with _ | ⟨⟨p, k⟩, before⟩
  · rfl
  · cases k <;> rfl

theorem toOption_addName_place (names : List (List Char)) (position : Nat) (name : List Char) :
    (addName names position name).toOption = (addName names 0 name).toOption := by
  unfold addName
  split <;> rfl

theorem toOption_readSegment_place (o : PatternOptions) (names : List (List Char)) (position : Nat)
    (segment : List Char) :
    (readSegment o names position segment).toOption = (readSegment o names 0 segment).toOption := by
  have h : (readSegment o (names ++ []) position segment).toOption
      = (readSegment o names 0 segment).toOption.bind (keepApart []) :=
    toOption_readSegment o (by simp) 0 position segment
  simpa using h

/-- Places make no difference to the element of a token. -/
theorem outline_place (o : PatternOptions) (isLast : Bool) (ch : Chain) (t : Token) :
    (Chain.place o isLast ch t).toOption.map Chain.outline
      = ch.outline.place o isLast t.content := by
  unfold Chain.place Outline.place
  rw [isClosed_outline]
  dsimp only
  split
  · rfl
  · cases t with
    | separator p => rfl
    | segment p s =>
      dsimp only [Token.content]
      split
      · split
        · simp only [toOption_pure, Option.map_some, outline_pushWithSeparator]
        · rfl
      · cases findRest s with
        | none =>
          simp only [toOption_bind, toOption_pure, toOption_readSegment_place o _ p]
          show _ = (readSegment o ch.names 0 s).toOption.map _
          rcases (readSegment o ch.names 0 s).toOption with _ | r <;> rfl
        | some offset =>
          simp only [toOption_bind, toOption_pure, toOption_readRestName p 0,
            toOption_addName_place _ p]
          rcases (readRestName 0 offset s).toOption with _ | name
          · rfl
          · simp only [Option.bind_some]
            show _ = (addName ch.names 0 name).toOption.map _
            rcases (addName ch.names 0 name).toOption with _ | names
            · rfl
            · simp only [Option.bind_some, Option.map_some, outline_pushWithSeparator]
              rfl

/-- Places make no difference to the elements of all tokens. -/
theorem outline_placeAll (o : PatternOptions) (ch : Chain) (ts : List Token) :
    (Chain.placeAll o ch ts).toOption.map Chain.outline
      = ch.outline.placeAll o (ts.map Token.content) := by
  induction ts generalizing ch with
  | nil => rfl
  | cons t rest ih =>
    rw [Chain.placeAll, List.map_cons, Outline.placeAll, toOption_bind, List.isEmpty_map,
      ← outline_place]
    rcases (Chain.place o rest.isEmpty ch t).toOption with _ | ch'
    · rfl
    · exact ih ch'

/-! ### Patterns -/

section Patterns

variable {o : PatternOptions} {text : List Char} {p : Pattern}

/-- The kinds and the names of a pattern are read without places. -/
theorem read_of_parse (h : Pattern.parse o text = .ok p) :
    Outline.read o text = some ⟨p.kinds.reverse, p.names.reverse⟩ := by
  obtain ⟨ts, ch, hts, hch, rfl⟩ := parse_ok h
  have hcontents := content_tokensFrom o.separator .outside 0 text
  have houtline := outline_placeAll o ⟨[], []⟩ ts
  rw [tokens] at hts
  rw [hts] at hcontents
  rw [hch] at houtline
  have hnames := (named_of_placeAll hch).names_reverse (o := o) text
  rw [Outline.read, ← hcontents]
  show Outline.placeAll o Outline.empty (ts.map Token.content) = _
  rw [show Outline.empty = (Chain.mk [] []).outline from rfl, ← houtline, hnames]
  simp [Chain.outline, Pattern.kinds]

/-- A text that can be read without places is a pattern. -/
theorem parse_of_read {l : Outline} (h : Outline.read o text = some l) :
    ∃ p, Pattern.parse o text = .ok p ∧ p.kinds = l.kinds.reverse ∧ p.names = l.names.reverse := by
  obtain ⟨cs, hcs, hplace⟩ := Option.bind_eq_some_iff.mp h
  rw [← content_tokensFrom o.separator .outside 0 text, Option.map_eq_some_iff] at hcs
  obtain ⟨ts, hts, rfl⟩ := hcs
  have houtline := outline_placeAll o ⟨[], []⟩ ts
  rw [show (Chain.mk [] []).outline = Outline.empty from rfl, hplace, Option.map_eq_some_iff]
    at houtline
  obtain ⟨ch, hch, rfl⟩ := houtline
  rw [toOption_eq_some] at hts hch
  refine ⟨⟨text, o, ch.elements.reverse⟩, ?_, by simp [Pattern.kinds, Chain.outline],
    (named_of_placeAll hch).names_reverse text⟩
  have helements : Pattern.readElements o text = .ok ch.elements.reverse :=
    bind_eq_ok.mpr ⟨ts, hts, bind_eq_ok.mpr ⟨ch, hch, rfl⟩⟩
  rw [Pattern.parse, helements]

end Patterns

end PathRouting
