import PathRouting.Proofs.Pattern.Outline

/-!
# Texts put together

A text that starts with the separator, put after another text, is read as it is read alone: the
elements of the whole are those of both texts.  Only the names of the two have to differ.

## Main definitions

* `Outline.onto`, `Outline.ontoApart?` — elements put after those of another text, with their names
  unchecked and checked.

## Main results

* `contentsFrom_append` — the tokens of the whole.
* `placeAll_onto` — placing tokens after those of another text.
* `placeAll_append_of_head` — placing tokens after those of a text that may have a `**`.
* `read_append` — reading the whole.
* `parse_append` — the pattern of the whole.
* `fixed_of_read` — without `*` all elements are separators or take one segment.
-/

namespace PathRouting

/-! ### Tokens -/

section Tokens

variable {separator c : Char} {b next : Braces}

/-- Outside of all braces there is but one state. -/
def Braces.Settled (b : Braces) : Prop := b.depth = 0 → b = outside

theorem settled_outside : Braces.outside.Settled := fun _ => rfl

theorem Braces.Settled.step (h : b.Settled) (hstep : b.step c = .ok next) : next.Settled := by
  intro hdepth
  unfold Braces.step at hstep
  -- an escaped character and a backslash leave the depth as it is
  split at hstep
  · obtain rfl := Except.ok.inj hstep
    simp_all [Braces.Settled, Braces.outside]
  split at hstep
  · obtain rfl := Except.ok.inj hstep
    simp_all [Braces.Settled, Braces.outside]
  split at hstep
  · split at hstep
    · obtain rfl := Except.ok.inj hstep
      simp at hdepth
    · split at hstep
      · obtain rfl := Except.ok.inj hstep
        simp at hdepth
      · simp at hstep
  -- only the brace that closes the last one leads outside
  split at hstep
  · split at hstep
    · simp at hstep
    · exact (Except.ok.inj hstep).symm
    · obtain rfl := Except.ok.inj hstep
      simp at hdepth
  split at hstep
  · next hcolon =>
    obtain rfl := Except.ok.inj hstep
    simp only at hdepth
    omega
  · obtain rfl := Except.ok.inj hstep
    exact h hdepth

/-- A separator outside of braces cuts the text. -/
theorem contentsFrom_separator (hopen : separator ≠ '{') (hclose : separator ≠ '}')
    (s : List Char) : contentsFrom separator .outside (separator :: s)
      = (contentsFrom separator .outside s).map (none :: ·) := by
  rw [contentsFrom, Braces.step_outside hopen hclose]
  simp [Braces.cutsAt, Braces.outside, hopen, hclose]

theorem contentsFrom_nil_eq_some {cs : List (Option (List Char))} :
    contentsFrom separator b [] = some cs ↔ b.depth = 0 ∧ cs = [] := by
  rw [contentsFrom, Option.ite_none_right_eq_some, Option.some_inj, eq_comm (b := cs)]

theorem contentsFrom_cons_eq_some {s : List Char} {cs : List (Option (List Char))} :
    contentsFrom separator b (c :: s) = some cs ↔
      ∃ next rest, b.step c = .ok next ∧ contentsFrom separator next s = some rest ∧
        (if b.cutsAt separator c then none :: rest else consContent c rest) = cs := by
  rw [contentsFrom]
  cases hstep : b.step c <;> simp

theorem consContent_append (c : Char) (rest : List (Option (List Char)))
    (later : List (Option (List Char))) :
    consContent c (rest ++ none :: later) = consContent c rest ++ none :: later := by
  rcases rest with _ | ⟨_ | t, rest⟩ <;> rfl

/-- A character starts a segment, joins one, or leaves it as it is. -/
theorem mem_consContent {t : List Char} {rest : List (Option (List Char))}
    (h : some t ∈ consContent c rest) :
    t = [c] ∨ (∃ u, some u ∈ rest ∧ t = c :: u) ∨ some t ∈ rest := by
  rcases rest with _ | ⟨_ | u, rest⟩
  · exact .inl (by simpa [consContent] using h)
  · simp only [consContent, List.mem_cons, Option.some.injEq] at h
    exact h.imp_right fun h => .inr (List.mem_cons.mpr h)
  · simp only [consContent, List.mem_cons, Option.some.injEq] at h
    rcases h with rfl | h
    · exact .inr (.inl ⟨u, List.mem_cons_self, rfl⟩)
    · exact .inr (.inr (List.mem_cons_of_mem _ h))

/-- The tokens of a text with another one after it that starts with the separator. -/
theorem contentsFrom_append (hopen : separator ≠ '{') (hclose : separator ≠ '}')
    (hb : b.Settled) {s : List Char} {cs : List (Option (List Char))}
    (hs : contentsFrom separator b s = some cs) (t : List Char) :
    contentsFrom separator b (s ++ separator :: t)
      = (contentsFrom separator .outside (separator :: t)).map (cs ++ ·) := by
  induction s generalizing b cs with
  | nil =>
    obtain ⟨hdepth, rfl⟩ := contentsFrom_nil_eq_some.mp hs
    rw [hb hdepth, List.nil_append]
    exact (Option.map_id' ..).symm
  | cons c s ih =>
    obtain ⟨next, rest, hstep, hrest, rfl⟩ := contentsFrom_cons_eq_some.mp hs
    rw [List.cons_append, contentsFrom, hstep]
    simp only [toOption_ok, Option.bind_some, ih (hb.step hstep) hrest,
      contentsFrom_separator hopen hclose, Option.map_map]
    -- the text goes on with a separator, so no character joins the two
    congr 1
    funext later
    simp only [Function.comp_apply, consContent_append]
    split <;> rfl

/-- The segments of a text are made of its characters. -/
theorem mem_of_contentsFrom {s t : List Char} {cs : List (Option (List Char))}
    (h : contentsFrom separator b s = some cs) (ht : some t ∈ cs) : ∀ c ∈ t, c ∈ s := by
  induction s generalizing b cs t with
  | nil =>
    obtain ⟨-, rfl⟩ := contentsFrom_nil_eq_some.mp h
    simp at ht
  | cons c s ih =>
    obtain ⟨next, rest, -, hrest, rfl⟩ := contentsFrom_cons_eq_some.mp h
    have hlater : ∀ u, some u ∈ rest → ∀ d ∈ u, d ∈ c :: s :=
      fun u hu d hd => List.mem_cons_of_mem c (ih hrest hu d hd)
    split at ht
    · exact hlater t (by simpa using ht)
    · rcases mem_consContent ht with rfl | ⟨u, hu, rfl⟩ | ht
      · simp
      · intro d hd
        rcases List.mem_cons.mp hd with rfl | hd
        · exact List.mem_cons_self
        · exact hlater u hu d hd
      · exact hlater t ht

end Tokens

/-! ### Elements -/

theorem findRest_eq_none {s : List Char} (h : '*' ∉ s) : findRest s = none := by
  induction s with
  | nil => rfl
  | cons c s ih =>
    obtain ⟨-, hs⟩ := not_or.mp (mt List.mem_cons.mpr h)
    unfold findRest
    split
    · next heq => simp_all
    · next heq =>
      obtain ⟨-, rfl⟩ := List.cons.inj heq
      rw [ih hs, Option.map_none]
    · rfl

namespace Outline

variable {o : PatternOptions} {isLast : Bool} {first l l' : Outline} {t : Option (List Char)}

/-- The elements of another text put before a chain. -/
def onto (l first : Outline) : Outline := ⟨l.kinds ++ first.kinds, l.names ++ first.names⟩

/-- The elements of another text put before a chain, if it gives none of the names of that text. -/
def ontoApart? (first l : Outline) : Option Outline :=
  (keepApart first.names (l.kinds ++ first.kinds, l.names)).map fun r => ⟨r.1, r.2⟩

theorem ontoApart?_eq (first l : Outline) : ontoApart? first l
    = if ∀ n ∈ l.names, n ∉ first.names then some (l.onto first) else none := by
  rw [ontoApart?, keepApart]
  split <;> rfl

theorem ontoApart?_eq_some (h : ∀ n ∈ l.names, n ∉ first.names) :
    ontoApart? first l = some (l.onto first) :=
  (ontoApart?_eq first l).trans (if_pos h)

theorem ontoApart?_eq_none {n : List Char} (hn : n ∈ l.names) (hfirst : n ∈ first.names) :
    ontoApart? first l = none :=
  (ontoApart?_eq first l).trans (if_neg fun h => h n hn hfirst)

theorem isClosed_onto (h : l.kinds ≠ []) : (l.onto first).isClosed = l.isClosed := by
  obtain ⟨kinds, names⟩ := l
  rcases kinds with _ | ⟨k, before⟩
  · exact absurd rfl h
  · cases k <;> rfl

theorem pushWithSeparator_onto (h : l.kinds ≠ []) (kind : Bool → ElementKind) :
    (l.onto first).pushWithSeparator kind = (l.pushWithSeparator kind).onto first := by
  obtain ⟨kinds, names⟩ := l
  rcases kinds with _ | ⟨k, before⟩
  · exact absurd rfl h
  · cases k <;> rfl

@[simp] theorem names_pushWithSeparator (l : Outline) (kind : Bool → ElementKind) :
    (l.pushWithSeparator kind).names = l.names := by
  unfold pushWithSeparator
  split <;> rfl

/-- The element of a segment placed after the elements of another text. -/
theorem map_readSegment_onto (hnames : ∀ n ∈ l.names, n ∉ first.names) (s : List Char) :
    (readSegment o (l.names ++ first.names) 0 s).toOption.map
        (fun r => Outline.mk (r.1 :: (l.kinds ++ first.kinds)) r.2)
      = ((readSegment o l.names 0 s).toOption.map fun r => Outline.mk (r.1 :: l.kinds) r.2).bind
          (ontoApart? first) := by
  rw [toOption_readSegment o hnames 0 0]
  rcases (readSegment o l.names 0 s).toOption with _ | r
  · rfl
  · simp only [Option.bind_some, Option.map_some, ontoApart?_eq, keepApart]
    split <;> rfl

/-- One token placed after the elements of another text. -/
theorem place_onto (hfirst : first.isClosed = false) (hnames : ∀ n ∈ l.names, n ∉ first.names)
    (h : l.kinds ≠ [] ∨ t = none) :
    (l.onto first).place o isLast t = (l.place o isLast t).bind (ontoApart? first) := by
  cases t with
  | none =>
    have hclosed : (l.onto first).isClosed = l.isClosed := by
      by_cases hl : l.kinds = []
      · obtain ⟨kinds, names⟩ := l
        obtain rfl : kinds = [] := hl
        exact hfirst
      · exact isClosed_onto hl
    rw [place, place, hclosed]
    split
    · rfl
    · exact (ontoApart?_eq_some (l := l.push .separator) hnames).symm
  | some s =>
    have hl : l.kinds ≠ [] := h.resolve_right (by simp)
    rw [place, place, isClosed_onto hl]
    split
    · rfl
    · split
      · cases isLast with
        | true =>
          rw [if_pos rfl, if_pos rfl, pushWithSeparator_onto hl]
          exact (ontoApart?_eq_some (by simpa using hnames)).symm
        | false => exact (ontoApart?_eq_some (l := l.push .segments) hnames).symm
      · split
        · next offset _ =>
          rcases (readRestName 0 offset s).toOption with _ | name
          · rfl
          · show ((addName (l.names ++ first.names) 0 name).toOption.map _) = _
            rw [toOption_addName hnames 0 0, Option.bind_some]
            rcases (addName l.names 0 name).toOption with _ | names
            · rfl
            · simp only [Option.bind_some, Option.map_some, ontoApart?_eq, names_pushWithSeparator]
              split
              · exact congrArg some (pushWithSeparator_onto (l := { l with names }) hl _)
              · rfl
        · exact map_readSegment_onto hnames s

/-- What one token does to a chain.  Without `*` it gives one element, which matches one element of
a path. -/
theorem place_cases (h : l.place o isLast t = some l') :
    (t = none ∧ l' = l.push .separator) ∨
    ∃ s names, t = some s ∧ (∀ n ∈ l.names, n ∈ names) ∧
      ((∃ k, ('*' ∉ s → k.fixed = true) ∧ l' = ⟨k :: l.kinds, names⟩) ∨
        '*' ∈ s ∧ ∃ kind, l' = { l with names }.pushWithSeparator kind) := by
  unfold place at h
  split at h
  · simp at h
  split at h
  · exact .inl ⟨rfl, (Option.some.inj h).symm⟩
  split at h
  · next hs =>
    obtain rfl := Option.some.inj h
    refine .inr ⟨_, l.names, rfl, fun n hn => hn, ?_⟩
    cases isLast with
    | true => exact .inr ⟨by simp [hs], _, if_pos rfl⟩
    | false => exact .inl ⟨.segments, by simp [hs], rfl⟩
  · split at h
    · next offset hfound =>
      simp only [Option.bind_eq_some_iff, Option.map_eq_some_iff, toOption_eq_some] at h
      obtain ⟨name, -, names, hadd, rfl⟩ := h
      obtain ⟨-, rfl⟩ := addName_ok.mp hadd
      refine .inr ⟨_, _, rfl, fun n hn => List.mem_cons_of_mem name hn, .inr ⟨?_, _, rfl⟩⟩
      exact not_imp_comm.mp findRest_eq_none (by simp [hfound])
    · simp only [Option.map_eq_some_iff, toOption_eq_some] at h
      obtain ⟨⟨kind, names⟩, hread, rfl⟩ := h
      obtain ⟨hkind, hnames, -⟩ := readSegment_ok hread
      refine .inr ⟨_, names, rfl, fun n hn => ?_, .inl ⟨kind, fun hstar => ?_, rfl⟩⟩
      · rw [hnames]
        exact List.mem_append_right _ hn
      · rcases hkind with ⟨hs, -⟩ | hkind
        · simp [hs] at hstar
        · simp [ElementKind.fixed, hkind]

/-- Placing a token gives an element. -/
theorem kinds_ne_nil_of_place (h : l.place o isLast t = some l') : l'.kinds ≠ [] := by
  rcases place_cases h with ⟨-, rfl⟩ | ⟨s, names, -, -, ⟨k, -, rfl⟩ | ⟨-, kind, rfl⟩⟩
  · simp [push]
  · simp
  · unfold pushWithSeparator
    split <;> simp [push]

/-- Placing a token takes back no name. -/
theorem names_of_place (h : l.place o isLast t = some l') : ∀ n ∈ l.names, n ∈ l'.names := by
  rcases place_cases h with ⟨-, rfl⟩ | ⟨s, names, -, hnames, ⟨k, -, rfl⟩ | ⟨-, kind, rfl⟩⟩
  · exact fun n hn => hn
  · exact hnames
  · rw [names_pushWithSeparator]
    exact hnames

theorem names_of_placeAll {ts : List (Option (List Char))} (h : l.placeAll o ts = some l') :
    ∀ n ∈ l.names, n ∈ l'.names := by
  induction ts generalizing l with
  | nil =>
    obtain rfl := Option.some.inj h
    exact fun n hn => hn
  | cons t rest ih =>
    obtain ⟨l₁, hplace, hrest⟩ := Option.bind_eq_some_iff.mp h
    exact fun n hn => ih hrest n (names_of_place hplace n hn)

/-- Going on with tokens that are placed after the elements of another text as they are alone. -/
theorem bind_placeAll_onto {ts : List (Option (List Char))} {x : Option Outline}
    (h : ∀ l, x = some l → (∀ n ∈ l.names, n ∉ first.names) →
      (l.onto first).placeAll o ts = (l.placeAll o ts).bind (ontoApart? first)) :
    ((x.bind (ontoApart? first)).bind fun l => l.placeAll o ts)
      = (x.bind fun l => l.placeAll o ts).bind (ontoApart? first) := by
  rcases x with _ | l
  · rfl
  · simp only [Option.bind_some]
    by_cases hapart : ∀ n ∈ l.names, n ∉ first.names
    · rw [ontoApart?_eq_some hapart, Option.bind_some]
      exact h l rfl hapart
    · obtain ⟨n, hn, hmem⟩ : ∃ n ∈ l.names, n ∈ first.names := by simpa using hapart
      rw [ontoApart?_eq_none hn hmem, Option.bind_none]
      -- a name given twice stays given twice
      rcases hrest : l.placeAll o ts with _ | l'
      · rfl
      · exact (ontoApart?_eq_none (names_of_placeAll hrest n hn) hmem).symm

/-- **Tokens placed after the elements of another text** are placed as they are alone, if they give
none of its names. -/
theorem placeAll_onto (hfirst : first.isClosed = false) {ts : List (Option (List Char))}
    (hnames : ∀ n ∈ l.names, n ∉ first.names) (h : l.kinds ≠ [] ∨ ∀ t ∈ ts.head?, t = none) :
    (l.onto first).placeAll o ts = (l.placeAll o ts).bind (ontoApart? first) := by
  induction ts generalizing l with
  | nil => exact (ontoApart?_eq_some hnames).symm
  | cons t rest ih =>
    -- once a token is placed the chain is not empty, so the first text is out of reach
    rw [placeAll, placeAll, place_onto hfirst hnames (h.imp_right fun h => h t rfl)]
    exact bind_placeAll_onto fun l₁ hplace hapart =>
      ih hapart (.inl (kinds_ne_nil_of_place hplace))

/-- Only of a `**` it matters whether it is last. -/
theorem place_isLast (h : t ≠ some ['*', '*']) (isLast' : Bool) :
    l.place o isLast t = l.place o isLast' t := by
  cases t with
  | none => rfl
  | some s =>
    have hs : s ≠ ['*', '*'] := fun heq => h (congrArg some heq)
    simp only [place, if_neg hs]

theorem placeAll_append {ts : List (Option (List Char))} (h : some ['*', '*'] ∉ ts)
    (later : List (Option (List Char))) :
    l.placeAll o (ts ++ later) = (l.placeAll o ts).bind fun l' => l'.placeAll o later := by
  induction ts generalizing l with
  | nil => rfl
  | cons t rest ih =>
    obtain ⟨ht, hrest⟩ := not_or.mp (mt List.mem_cons.mpr h)
    rw [List.cons_append, placeAll, placeAll, place_isLast (Ne.symm ht) rest.isEmpty,
      Option.bind_assoc]
    congr 1
    funext l₁
    exact ih hrest

/-- Only of a `**` that takes in the separator before it it matters that it is last. -/
theorem place_of_isLast (h : l.place o true t = some l')
    (hrest : ∀ s, l'.kinds.head? ≠ some (.rest s)) (isLast : Bool) :
    l.place o isLast t = some l' := by
  by_cases ht : t = some ['*', '*']
  · subst ht
    have hplace : ∀ isLast, l.place o isLast (some ['*', '*']) = if l.isClosed then none else
        some (if isLast then l.pushWithSeparator fun taken =>
          if taken then .rest o.separator else .segments else l.push .segments) :=
      fun _ => rfl
    rw [hplace, Option.ite_none_left_eq_some] at h
    obtain ⟨hopen, heq⟩ := h
    have hpush : l' = l.push .segments := by
      rw [← Option.some.inj heq, if_pos rfl]
      unfold pushWithSeparator
      split
      · next hkinds =>
        -- it would be the last element, which it is not
        obtain rfl := Option.some.inj heq
        simp [pushWithSeparator, hkinds] at hrest
      · rfl
    rw [hplace, if_neg hopen]
    cases isLast with
    | false => rw [if_neg (by simp), hpush]
    | true => exact heq
  · rw [place_isLast ht true]
    exact h

/-- **Tokens placed after those of a text** whose last element takes in no separator go on from the
elements of that text. -/
theorem placeAll_append_of_head {ts : List (Option (List Char))} (h : l.placeAll o ts = some l')
    (hrest : ∀ s, l'.kinds.head? ≠ some (.rest s)) (later : List (Option (List Char))) :
    l.placeAll o (ts ++ later) = l'.placeAll o later := by
  induction ts generalizing l with
  | nil =>
    obtain rfl := Option.some.inj h
    rfl
  | cons t rest ih =>
    obtain ⟨l₁, hplace, hrest'⟩ := Option.bind_eq_some_iff.mp h
    have hplace' : l.place o (rest ++ later).isEmpty t = some l₁ := by
      cases rest with
      | nil =>
        obtain rfl := Option.some.inj hrest'
        exact place_of_isLast hplace hrest _
      | cons u rest => exact hplace
    rw [List.cons_append, placeAll, hplace', Option.bind_some, ih hrest']

/-! ### Texts without `*` -/

/-- A token without `*` gives a separator or an element that takes one segment. -/
theorem kinds_of_place (hstar : ∀ s, t = some s → '*' ∉ s) (h : l.place o isLast t = some l') :
    ∃ k, k.fixed = true ∧ l'.kinds = k :: l.kinds := by
  rcases place_cases h with ⟨-, rfl⟩ | ⟨s, names, ht, -, ⟨k, hk, rfl⟩ | ⟨hmem, -⟩⟩
  · exact ⟨.separator, rfl, rfl⟩
  · exact ⟨k, hk (hstar s ht), rfl⟩
  · exact absurd hmem (hstar s ht)

/-- Tokens without `*` give separators and elements that take one segment. -/
theorem kinds_of_placeAll {ts : List (Option (List Char))}
    (hstar : ∀ s, some s ∈ ts → '*' ∉ s) (h : l.placeAll o ts = some l')
    (hl : ∀ k ∈ l.kinds, k.fixed = true) : ∀ k ∈ l'.kinds, k.fixed = true := by
  induction ts generalizing l with
  | nil =>
    obtain rfl := Option.some.inj h
    exact hl
  | cons t rest ih =>
    obtain ⟨l₁, hplace, hrest⟩ := Option.bind_eq_some_iff.mp h
    refine ih (fun s hs => hstar s (List.mem_cons_of_mem t hs)) hrest ?_
    obtain ⟨k, hk, hkinds⟩ := kinds_of_place (fun s hs => hstar s (hs ▸ List.mem_cons_self)) hplace
    rw [hkinds]
    exact List.forall_mem_cons.mpr ⟨hk, hl⟩

/-- A chain that does not end with a capture of the rest goes on. -/
theorem isClosed_of_head (h : ∀ k ∈ l.kinds.head?, k.isCatchAll = false) : l.isClosed = false := by
  obtain ⟨kinds, names⟩ := l
  rcases kinds with _ | ⟨k, before⟩
  · rfl
  · have hk := h k rfl
    cases k <;> first | rfl | simp [ElementKind.isCatchAll] at hk

theorem isClosed_of_fixed (h : ∀ k ∈ l.kinds, k.fixed = true) : l.isClosed = false := by
  refine isClosed_of_head fun k hk => ?_
  rcases ElementKind.fixed_iff.mp (h k (List.mem_of_mem_head? hk)) with rfl | htakes
  · rfl
  · exact ElementKind.isCatchAll_of_takes htakes

/-! ### Reading the whole -/

/-- Without `*` all elements are separators or take one segment. -/
theorem fixed_of_read {text : List Char} (hstar : '*' ∉ text) (h : read o text = some l) :
    ∀ k ∈ l.kinds, k.fixed = true := by
  obtain ⟨cs, hcs, hplace⟩ := Option.bind_eq_some_iff.mp h
  refine kinds_of_placeAll (fun s hs hmem => ?_) hplace (by simp [empty])
  exact hstar (mem_of_contentsFrom hcs hs '*' hmem)

/-- **A text that starts with the separator is read after a text without `*` as it is read alone**,
if the two give no name twice. -/
theorem read_append (hopen : o.separator ≠ '{') (hclose : o.separator ≠ '}')
    {text later : List Char} (hstar : '*' ∉ text) (h : read o text = some first)
    (hlater : later.head? = some o.separator) :
    read o (text ++ later) = (read o later).bind (ontoApart? first) := by
  obtain ⟨cs, hcs, hplace⟩ := Option.bind_eq_some_iff.mp h
  obtain ⟨tail, rfl⟩ : ∃ tail, later = o.separator :: tail := by
    rcases later with _ | ⟨c, tail⟩
    · simp at hlater
    · exact ⟨tail, by rw [Option.some.inj hlater]⟩
  have hspan : some ['*', '*'] ∉ cs := fun hmem =>
    hstar (mem_of_contentsFrom hcs hmem '*' List.mem_cons_self)
  have hfirst : first.isClosed = false := isClosed_of_fixed (fixed_of_read hstar h)
  rw [read, read, contentsFrom_append hopen hclose settled_outside hcs,
    contentsFrom_separator hopen hclose, Option.bind_assoc]
  rcases contentsFrom o.separator .outside tail with _ | ts
  · rfl
  · simp only [Option.map_some, Option.bind_some]
    rw [placeAll_append hspan, hplace, Option.bind_some]
    -- the elements of the first text are put before a chain that is still empty
    exact placeAll_onto (l := empty) hfirst (by simp [empty]) (.inr (by simp))

end Outline

/-! ### Patterns -/

/-- Without `*` all elements of a pattern match one element of a path each. -/
theorem fixed_of_parse {o : PatternOptions} {text : List Char} {p : Pattern}
    (h : Pattern.parse o text = .ok p) (hstar : '*' ∉ text) :
    ∀ e ∈ p.elements, e.kind.fixed = true := by
  intro e he
  have hkinds := Outline.fixed_of_read hstar (read_of_parse h)
  exact hkinds e.kind (List.mem_reverse.mpr (List.mem_map_of_mem he))

/-- **Two texts put together** are a pattern if they have no name in common, and its elements are
those of both. -/
theorem parse_append {o : PatternOptions} {text later : List Char} {p p' : Pattern}
    (hopen : o.separator ≠ '{') (hclose : o.separator ≠ '}') (h : Pattern.parse o text = .ok p)
    (hstar : '*' ∉ text) (h' : Pattern.parse o later = .ok p')
    (hlater : later.head? = some o.separator) :
    ((∃ c, Pattern.parse o (text ++ later) = .ok c) ↔ p.names.Disjoint p'.names) ∧
      ∀ c, Pattern.parse o (text ++ later) = .ok c → c.kinds = p.kinds ++ p'.kinds := by
  have hread := Outline.read_append hopen hclose hstar (read_of_parse h) hlater
  rw [read_of_parse h', Option.bind_some, Outline.ontoApart?_eq] at hread
  have hdisjoint : (∀ n ∈ p'.names.reverse, n ∉ p.names.reverse) ↔ p.names.Disjoint p'.names := by
    simp only [List.mem_reverse]
    exact ⟨fun h n hn hn' => h n hn' hn, fun h n hn' hn => h hn hn'⟩
  refine ⟨⟨?_, fun hapart => ?_⟩, fun c hc => ?_⟩
  · rintro ⟨c, hc⟩
    rw [read_of_parse hc] at hread
    exact hdisjoint.mp (Option.ite_none_right_eq_some.mp hread.symm).1
  · rw [if_pos (hdisjoint.mpr hapart)] at hread
    obtain ⟨c, hc, -, -⟩ := parse_of_read hread
    exact ⟨c, hc⟩
  · rw [read_of_parse hc] at hread
    have heq := Option.some.inj (Option.ite_none_right_eq_some.mp hread.symm).2
    have hkinds := congrArg (fun l : Outline => l.kinds.reverse) heq
    simpa [Outline.onto] using hkinds.symm

end PathRouting
