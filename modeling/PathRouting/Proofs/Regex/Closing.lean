import PathRouting.Regex.Escape
import PathRouting.Text.Split

/-!
# Reading on into a closing parenthesis

A constraint is compiled with a closing parenthesis and a dollar sign after it.  What is read from a
text is read from it also with these two characters after it, and where nothing can be read from
the text alone, reading goes on past the parenthesis or fails.  A comment at the end of the text
takes them in.

## Main definitions

* `closing` — the two characters.
* `Reading` — functions that read what stands at the front of a text.
* `Extends`, `ReadAlike` — how what is read with them compares to what is read without.
* `Local` — whether a reader of texts reads on like that.

## Main results

* `Extends.bind`, `Local.bind` — readers one after the other.
* `local_readHex`, `local_readProperty`, `extends_readEscape` — the readers of escapes.
-/

namespace PathRouting.Regex

variable {α β : Type} {f : Flags}

/-- What follows a constraint where it is compiled. -/
def closing : List Char := [')', '$']

/-- What reads something at the front of a text and gives it with the text left. -/
abbrev Reading (α : Type) := List Char → Option (α × List Char)

/-- Whether the closing parenthesis has been read. -/
def Inside (_ : α) (rest : List Char) : Prop := rest <:+ ['$']

/-- How what is read with the closing characters, `x'`, compares to what is read without, `x`: it is
the same with the closing characters left, or with nothing left if nothing was left without them
either; and if nothing can be read without them, what can be read has the property `past`. -/
def Extends (past : α → List Char → Prop) (x x' : Option (α × List Char)) : Prop :=
  match x with
  | some (a, rest) => x' = some (a, rest ++ closing) ∨ rest = [] ∧ x' = some (a, [])
  | none => ∀ a rest, x' = some (a, rest) → past a rest

/-- Whether nothing more can be read with the closing characters than without. -/
abbrev ReadAlike (x x' : Option (α × List Char)) : Prop := Extends (fun _ _ => False) x x'

/-- Whether a reader leaves the end of a text and goes on past it only through the parenthesis. -/
structure Local (read : Reading α) : Prop where
  /-- What is left is the end of the text. -/
  suffix : ∀ s a rest, read s = some (a, rest) → rest <:+ s
  /-- With the closing characters the same is read. -/
  reads : ∀ s, Extends Inside (read s) (read (s ++ closing))

/-! ### Readers in general -/

namespace Extends

variable {past past' : α → List Char → Prop} {x x' : Option (α × List Char)}

theorem none : Extends past none (none : Option (α × List Char)) := by simp [Extends]

theorem some (a : α) (rest : List Char) :
    Extends past (some (a, rest)) (some (a, rest ++ closing)) := .inl rfl

/-- Something that is there or not, without reading. -/
theorem lift (x : Option α) (s : List Char) :
    Extends past (x.map (·, s)) (x.map (·, s ++ closing)) := by
  cases x with
  | none => exact none
  | some a => exact some a s

/-- What leaves nothing compares to itself. -/
theorem refl (h : ∀ a rest, x = .some (a, rest) → rest = []) : Extends past x x := by
  rcases x with _ | ⟨a, rest⟩
  · exact none
  · obtain rfl := h a rest rfl
    exact .inr ⟨rfl, rfl⟩

theorem mono (h : Extends past x x') (hpast : ∀ a rest, past a rest → past' a rest) :
    Extends past' x x' := by
  rcases x with _ | ⟨a, rest⟩
  · exact fun a rest hx => hpast a rest (h a rest hx)
  · exact h

/-- All cases of what is read alike. -/
theorem cases_of_alike (h : ReadAlike x x') :
    x = .none ∧ x' = .none ∨ (∃ a rest, x = .some (a, rest) ∧ x' = .some (a, rest ++ closing)) ∨
      ∃ a, x = .some (a, []) ∧ x' = .some (a, []) := by
  rcases x with _ | ⟨a, rest⟩
  · exact .inl ⟨rfl, Option.eq_none_iff_forall_not_mem.mpr fun ⟨a, rest⟩ hx => h a rest hx⟩
  · rcases h with h | ⟨rfl, h⟩
    · exact .inr (.inl ⟨a, rest, rfl, h⟩)
    · exact .inr (.inr ⟨a, rfl, h⟩)

/-- **Reading on after what was read.**  What is left of it may bound how far to read on. -/
theorem bind {past' : β → List Char → Prop} {k k' : α × List Char → Option (β × List Char)}
    (h : Extends past x x')
    (hk : ∀ a s, x = .some (a, s) → Extends past' (k (a, s)) (k' (a, s ++ closing)))
    (hnil : ∀ a, x = .some (a, []) → Extends past' (k (a, [])) (k' (a, [])))
    (hpast : ∀ a s b rest, past a s → k' (a, s) = .some (b, rest) → past' b rest) :
    Extends past' (x.bind k) (x'.bind k') := by
  rcases x with _ | ⟨a, rest⟩
  · intro b rest' hx
    obtain ⟨⟨a, rest⟩, hx', hb⟩ := Option.bind_eq_some_iff.mp hx
    exact hpast a rest b rest' (h a rest hx') hb
  · rcases h with h | ⟨rfl, h⟩
    · rw [h]
      exact hk a rest rfl
    · rw [h]
      exact hnil a rfl

theorem map {past' : β → List Char → Prop} (h : Extends past x x') (g : α → β)
    (hpast : ∀ a rest, past a rest → past' (g a) rest) :
    Extends past' (x.map fun p => (g p.1, p.2)) (x'.map fun p => (g p.1, p.2)) := by
  rcases x with _ | ⟨a, rest⟩
  · intro b rest hx
    obtain ⟨⟨a, rest'⟩, hx', heq⟩ := Option.map_eq_some_iff.mp hx
    obtain ⟨rfl, rfl⟩ := Prod.mk.inj heq
    exact hpast a rest' (h a rest' hx')
  · rcases h with h | ⟨rfl, h⟩
    · exact .inl (by rw [h]; rfl)
    · exact .inr ⟨rfl, by rw [h]; rfl⟩

end Extends

/-- Whether a text starts with a character other than the closing parenthesis can be seen without
the closing characters. -/
theorem head?_closing {s : List Char} {c : Char} (hc : c ≠ ')') (h : s.head? ≠ some c) :
    (s ++ closing).head? ≠ some c := by
  cases s with
  | nil => simpa [closing] using hc.symm
  | cons d s => exact h

namespace Local

/-- Something that is there or not, without reading. -/
theorem lift (x : Option α) : Local fun s => x.map (·, s) where
  suffix := by
    intro s a rest h
    obtain ⟨a', -, heq⟩ := Option.map_eq_some_iff.mp h
    obtain ⟨-, rfl⟩ := Prod.mk.inj heq
    exact List.suffix_refl _
  reads := .lift x

theorem pure (a : α) : Local fun s => some (a, s) := lift (some a)

theorem none : Local fun _ => (none : Option (α × List Char)) := lift .none

theorem eq_nil {read : Reading α} (h : Local read) {a : α}
    {rest : List Char} (hread : read [] = .some (a, rest)) : rest = [] :=
  List.suffix_nil.mp (h.suffix _ _ _ hread)

/-- Readers one after the other. -/
theorem bind {read : Reading α} {k : α × List Char → Option (β × List Char)}
    (h : Local read) (hk : ∀ a, Local fun s => k (a, s)) : Local fun s => (read s).bind k where
  suffix := by
    intro s b rest hs
    obtain ⟨⟨a, rest'⟩, ha, hb⟩ := Option.bind_eq_some_iff.mp hs
    exact ((hk a).suffix _ _ _ hb).trans (h.suffix _ _ _ ha)
  reads s := (h.reads s).bind (fun a s _ => (hk a).reads s)
    (fun a _ => .refl fun _ _ => (hk a).eq_nil)
    fun a s b rest hs hb => ((hk a).suffix _ _ _ hb).trans hs

theorem map {read : Reading α} (h : Local read) (g : α → β) :
    Local fun s => (read s).map fun p => (g p.1, p.2) := by
  have hbind : Local fun s => (read s).bind fun p => .some (g p.1, p.2) :=
    h.bind fun a => pure (g a)
  simpa only [Option.map_eq_bind, Function.comp_def] using hbind

/-- A reader by whether a text starts with the character `c₀`, which is not the closing
parenthesis. -/
theorem head {read yes no : Reading α} {c₀ : Char} (hc : c₀ ≠ ')')
    (hyes : Local yes) (hno : Local no) (heq : ∀ s, read (c₀ :: s) = yes s)
    (hne : ∀ s, s.head? ≠ .some c₀ → read s = no s) : Local read where
  suffix := by
    intro s a rest h
    by_cases hs : s.head? = .some c₀
    · obtain ⟨s, rfl⟩ := List.head?_eq_some_iff.mp hs
      exact (hyes.suffix s a rest (heq s ▸ h)).trans (List.suffix_cons c₀ s)
    · exact hno.suffix s a rest (hne s hs ▸ h)
  reads s := by
    by_cases hs : s.head? = .some c₀
    · obtain ⟨s, rfl⟩ := List.head?_eq_some_iff.mp hs
      rw [List.cons_append, heq, heq]
      exact hyes.reads s
    · rw [hne s hs, hne _ (head?_closing hc hs)]
      exact hno.reads s

/-- A reader that needs a character and goes on after it. -/
theorem cons {read : Reading α} (hnil : read [] = .none)
    (hcons : ∀ c, Local fun s => read (c :: s)) : Local read where
  suffix := by
    intro s a rest h
    rcases s with _ | ⟨c, s⟩
    · simp [hnil] at h
    · exact ((hcons c).suffix _ _ _ h).trans (List.suffix_cons c s)
  reads s := by
    rcases s with _ | ⟨c, s⟩
    · rw [hnil]
      exact fun a rest h => (hcons ')').suffix ['$'] a rest h
    · exact (hcons c).reads s

end Local

/-! ### Spacing -/

/-- What is left of a text is its end. -/
theorem skipSpacing_suffix (inComment : Bool) (s : List Char) : skipSpacing inComment s <:+ s := by
  induction s generalizing inComment with
  | nil => exact List.suffix_refl _
  | cons c s ih =>
    rw [skipSpacing]
    split
    · exact (ih _).trans (List.suffix_cons c s)
    · split
      · exact (ih _).trans (List.suffix_cons c s)
      · split
        · exact (ih _).trans (List.suffix_cons c s)
        · exact List.suffix_refl _

theorem skipBlank_suffix (f : Flags) (s : List Char) : skipBlank f s <:+ s := by
  unfold skipBlank
  split
  · exact skipSpacing_suffix false s
  · exact List.suffix_refl s

theorem length_skipBlank (f : Flags) (s : List Char) : (skipBlank f s).length ≤ s.length :=
  (skipBlank_suffix f s).length_le

/-- **Spacing ends before the closing characters**, unless a comment takes them in. -/
theorem skipBlank_closing (f : Flags) (s : List Char) :
    skipBlank f (s ++ closing) = skipBlank f s ++ closing ∨
      skipBlank f s = [] ∧ skipBlank f (s ++ closing) = [] := by
  have key : ∀ inComment,
      skipSpacing inComment (s ++ closing) = skipSpacing inComment s ++ closing ∨
        skipSpacing inComment s = [] ∧ skipSpacing inComment (s ++ closing) = [] := by
    induction s with
    | nil =>
      intro inComment
      cases inComment with
      | false => exact .inl (by decide)
      | true => exact .inr (by decide)
    | cons c s ih =>
      intro inComment
      rw [List.cons_append, skipSpacing, skipSpacing]
      split
      · exact ih _
      · split
        · exact ih _
        · split
          · exact ih _
          · exact .inl rfl
  unfold skipBlank
  split
  · exact key false
  · exact .inl rfl

/-- What is read after spacing. -/
theorem Extends.skipBlank {past : α → List Char → Prop} {read : Reading α}
    (h : ∀ u, Extends past (read u) (read (u ++ closing)))
    (hnil : Extends past (read []) (read [])) (f : Flags) (s : List Char) :
    Extends past (read (skipBlank f s)) (read (skipBlank f (s ++ closing))) := by
  rcases skipBlank_closing f s with heq | ⟨hs, hs'⟩
  · rw [heq]
    exact h _
  · rw [hs, hs']
    exact hnil

theorem Local.skipBlank {read : Reading α} (h : Local read) (f : Flags) :
    Local fun s => read (skipBlank f s) where
  suffix := by
    intro s a rest hs
    exact (h.suffix _ _ _ hs).trans (skipBlank_suffix f s)
  reads := Extends.skipBlank h.reads (.refl fun _ _ => h.eq_nil) f

/-! ### Text in braces -/

theorem readBraced_suffix {n : Nat} {s inner rest : List Char}
    (h : readBraced f n s = some (inner, rest)) : rest <:+ s := by
  induction n generalizing s inner with
  | zero => simp [readBraced] at h
  | succ n ih =>
    rw [readBraced] at h
    have hs := skipBlank_suffix f s
    generalize skipBlank f s = u at h hs
    cases u with
    | nil => simp at h
    | cons c u =>
      refine List.IsSuffix.trans ?_ ((List.suffix_cons c u).trans hs)
      by_cases hc : c = '}'
      · simp only [hc, if_true, Option.some.injEq, Prod.mk.injEq] at h
        exact h.2 ▸ List.suffix_refl u
      · simp only [hc, if_false, Option.map_eq_some_iff] at h
        obtain ⟨⟨inner, rest⟩, h, heq⟩ := h
        obtain ⟨-, rfl⟩ := Prod.mk.inj heq
        exact ih h

/-- As long as the count does not run out, it makes no difference. -/
theorem extends_readBraced {n m : Nat} {s : List Char} (hn : s.length < n)
    (hm : s.length + 2 < m) :
    Extends Inside (readBraced f n s) (readBraced f m (s ++ closing)) := by
  induction n generalizing m s with
  | zero => omega
  | succ n ih =>
    obtain ⟨m, rfl⟩ : ∃ k, m = k + 1 := ⟨m - 1, by omega⟩
    rw [readBraced, readBraced]
    have hlength := length_skipBlank f s
    rcases skipBlank_closing f s with heq | ⟨hs, hs'⟩
    · rw [heq]
      generalize skipBlank f s = u at hlength
      cases u with
      | nil =>
        intro inner rest h
        change (readBraced f m ['$']).map (fun p => (')' :: p.1, p.2)) = _ at h
        obtain ⟨p, hp, heq⟩ := Option.map_eq_some_iff.mp h
        obtain ⟨-, rfl⟩ := Prod.mk.inj heq
        exact readBraced_suffix hp
      | cons c u =>
        simp only [List.cons_append]
        split
        · exact .some [] u
        · rw [List.length_cons] at hlength
          exact (ih (by omega) (by omega)).map (c :: ·) fun _ _ => id
    · rw [hs, hs']
      exact .none

theorem local_readBraced (f : Flags) : Local fun s => readBraced f (s.length + 1) s where
  suffix _ _ _ := readBraced_suffix
  reads s := extends_readBraced (by omega) (by simp [closing])

/-! ### Runs of characters -/

section Run

variable {p : Char → Bool}

theorem readRun_cons {n : Nat} {c : Char} {s : List Char} (hc : p c = true) :
    readRun f p (n + 1) (c :: s) =
      (c :: (readRun f p n (skipBlank f s)).1, (readRun f p n (skipBlank f s)).2) := by
  simp [readRun, hc]

theorem readRun_eq {n : Nat} {s : List Char} (h : ∀ c ∈ s.head?, p c = false) :
    readRun f p n s = ([], s) := by
  cases n with
  | zero => rfl
  | succ n =>
    cases s with
    | nil => rfl
    | cons c s => simp [readRun, h c rfl]

theorem readRun_suffix (n : Nat) (s : List Char) : (readRun f p n s).2 <:+ s := by
  induction n generalizing s with
  | zero => exact List.suffix_refl s
  | succ n ih =>
    rcases s with _ | ⟨c, s⟩
    · exact List.suffix_refl []
    · by_cases hc : p c = true
      · rw [readRun_cons hc]
        exact (ih _).trans ((skipBlank_suffix f s).trans (List.suffix_cons c s))
      · have heq : readRun f p (n + 1) (c :: s) = ([], c :: s) := readRun_eq (by simpa using hc)
        exact heq ▸ List.suffix_refl (c :: s)

theorem extends_readRun (hp : p ')' = false) {n m : Nat} {s : List Char} (hn : s.length < n)
    (hm : s.length + 2 < m) :
    Extends Inside (some (readRun f p n s)) (some (readRun f p m (s ++ closing))) := by
  induction n generalizing m s with
  | zero => omega
  | succ n ih =>
    obtain ⟨m, rfl⟩ : ∃ k, m = k + 1 := ⟨m - 1, by omega⟩
    rcases s with _ | ⟨c, s⟩
    · rw [readRun_eq (by simp), readRun_eq (by simpa [closing] using hp)]
      exact .some [] []
    · by_cases hc : p c = true
      · rw [List.cons_append, readRun_cons hc, readRun_cons hc]
        rw [List.length_cons] at hn hm
        have hlength := length_skipBlank f s
        suffices h : Extends Inside (some (readRun f p n (skipBlank f s)))
            (some (readRun f p m (skipBlank f (s ++ closing)))) from
          h.map (c :: ·) fun _ _ => id
        rcases skipBlank_closing f s with heq | ⟨hnil, hnil'⟩
        · rw [heq]
          exact ih (by omega) (by omega)
        · rw [hnil, hnil', readRun_eq (by simp), readRun_eq (by simp)]
          exact .inr ⟨rfl, rfl⟩
      · rw [readRun_eq (by simpa using hc), readRun_eq (by simpa using hc)]
        exact .some [] (c :: s)

theorem local_readRun (f : Flags) (hp : p ')' = false) :
    Local fun s => some (readRun f p (s.length + 1) s) where
  suffix s items rest h := by
    rw [← show (readRun f p (s.length + 1) s).2 = rest by rw [Option.some.inj h]]
    exact readRun_suffix _ s
  reads s := extends_readRun hp (by omega) (by simp [closing])

end Run

/-- White space before what is read. -/
theorem Local.dropSpace {read : Reading α} (h : Local read) :
    Local fun s => read (s.dropWhile Text.isWhiteSpace) where
  suffix s a rest hs := (h.suffix _ a rest hs).trans (List.dropWhile_suffix _)
  reads s := by
    have heq : (s ++ closing).dropWhile Text.isWhiteSpace
        = s.dropWhile Text.isWhiteSpace ++ closing := by
      rw [List.dropWhile_append]
      split
      · next hnil =>
        rw [List.isEmpty_iff.mp hnil]
        decide
      · rfl
    rw [heq]
    exact h.reads _

theorem extends_cutAt {c : Char} (hc : c ∉ closing) (s : List Char) :
    ReadAlike (Text.cutAt c s) (Text.cutAt c (s ++ closing)) := by
  induction s with
  | nil =>
    rw [List.nil_append, Text.cutAt_eq_none.mpr hc]
    exact .none
  | cons d s ih =>
    rw [List.cons_append, Text.cutAt, Text.cutAt]
    split
    · exact .some [] s
    · exact ih.map (d :: ·) fun _ _ => id

theorem cutAt_suffix {c : Char} {s before rest : List Char}
    (h : Text.cutAt c s = some (before, rest)) : rest <:+ s := by
  obtain ⟨rfl, -⟩ := Text.cutAt_eq_some h
  exact ⟨before ++ [c], by simp⟩

/-! ### Escapes -/

theorem local_readFixed (f : Flags) (n : Nat) : Local (readFixed f n) := by
  induction n with
  | zero => exact .pure []
  | succ n ih => exact .cons rfl fun c => (ih.skipBlank f).map (c :: ·)

theorem local_readNumeral (f : Flags) (digits : Nat) : Local (readNumeral f digits) := by
  have hyes : Local fun s => (readBraced f (s.length + 1) s).bind fun p =>
      some ((p.1, true), skipBlank f p.2) :=
    (local_readBraced f).bind fun inner => (Local.pure (inner, true)).skipBlank f
  refine .head (show '{' ≠ ')' by decide) hyes ((local_readFixed f digits).map (·, false))
    (fun s => ?_) fun s hs => ?_
  · exact Option.map_eq_bind
  · unfold readNumeral
    split
    · simp at hs
    · rfl

theorem local_readHex (f : Flags) (digits : Nat) : Local (readHex f digits) :=
  ((local_readNumeral f digits).skipBlank f).bind fun written =>
    .lift (hexAtom? f digits written.1 written.2)

theorem local_readPropertySet (f : Flags) : Local (readPropertySet f) := by
  refine .cons rfl fun c => ?_
  unfold readPropertySet
  by_cases hbrace : c = '{'
  · subst hbrace
    exact (local_readBraced f).bind fun name => .lift (propertySet? name)
  · by_cases hslash : c = '\\'
    · subst hslash
      exact .none
    · simp only [hslash, if_false]
      exact (Local.lift (CharSet.ofProperty? [c])).skipBlank f

theorem local_readProperty (f : Flags) (negated : Bool) : Local (readProperty f negated) := by
  unfold readProperty
  split
  · exact .none
  · exact ((local_readPropertySet f).skipBlank f).map fun found =>
      Atom.set (CharSet.complIf negated (f.applyCase found))

/-- Whether what is left is a brace with nothing but spacing up to the closing characters. -/
def Stuck (f : Flags) (rest : List Char) : Prop :=
  ∃ inner, rest = '{' :: inner ++ closing ∧ skipBlank f inner = []

/-- Where what follows a backslash can only be read with the closing characters: past the
parenthesis, or before braces that are not closed. -/
def PastEscape (f : Flags) (a : Atom) (rest : List Char) : Prop :=
  Inside a rest ∨ (∃ l, a = .look l) ∧ Stuck f rest

theorem local_namedBoundary (f : Flags) : Local fun s =>
    (readBraced f (s.length + 1) s).bind fun p => (namedBoundary? f p.1).map (·, p.2) :=
  (local_readBraced f).bind fun name => .lift (namedBoundary? f name)

theorem readBoundary_suffix {s rest : List Char} {a : Atom}
    (h : readBoundary f s = some (a, rest)) : rest <:+ s := by
  unfold readBoundary at h
  split at h
  · next inner =>
    split at h
    · simp at h
    · split at h
      · exact ((local_namedBoundary f).suffix _ _ _ h).trans (List.suffix_cons _ _)
      · simp only [Option.some.injEq, Prod.mk.injEq] at h
        exact h.2 ▸ List.suffix_refl _
  · simp only [Option.some.injEq, Prod.mk.injEq] at h
    exact h.2 ▸ List.suffix_refl _

theorem readBoundary_eq {s : List Char} (h : s.head? ≠ some '{') :
    readBoundary f s = some (.look (.word .either (!f.unicode)), s) := by
  unfold readBoundary
  split
  · simp at h
  · rfl

theorem extends_readBoundary (f : Flags) (s : List Char) :
    Extends (PastEscape f) (readBoundary f s) (readBoundary f (s ++ closing)) := by
  by_cases hbrace : s.head? = some '{'
  · obtain ⟨inner, rfl⟩ := List.head?_eq_some_iff.mp hbrace
    simp only [List.cons_append, readBoundary]
    rcases skipBlank_closing f inner with heq | ⟨hs, hs'⟩
    · rw [heq]
      rcases hinner : skipBlank f inner with _ | ⟨c, u⟩
      · -- only the closing parenthesis shows that no name follows
        intro a rest h
        have hname : isBoundaryNameChar ')' = false := by decide
        simp only [closing, List.nil_append, hname] at h
        obtain ⟨rfl, rfl⟩ := Prod.mk.inj (Option.some.inj h)
        exact .inr ⟨⟨_, rfl⟩, inner, rfl, hinner⟩
      · simp only [List.cons_append]
        split
        · exact ((local_namedBoundary f).reads inner).mono fun _ _ => .inl
        · exact .some _ _
    · rw [hs, hs']
      exact .none
  · rw [readBoundary_eq hbrace, readBoundary_eq (head?_closing (by decide) hbrace)]
    exact .some _ s

theorem readEscape_boundary (f : Flags) (s : List Char) :
    readEscape f ('b' :: s) = readBoundary f s := by
  have hplain : isEscapable 'b' = false := by decide
  simp [readEscape, hplain]

/-- After any other letter nothing is looked at beyond what is read. -/
theorem local_readEscape (f : Flags) {c : Char} (hc : c ≠ 'b') :
    Local fun s => readEscape f (c :: s) := by
  simp only [readEscape, if_neg hc]
  split
  · exact .pure (Atom.char c)
  · split
    · exact local_readHex f 2
    · split
      · exact local_readHex f 4
      · split
        · exact local_readHex f 8
        · split
          · exact local_readProperty f (c = 'P')
          · split
            · next set _ => exact .pure (Atom.set set)
            · exact .lift (letterAtom? f c)

theorem readEscape_suffix {s rest : List Char} {a : Atom}
    (h : readEscape f s = some (a, rest)) : rest <:+ s := by
  cases s with
  | nil => simp [readEscape] at h
  | cons c s =>
    refine List.IsSuffix.trans ?_ (List.suffix_cons c s)
    by_cases hc : c = 'b'
    · subst hc
      rw [readEscape_boundary] at h
      exact readBoundary_suffix h
    · exact (local_readEscape f hc).suffix s a rest h

/-- **Reading on after a backslash.** -/
theorem extends_readEscape (f : Flags) (s : List Char) :
    Extends (PastEscape f) (readEscape f s) (readEscape f (s ++ closing)) := by
  cases s with
  | nil =>
    intro a rest h
    exact .inl ((local_readEscape f (by decide)).suffix ['$'] a rest h)
  | cons c s =>
    by_cases hc : c = 'b'
    · subst hc
      rw [List.cons_append, readEscape_boundary, readEscape_boundary]
      exact extends_readBoundary f s
    · exact ((local_readEscape f hc).reads s).mono fun _ _ => .inl

end PathRouting.Regex
