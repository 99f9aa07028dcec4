import PathRouting.Proofs.Regex.Closing
import PathRouting.Regex.Bracket

/-!
# Bracketed classes before a closing parenthesis

The closing characters hold no bracket.  So a class in brackets that is not closed in a text is not
closed with the closing characters after the text either.

## Main definitions

* `Beyond` — whether nothing but closing characters is left.
* `ClassesAlike` — whether the closing characters make no difference to classes up to some length.

## Main results

* `extends_readItem` — reading an item on into the closing characters.
* `classesAlike`, `extends_readClass` — **a class is read with the closing characters after the text
  exactly if it is read without**.
-/

namespace PathRouting.Regex

open Text

variable {α : Type} {f : Flags} {s rest : List Char}

/-- Whether nothing but closing characters is left. -/
def Beyond (_ : α) (rest : List Char) : Prop := rest <:+ closing

theorem beyond_of_inside (a : α) (h : rest <:+ ['$']) : Beyond a rest :=
  h.trans (List.suffix_cons ')' ['$'])

/-! ### Items -/

theorem readPrimitive_char {c : Char} (hc : c ≠ '\\') :
    readPrimitive f (c :: s) = some (.char c, s) := by
  unfold readPrimitive
  split
  · next heq => simp at heq
  · next heq => exact absurd (List.cons.inj heq).1 hc
  · next heq => rw [(List.cons.inj heq).1, (List.cons.inj heq).2]

theorem readPrimitive_suffix {a : Atom} (h : readPrimitive f s = some (a, rest)) :
    rest <:+ s ∧ rest.length < s.length := by
  rcases s with _ | ⟨c, s⟩
  · simp [readPrimitive] at h
  · have hs : rest <:+ s := by
      by_cases hc : c = '\\'
      · subst hc
        exact readEscape_suffix h
      · rw [readPrimitive_char hc] at h
        obtain ⟨-, rfl⟩ := Prod.mk.inj (Option.some.inj h)
        exact List.suffix_refl s
    exact ⟨hs.trans (List.suffix_cons c s), Nat.lt_succ_of_le hs.length_le⟩

theorem extends_readPrimitive (f : Flags) (s : List Char) :
    Extends (PastEscape f) (readPrimitive f s) (readPrimitive f (s ++ closing)) := by
  rcases s with _ | ⟨c, s⟩
  · intro a rest h
    obtain ⟨-, rfl⟩ := Prod.mk.inj (Option.some.inj h)
    exact .inl (List.suffix_refl _)
  · by_cases hc : c = '\\'
    · subst hc
      exact extends_readEscape f s
    · rw [List.cons_append, readPrimitive_char hc, readPrimitive_char hc]
      exact .some _ s

/-- Whether a bracket or a dash comes next can be seen without the closing characters. -/
theorem peekBlank_closing {c : Char} (hc : c = ']' ∨ c = '-') :
    peekBlank f (s ++ closing) = some c ↔ peekBlank f s = some c := by
  have hparen : some ')' ≠ some c := by rcases hc with rfl | rfl <;> decide
  have hspace : isWhiteSpace c = false := by rcases hc with rfl | rfl <;> decide
  have hhash : c ≠ '#' := by rcases hc with rfl | rfl <;> decide
  -- a text that starts with the character has no spacing at its front
  have hhead (h : s.head? = some c) : s.dropWhile isWhiteSpace = s := by
    obtain ⟨u, rfl⟩ := List.head?_eq_some_iff.mp h
    exact List.dropWhile_cons_of_neg (by simp [hspace])
  have hclosing : closing.dropWhile isWhiteSpace = closing := by decide
  unfold peekBlank
  split
  · cases s with
    | nil => simpa [closing] using hparen
    | cons d s => simp
  · rw [List.dropWhile_append, hclosing]
    rcases hs : s.dropWhile isWhiteSpace with _ | ⟨d, u⟩
    · -- there is spacing only, and the closing characters follow
      have hne : s.head? ≠ some c := fun h => by
        rw [← hhead h, hs] at h
        cases h
      exact iff_of_false hparen hne
    · have hne : d = '#' → s.head? ≠ some c := fun hd h => by
        obtain ⟨u', rfl⟩ := List.head?_eq_some_iff.mp h
        rw [hhead rfl] at hs
        exact hhash ((List.cons.inj hs).1.trans hd)
      by_cases hd : d = '#'
      · subst hd
        simp only [List.isEmpty_cons, Bool.false_eq_true, if_false, List.cons_append,
          List.dropWhile_append, hclosing]
        rcases u.dropWhile isWhiteSpace with _ | ⟨e, v⟩
        · -- the closing characters follow a comment
          exact iff_of_false hparen (hne rfl)
        · exact Iff.rfl
      · simp

theorem readRange_suffix {first : Atom} {set : CharSet}
    (h : readRange f first s = some (set, rest)) : rest <:+ s := by
  unfold readRange at h
  split at h
  · simp at h
  · next u =>
    simp only at h
    split at h
    · exact (Local.lift (first.toSet? f)).suffix _ _ _ h
    · obtain ⟨⟨second, rest'⟩, hsecond, h⟩ := Option.bind_eq_some_iff.mp h
      refine ((Local.lift (first.range? f second)).suffix _ _ _ h).trans ?_
      exact (readPrimitive_suffix hsecond).1.trans
        ((skipBlank_suffix f u).trans (List.suffix_cons _ u))
  · exact (Local.lift (first.toSet? f)).suffix _ _ _ h

/-- An assertion is no item of a class. -/
theorem readRange_look (l : Look) (s : List Char) : readRange f (.look l) s = none := by
  unfold readRange
  split
  · rfl
  · simp only [Atom.toSet?, Option.map_none, Atom.range?]
    split <;> simp
  · rfl

theorem Atom.range?_look (first : Atom) (l : Look) : first.range? f (.look l) = none := by
  cases first <;> rfl

theorem extends_readRange (f : Flags) (first : Atom) (s : List Char) :
    Extends Beyond (readRange f first s) (readRange f first (s ++ closing)) := by
  rcases s with _ | ⟨c, s⟩
  · exact fun set rest h => readRange_suffix h
  · by_cases hc : c = '-'
    · subst hc
      simp only [List.cons_append, readRange, peekBlank_closing (.inl rfl),
        peekBlank_closing (.inr rfl)]
      split
      · exact .lift (first.toSet? f) ('-' :: s)
      · have hsecond (u : List Char) : Extends Beyond
            ((readPrimitive f u).bind fun p => (first.range? f p.1).map (·, p.2))
            ((readPrimitive f (u ++ closing)).bind fun p => (first.range? f p.1).map (·, p.2)) := by
          refine (extends_readPrimitive f u).bind (fun second rest _ => ?_) (fun second _ => ?_) ?_
          · exact .lift (first.range? f second) rest
          · exact .refl fun _ _ => (Local.lift (first.range? f second)).eq_nil
          · rintro second rest set rest' (h | ⟨⟨l, rfl⟩, -⟩) hread
            · exact beyond_of_inside set (((Local.lift _).suffix _ _ _ hread).trans h)
            · simp [Atom.range?_look] at hread
        exact Extends.skipBlank hsecond .none f s
    · have hplain (s : List Char) :
          readRange f first (c :: s) = (first.toSet? f).map (·, c :: s) := by
        unfold readRange
        split
        · next heq => simp at heq
        · next heq => exact absurd (List.cons.inj heq).1 hc
        · rfl
      rw [List.cons_append, hplain, hplain]
      exact .lift (first.toSet? f) (c :: s)

theorem readItem_suffix {item : BracketSet} (h : readItem f s = some (item, rest)) :
    rest <:+ s ∧ rest.length < s.length := by
  obtain ⟨⟨first, rest'⟩, hfirst, h⟩ := Option.bind_eq_some_iff.mp h
  obtain ⟨⟨set, rest''⟩, hset, heq⟩ := Option.map_eq_some_iff.mp h
  obtain ⟨-, rfl⟩ := Prod.mk.inj heq
  obtain ⟨hs, hlength⟩ := readPrimitive_suffix hfirst
  have hrest := (readRange_suffix hset).trans (skipBlank_suffix f rest')
  exact ⟨hrest.trans hs, Nat.lt_of_le_of_lt hrest.length_le hlength⟩

theorem extends_readItem (f : Flags) (s : List Char) :
    Extends Beyond (readItem f s) (readItem f (s ++ closing)) := by
  refine (extends_readPrimitive f s).bind (fun first rest _ => ?_) (fun first _ => ?_) ?_
  · exact (Extends.skipBlank (extends_readRange f first) .none f rest).map (BracketSet.mk · 0)
      fun _ _ => id
  · have hnil : skipBlank f [] = [] := List.suffix_nil.mp (skipBlank_suffix f [])
    simp only [hnil, readRange]
    exact .none
  · rintro first rest item rest' (h | ⟨⟨l, rfl⟩, -⟩) hread
    · obtain ⟨⟨set, rest''⟩, hset, heq⟩ := Option.map_eq_some_iff.mp hread
      obtain ⟨-, rfl⟩ := Prod.mk.inj heq
      exact beyond_of_inside item
        ((readRange_suffix hset).trans ((skipBlank_suffix f rest).trans h))
    · simp [readRange_look] at hread

/-! ### What stands for itself at the front -/

theorem local_leadingDashes (f : Flags) : Local fun s => some (leadingDashes f s) := by
  have hdashes : Local fun s => some (readRun f (· == '-') (s.length + 1) s) :=
    local_readRun f (by decide)
  exact hdashes.map (List.map fun c => BracketSet.mk (.exactly c) 0)

theorem local_readCaret (f : Flags) : Local fun s => some (readCaret f s) := by
  refine .head (show '^' ≠ ')' by decide) ((Local.pure true).skipBlank f) (.pure false)
    (fun s => rfl) fun s hs => ?_
  unfold readCaret
  split
  · simp at hs
  · rfl

theorem local_readFront (f : Flags) : Local fun s => some (readFront f s) := by
  refine .head (show ']' ≠ ')' by decide)
    ((Local.pure [⟨.exactly ']', 0⟩]).skipBlank f) (local_leadingDashes f)
    (fun s => rfl) fun s hs => ?_
  unfold readFront
  split
  · simp at hs
  · rfl

/-- **What stands at the front of a class.** -/
theorem local_readOpening (f : Flags) : Local fun s => some (readOpening f s) := by
  have hfront : Local fun s => (some (readCaret f (skipBlank f s))).bind fun p =>
      (some (readFront f p.2)).map fun q => ((p.1, q.1), q.2) :=
    ((local_readCaret f).skipBlank f).bind fun negated => (local_readFront f).map (negated, ·)
  exact hfront

/-! ### Named classes and operators -/

theorem readAsciiName_suffix {negated : Bool} {x : Bool × CharSet}
    (h : readAsciiName negated s = some (x, rest)) : rest <:+ s := by
  obtain ⟨⟨name, s'⟩, hcut, h⟩ := Option.bind_eq_some_iff.mp h
  refine List.IsSuffix.trans ?_ (cutAt_suffix hcut)
  simp only at h
  split at h
  · next u =>
    obtain ⟨set, -, heq⟩ := Option.map_eq_some_iff.mp h
    obtain ⟨-, rfl⟩ := Prod.mk.inj heq
    exact List.suffix_cons ']' u
  · simp at h

theorem extends_readAsciiName (negated : Bool) (s : List Char) :
    ReadAlike (readAsciiName negated s) (readAsciiName negated (s ++ closing)) := by
  refine (extends_cutAt (by decide) s).bind (fun name rest _ => ?_) (fun name _ => .none)
    fun _ _ _ _ h _ => h
  rcases rest with _ | ⟨c, rest⟩
  · exact .none
  · by_cases hc : c = ']'
    · subst hc
      simp only [List.cons_append]
      cases CharSet.ofAsciiName? name with
      | none => exact .none
      | some set => exact .some (negated, set) rest
    · simp [hc, Extends]

theorem readAsciiClass?_name (h : s.head? ≠ some '^') :
    readAsciiClass? (':' :: s) = readAsciiName false s := by
  unfold readAsciiClass?
  split
  · next heq => simp [(List.cons.inj heq).2] at h
  · next heq => rw [(List.cons.inj heq).2]
  · next hne => exact absurd rfl (hne s)

theorem readAsciiClass?_none (h : s.head? ≠ some ':') : readAsciiClass? s = none := by
  unfold readAsciiClass?
  split
  · simp at h
  · simp at h
  · rfl

theorem readAsciiClass?_suffix {x : Bool × CharSet} (h : readAsciiClass? s = some (x, rest)) :
    rest <:+ s := by
  unfold readAsciiClass? at h
  split at h
  · next u =>
    exact (readAsciiName_suffix h).trans ((List.suffix_cons '^' u).trans (List.suffix_cons ':' _))
  · next u _ => exact (readAsciiName_suffix h).trans (List.suffix_cons ':' u)
  · simp at h

theorem extends_readAsciiClass? (s : List Char) :
    ReadAlike (readAsciiClass? s) (readAsciiClass? (s ++ closing)) := by
  by_cases hs : s.head? = some ':'
  · obtain ⟨s, rfl⟩ := List.head?_eq_some_iff.mp hs
    by_cases hcaret : s.head? = some '^'
    · obtain ⟨s, rfl⟩ := List.head?_eq_some_iff.mp hcaret
      exact extends_readAsciiName true s
    · rw [List.cons_append, readAsciiClass?_name hcaret,
        readAsciiClass?_name (head?_closing (by decide) hcaret)]
      exact extends_readAsciiName false s
  · rw [readAsciiClass?_none hs, readAsciiClass?_none (head?_closing (by decide) hs)]
    exact .none

theorem readOperator?_suffix {op : SetOp} (h : readOperator? s = some (op, rest)) :
    rest <:+ s ∧ rest.length < s.length := by
  rcases s with _ | ⟨c, _ | ⟨d, s⟩⟩
  · simp [readOperator?] at h
  · simp [readOperator?] at h
  · rw [readOperator?] at h
    split at h
    · have hs := (Local.lift (SetOp.ofChar? c)).suffix s op rest h
      exact ⟨hs.trans ((List.suffix_cons d s).trans (List.suffix_cons c _)),
        by simpa using Nat.lt_succ_of_lt (Nat.lt_succ_of_le hs.length_le)⟩
    · simp at h

theorem extends_readOperator? (s : List Char) :
    ReadAlike (readOperator? s) (readOperator? (s ++ closing)) := by
  rcases s with _ | ⟨c, _ | ⟨d, s⟩⟩
  · simp [readOperator?, closing, Extends]
  · have hparen : SetOp.ofChar? ')' = none := by decide
    intro op rest h
    simp only [closing, List.cons_append, List.nil_append, readOperator?] at h
    split at h
    · next hc => simp [hc, hparen] at h
    · simp at h
  · simp only [List.cons_append, readOperator?]
    split
    · exact .lift (SetOp.ofChar? c) s
    · exact .none

/-! ### Classes -/

variable {left : Option (SetOp × BracketSet)} {items : List BracketSet}

/-- What the reader of a class does where an item may start, spacing left out. -/
theorem readBracket_item {n : Nat} {u : List Char} (h : skipBlank f s = u)
    (hend : u.head? ≠ some ']') (hopen : u.head? ≠ some '[') (hne : u ≠ []) :
    readBracket f (n + 1) left items s =
      match readOperator? u with
      | some (op, rest) => readBracket f n (some (op, BracketSet.combine f left items)) [] rest
      | none => (readItem f u).bind fun p => readBracket f n left (p.1 :: items) p.2 := by
  rw [readBracket, h]
  split
  · exact absurd rfl hne
  · simp at hend
  · simp at hopen
  · rfl

theorem readNested_eq (f : Flags) (inner : List BracketSet → Reading BracketSet) (s : List Char) :
    readNested f inner s = (some (readOpening f s)).bind fun p =>
      (inner p.1.2.reverse p.2).bind fun q => (q.1.close? f p.1.1).map (·, q.2) := rfl

theorem readNested_suffix {inner : List BracketSet → Reading BracketSet} {b : BracketSet}
    (hinner : ∀ items u b rest, inner items u = some (b, rest) → rest <:+ u)
    (h : readNested f inner s = some (b, rest)) : rest <:+ s := by
  obtain ⟨⟨found, rest'⟩, hfound, h⟩ := Option.bind_eq_some_iff.mp h
  have hopening : (readOpening f s).2 <:+ s := (local_readOpening f).suffix s _ _ rfl
  exact ((Local.lift _).suffix _ _ _ h).trans ((hinner _ _ _ _ hfound).trans hopening)

theorem extends_readNested {inner inner' : List BracketSet → Reading BracketSet}
    (h : ∀ items u, u.length ≤ s.length →
      ReadAlike (inner items u) (inner' items (u ++ closing)))
    (hnil : ∀ items, inner items [] = none)
    (hbeyond : ∀ items u, u <:+ closing → inner' items u = none) :
    ReadAlike (readNested f inner s) (readNested f inner' (s ++ closing)) := by
  rw [readNested_eq, readNested_eq]
  refine ((local_readOpening f).reads s).bind (fun x rest hopening => ?_) (fun x _ => ?_) ?_
  · have hrest := ((local_readOpening f).suffix s x rest hopening).length_le
    exact (h _ rest hrest).bind (fun found u _ => .lift (found.close? f x.1) u)
      (fun found _ => .refl fun _ _ => (Local.lift (found.close? f x.1)).eq_nil)
      fun _ _ _ _ hfalse _ => hfalse
  · simp only [hnil, hbeyond _ _ List.nil_suffix]
    exact .none
  · intro x rest b rest' hinside hread
    simp [hbeyond _ rest (beyond_of_inside () hinside)] at hread

/-- A class ends with its closing bracket. -/
theorem readBracket_suffix {n : Nat} {b : BracketSet}
    (h : readBracket f n left items s = some (b, rest)) : ']' :: rest <:+ skipBlank f s := by
  induction n generalizing s rest left items b with
  | zero => simp [readBracket] at h
  | succ n ih =>
    replace ih {s rest left items b} (h : readBracket f n left items s = some (b, rest)) :
        ']' :: rest <:+ s := (ih h).trans (skipBlank_suffix f s)
    rw [readBracket] at h
    generalize skipBlank f s = u at h
    split at h
    · simp at h
    · next u =>
      obtain ⟨-, rfl⟩ := Prod.mk.inj (Option.some.inj h)
      exact List.suffix_refl _
    · next u =>
      refine List.IsSuffix.trans ?_ (List.suffix_cons '[' u)
      split at h
      · next x rest' hname =>
        obtain ⟨set, -, h⟩ := Option.bind_eq_some_iff.mp h
        exact (ih h).trans (readAsciiClass?_suffix hname)
      · obtain ⟨⟨item, rest'⟩, hitem, h⟩ := Option.bind_eq_some_iff.mp h
        have hinner (items u b rest) (h : readBracket f n none items u = some (b, rest)) :
            rest <:+ u := (List.suffix_cons ']' rest).trans (ih h)
        exact (ih h).trans (readNested_suffix hinner hitem)
    · split at h
      · next op rest' hop => exact (ih h).trans (readOperator?_suffix hop).1
      · obtain ⟨⟨item, rest'⟩, hitem, h⟩ := Option.bind_eq_some_iff.mp h
        exact (ih h).trans (readItem_suffix hitem).1

theorem suffix_of_readBracket {n : Nat} {b : BracketSet}
    (h : readBracket f n left items s = some (b, rest)) : rest <:+ s :=
  (List.suffix_cons ']' rest).trans ((readBracket_suffix h).trans (skipBlank_suffix f s))

/-- Nothing closes a class among the closing characters. -/
theorem readBracket_beyond {n : Nat} (h : skipBlank f s <:+ closing) :
    readBracket f n left items s = none := by
  refine Option.eq_none_iff_forall_not_mem.mpr fun ⟨b, rest⟩ hread => ?_
  have hmem : ']' ∈ closing := ((readBracket_suffix hread).trans h).subset (List.mem_cons_self ..)
  exact absurd hmem (by decide)

theorem readBracket_nil (n : Nat) (left : Option (SetOp × BracketSet)) (items : List BracketSet) :
    readBracket f n left items [] = none :=
  readBracket_beyond ((skipBlank_suffix f []).trans List.nil_suffix)

/-- Whether the classes in texts of up to `k` characters are read alike within two counts. -/
def ClassesAlike (f : Flags) (k n m : Nat) : Prop :=
  ∀ left items s, s.length ≤ k → ReadAlike (readBracket f n left items s)
    (readBracket f m left items (s ++ closing))

section Alike

variable {k n m : Nat}

/-- An item or an operator. -/
theorem ClassesAlike.listed (h : ClassesAlike f k n m) {u : List Char} (hu : u.length ≤ k + 1)
    (hs : skipBlank f s = u) (hs' : skipBlank f (s ++ closing) = u ++ closing)
    (hclose : u.head? ≠ some ']') (hopen : u.head? ≠ some '[') (hne : u ≠ []) :
    ReadAlike (readBracket f (n + 1) left items s)
      (readBracket f (m + 1) left items (s ++ closing)) := by
  rw [readBracket_item hs hclose hopen hne,
    readBracket_item hs' (head?_closing (by decide) hclose) (head?_closing (by decide) hopen)
      (by simp [hne])]
  rcases (extends_readOperator? u).cases_of_alike with
    ⟨hop, hop'⟩ | ⟨op, rest, hop, hop'⟩ | ⟨op, hop, hop'⟩
  · rw [hop, hop']
    refine (extends_readItem f u).bind (fun item rest hitem => ?_) (fun item _ => ?_) ?_
    · have hrest := (readItem_suffix hitem).2
      exact h _ _ rest (by omega)
    · simp only [readBracket_nil]
      exact .none
    · intro item rest b rest' hpast hread
      rw [readBracket_beyond ((skipBlank_suffix f rest).trans hpast)] at hread
      simp at hread
  · rw [hop, hop']
    have hrest := (readOperator?_suffix hop).2
    exact h _ _ rest (by omega)
  · rw [hop, hop']
    simp only [readBracket_nil]
    exact .none

/-- What stands after an opening bracket. -/
theorem ClassesAlike.opened (h : ClassesAlike f k n m) {u : List Char} (hu : u.length ≤ k)
    (hs : skipBlank f s = '[' :: u) (hs' : skipBlank f (s ++ closing) = '[' :: (u ++ closing)) :
    ReadAlike (readBracket f (n + 1) left items s)
      (readBracket f (m + 1) left items (s ++ closing)) := by
  simp only [readBracket, hs, hs']
  rcases (extends_readAsciiClass? u).cases_of_alike with
    ⟨hname, hname'⟩ | ⟨⟨negated, set⟩, rest, hname, hname'⟩ | ⟨⟨negated, set⟩, hname, hname'⟩
  · rw [hname, hname']
    have hnested : ReadAlike (readNested f (readBracket f n none) u)
        (readNested f (readBracket f m none) (u ++ closing)) :=
      extends_readNested (fun items v hv => h none items v (by omega)) (readBracket_nil n none)
        fun items v hv => readBracket_beyond ((skipBlank_suffix f v).trans hv)
    refine hnested.bind (fun item rest hitem => ?_) (fun item _ => ?_)
      fun _ _ _ _ hfalse _ => hfalse
    · have hrest := (readNested_suffix (fun _ _ _ _ => suffix_of_readBracket) hitem).length_le
      exact h _ _ rest (by omega)
    · simp only [readBracket_nil]
      exact .none
  · rw [hname, hname']
    have hrest := (readAsciiClass?_suffix hname).length_le
    simp only
    cases f.negate? negated set with
    | none => exact .none
    | some set => exact h _ _ rest (by omega)
  · rw [hname, hname']
    simp only [readBracket_nil]
    exact .refl fun _ _ h => by simp at h

end Alike

/-- **A class is closed in the text or not at all.** -/
theorem classesAlike {k n m : Nat} (hn : k < n) (hm : k + 2 < m) : ClassesAlike f k n m := by
  induction n generalizing m k with
  | zero => omega
  | succ n ih =>
    obtain ⟨m, rfl⟩ : ∃ k, m = k + 1 := ⟨m - 1, by omega⟩
    intro left items s hk
    have hlength := length_skipBlank f s
    rcases skipBlank_closing f s with hs' | ⟨hs, hs'⟩
    · rcases hs : skipBlank f s with _ | ⟨c, u⟩
      · rw [readBracket_beyond (s := s), readBracket_beyond (s := s ++ closing)]
        · exact .none
        · rw [hs', hs]
          exact List.suffix_refl _
        · rw [hs]
          exact List.nil_suffix
      · rw [hs] at hs'
        rw [hs, List.length_cons] at hlength
        by_cases hclose : c = ']'
        · subst hclose
          simp only [readBracket, hs, hs', List.cons_append]
          exact .some _ u
        · by_cases hopen : c = '['
          · subst hopen
            exact (ih (k := k - 1) (by omega) (by omega)).opened (by omega) hs hs'
          · have hlisted : (c :: u).length ≤ k - 1 + 1 := by
              rw [List.length_cons]
              omega
            exact (ih (k := k - 1) (by omega) (by omega)).listed hlisted hs hs'
              (by simpa using hclose) (by simpa using hopen) (by simp)
    · rw [readBracket, readBracket, hs, hs']
      exact .none

theorem readClass_suffix {b : BracketSet} (h : readClass f s = some (b, rest)) : rest <:+ s :=
  readNested_suffix (fun _ _ _ _ => suffix_of_readBracket) h

theorem extends_readClass (f : Flags) (s : List Char) :
    ReadAlike (readClass f s) (readClass f (s ++ closing)) :=
  extends_readNested (fun items u _ => classesAlike (Nat.lt_succ_self u.length) (by simp [closing])
      none items u (Nat.le_refl _))
    (fun items => readBracket_nil _ none items)
    fun items u hu => readBracket_beyond ((skipBlank_suffix f u).trans hu)

end PathRouting.Regex
