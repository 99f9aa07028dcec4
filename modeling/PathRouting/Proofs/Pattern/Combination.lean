import PathRouting.Proofs.Pattern.Combine
import PathRouting.Proofs.Pattern.LiteralPrefix
import PathRouting.Proofs.Pattern.Spelling

/-!
# The ways to combine two patterns

Two patterns are combined in one of eight ways, and which one it is depends on their texts, on
whether the first of them records anything, and on whether it matches the text of the second.  What
is known in each of these ways is stated here once.

Where patterns are plain text, none of the exceptions applies: two texts are put together with one
separator where they meet, and this has the laws of a monoid.

## Main definitions

* `Pattern.MakesWayFor` — whether a pattern makes way for another one.
* `Pattern.Combination` — the ways to combine two patterns, and what comes of each.
* `withoutLast`, `withoutFirst` — a text without a separator at one of its ends.
* `combinedText` — the text of two plain patterns that are combined.

## Main results

* `combination` — two patterns are combined in one of the ways.
* `joinTexts_eq` — texts put together have one separator where they meet.
* `combinedText_assoc` — putting texts together is associative.
* `combine_plain` — plain patterns that are combined are a monoid.
-/

namespace PathRouting

/-! ### The ways -/

namespace Pattern

/-- Whether a pattern makes way for another one: the other one has another text, which the pattern
matches without recording anything. -/
def MakesWayFor (p q : Pattern) : Prop :=
  p.text ≠ q.text ∧ p.captureCount = 0 ∧ p.matchesText q.text = true

/-- The ways to combine two patterns, and what comes of it. -/
inductive Combination (p q : Pattern) : Except Error Pattern → Prop
  /-- Neither has a text. -/
  | neither (first : p.text = []) (second : q.text = []) : Combination p q (p.reparse [])
  /-- Only the second one has a text. -/
  | second (first : p.text = []) (second : q.text ≠ []) : Combination p q (.ok q)
  /-- Only the first one has a text. -/
  | first (first : p.text ≠ []) (second : q.text = []) : Combination p q (.ok p)
  /-- The first one makes way for the second one. -/
  | makesWay (first : p.text ≠ []) (second : q.text ≠ []) (way : p.MakesWayFor q) :
      Combination p q (.ok q)
  /-- The second one takes the place of the `*` at the end of the first one. -/
  | wildcard (first : p.text ≠ []) (second : q.text ≠ []) (way : ¬p.MakesWayFor q)
      (ends : p.endsWithWildcard = true) :
      Combination p q
        (p.reparse (joinTexts p.separator (p.text.take (p.text.length - 2)) q.text))
  /-- The texts are put together. -/
  | joined (first : p.text ≠ []) (second : q.text ≠ []) (way : ¬p.MakesWayFor q)
      (ends : p.endsWithWildcard = false)
      (star : p.captureCount = 0 → p.separator ≠ '.' → extensionAfterStar? p.text = none) :
      Combination p q (p.reparse (joinTexts p.separator p.text q.text))
  /-- Both ask for an extension of their own. -/
  | clash {ext : List Char} (first : p.text ≠ []) (second : q.text ≠ [])
      (way : ¬p.MakesWayFor q) (ends : p.endsWithWildcard = false) (captures : p.captureCount = 0)
      (separator : p.separator ≠ '.') (star : extensionAfterStar? p.text = some ext)
      (concrete : isConcrete ext = true) (concrete' : isConcrete (splitExtension q.text).2 = true) :
      Combination p q (.error (.combine p.text q.text))
  /-- The second one has the extension of the first one, or it keeps its own. -/
  | merged {ext : List Char} (first : p.text ≠ []) (second : q.text ≠ [])
      (way : ¬p.MakesWayFor q) (ends : p.endsWithWildcard = false) (captures : p.captureCount = 0)
      (separator : p.separator ≠ '.') (star : extensionAfterStar? p.text = some ext)
      (leaves : isConcrete ext = false ∨ isConcrete (splitExtension q.text).2 = false) :
      Combination p q (p.reparse ((splitExtension q.text).1 ++
        if isConcrete ext then ext else (splitExtension q.text).2))

/-- **Two patterns are combined in one of the ways.** -/
theorem combination (p q : Pattern) : Combination p q (p.combine q) := by
  rw [combine]
  split
  · next hfirst =>
    split
    · next hsecond => exact .neither hfirst hsecond
    · next hsecond => exact .second hfirst hsecond
  next hfirst =>
  split
  · next hsecond => exact .first hfirst hsecond
  next hsecond =>
  split
  · next hway => exact .makesWay hfirst hsecond hway
  next hway =>
  split
  · next hends => exact .wildcard hfirst hsecond hway hends
  next hends =>
  rw [Bool.not_eq_true] at hends
  by_cases hmerges : p.captureCount = 0 ∧ p.separator ≠ '.'
  · obtain ⟨hcaptures, hseparator⟩ := hmerges
    rw [if_pos ⟨hcaptures, hseparator⟩]
    rcases hstar : extensionAfterStar? p.text with _ | ext
    · exact .joined hfirst hsecond hway hends fun _ _ => hstar
    · dsimp only
      split
      · next hconcrete =>
        obtain ⟨hext, hother⟩ := Bool.and_eq_true_iff.mp hconcrete
        exact .clash hfirst hsecond hway hends hcaptures hseparator hstar hext hother
      · next hconcrete =>
        refine .merged hfirst hsecond hway hends hcaptures hseparator hstar ?_
        simpa [Classical.or_iff_not_imp_left] using hconcrete
  · rw [if_neg hmerges]
    exact .joined hfirst hsecond hway hends fun hcaptures hseparator =>
      absurd ⟨hcaptures, hseparator⟩ hmerges

/-- A pattern that is read again has the text that it is read from. -/
theorem text_of_reparse {p r : Pattern} {text : List Char} (h : p.reparse text = .ok r) :
    r.text = text :=
  (text_of_parse (mapError_eq_ok.mp h)).1

end Pattern

/-! ### Texts put together -/

section Texts

variable (separator : Char)

/-- A text without the separator at its end, if there is one. -/
def withoutLast (s : List Char) : List Char :=
  if s.getLast? = some separator then s.dropLast else s

/-- A text without the separator at its start, if there is one. -/
def withoutFirst (s : List Char) : List Char :=
  if s.head? = some separator then s.tail else s

/-- The text of two plain patterns that are combined: without an empty one, or with one separator
where they meet. -/
def combinedText (a b : List Char) : List Char :=
  if a = [] then b else if b = [] then a
  else withoutLast separator a ++ separator :: withoutFirst separator b

variable {separator}

@[simp] theorem withoutLast_concat (s : List Char) :
    withoutLast separator (s ++ [separator]) = s := by
  simp [withoutLast]

@[simp] theorem withoutFirst_cons (s : List Char) :
    withoutFirst separator (separator :: s) = s := by
  simp [withoutFirst]

theorem withoutLast_of_ne {s : List Char} (h : s.getLast? ≠ some separator) :
    withoutLast separator s = s := if_neg h

theorem withoutFirst_of_ne {s : List Char} (h : s.head? ≠ some separator) :
    withoutFirst separator s = s := if_neg h

/-- The end of a text is the end of its last part. -/
theorem withoutLast_append (s : List Char) {t : List Char} (ht : t ≠ []) :
    withoutLast separator (s ++ t) = s ++ withoutLast separator t := by
  rw [withoutLast, withoutLast, List.getLast?_append_of_ne_nil s ht,
    List.dropLast_append_of_ne_nil ht]
  split <;> rfl

/-- **Texts put together have one separator where they meet.** -/
theorem joinTexts_eq (first second : List Char) : joinTexts separator first second
      = withoutLast separator first ++ separator :: withoutFirst separator second := by
  by_cases hlast : first.getLast? = some separator
  · obtain ⟨init, rfl⟩ := List.getLast?_eq_some_iff.mp hlast
    rw [withoutLast_concat, joinTexts, beq_iff_eq.mpr hlast]
    by_cases hhead : second.head? = some separator
    · obtain ⟨rest, rfl⟩ := List.head?_eq_some_iff.mp hhead
      simp
    · rw [beq_false_of_ne hhead, withoutFirst_of_ne hhead]
      simp
  · rw [withoutLast_of_ne hlast, joinTexts, beq_false_of_ne hlast]
    by_cases hhead : second.head? = some separator
    · obtain ⟨rest, rfl⟩ := List.head?_eq_some_iff.mp hhead
      simp
    · rw [beq_false_of_ne hhead, withoutFirst_of_ne hhead]

/-- What is put between two texts may be put to either of them first. -/
theorem withoutLast_withoutFirst {b : List Char} (hb : b ≠ []) (t : List Char) :
    withoutLast separator (separator :: withoutFirst separator b) ++ separator :: t
      = separator :: withoutFirst separator (withoutLast separator b ++ separator :: t) := by
  cases b with
  | nil => exact absurd rfl hb
  | cons d b =>
    by_cases hd : d = separator
    · subst hd
      by_cases hrest : b = []
      -- the separator alone goes whichever end it is taken for
      · subst hrest
        have hlone : withoutLast d [d] = [] := withoutLast_concat []
        simp [hlone]
      · have hsplit : withoutLast d (d :: b) = d :: withoutLast d b :=
          withoutLast_append [d] hrest
        rw [withoutFirst_cons, hsplit, List.cons_append, withoutFirst_cons]
    · have hhead : (d :: b).head? ≠ some separator := by simpa using hd
      have hsplit : withoutLast separator (separator :: d :: b)
          = separator :: withoutLast separator (d :: b) :=
        withoutLast_append [separator] (List.cons_ne_nil d b)
      have hkept : (withoutLast separator (d :: b) ++ separator :: t).head? ≠ some separator := by
        by_cases hrest : b = []
        · subst hrest
          rw [withoutLast_of_ne (by simpa using hd)]
          simpa using hd
        · have hcons : withoutLast separator (d :: b) = d :: withoutLast separator b :=
            withoutLast_append [d] hrest
          rw [hcons]
          simpa using hd
      rw [withoutFirst_of_ne hhead, hsplit, withoutFirst_of_ne hkept]
      rfl

@[simp] theorem combinedText_nil_left (s : List Char) : combinedText separator [] s = s :=
  if_pos rfl

@[simp] theorem combinedText_nil_right (s : List Char) : combinedText separator s [] = s := by
  cases s <;> rfl

theorem combinedText_of_ne {a b : List Char} (ha : a ≠ []) (hb : b ≠ []) :
    combinedText separator a b
      = withoutLast separator a ++ separator :: withoutFirst separator b := by
  rw [combinedText, if_neg ha, if_neg hb]

/-- **Putting texts together is associative.** -/
theorem combinedText_assoc (a b c : List Char) :
    combinedText separator (combinedText separator a b) c
      = combinedText separator a (combinedText separator b c) := by
  by_cases ha : a = []
  · rw [ha, combinedText_nil_left, combinedText_nil_left]
  by_cases hb : b = []
  · rw [hb, combinedText_nil_right, combinedText_nil_left]
  by_cases hc : c = []
  · rw [hc, combinedText_nil_right, combinedText_nil_right]
  have hne : ∀ s t : List Char, s ++ separator :: t ≠ [] := by simp
  rw [combinedText_of_ne ha hb, combinedText_of_ne hb hc, combinedText_of_ne (hne _ _) hc,
    combinedText_of_ne ha (hne _ _), withoutLast_append _ (List.cons_ne_nil _ _),
    List.append_assoc, withoutLast_withoutFirst hb]

end Texts

/-! ### Plain patterns -/

/-- Whether a text has no meaning of its own, neither in patterns nor in paths. -/
def IsBareText (s : List Char) : Prop := ∀ c ∈ s, c ∉ ['{', '}', '*', '?', '%', ';']

instance (s : List Char) : Decidable (IsBareText s) :=
  List.decidableBAll (fun c => c ∉ ['{', '}', '*', '?', '%', ';']) s

namespace IsBareText

variable {s t : List Char}

theorem notMem (h : IsBareText s) {c : Char} (hc : c ∈ ['{', '}', '*', '?', '%', ';']) : c ∉ s :=
  fun hmem => h c hmem hc

theorem isPlainText (h : IsBareText s) : IsPlainText s := by
  intro c hc hmem
  exact h c hc (List.mem_append_left ['%', ';'] hmem)

theorem keeps (h : IsBareText s) (options : PathOptions) : options.Keeps s :=
  ⟨fun _ => h.notMem (by simp), fun _ => h.notMem (by simp)⟩

/-- A text that is put together from bare ones with an acceptable separator is bare. -/
theorem combinedText {o : PatternOptions} (ho : o.validate = .ok o) (hs : IsBareText s)
    (ht : IsBareText t) : IsBareText (combinedText o.separator s t) := by
  have hseparator : o.separator ∉ ['{', '}', '*', '?', '%', ';'] := by
    intro hmem
    apply notMem_reservedChars ho
    revert hmem
    generalize o.separator = c
    simp only [reservedChars, List.mem_cons]
    tauto
  intro c hc
  rw [PathRouting.combinedText] at hc
  split at hc
  · exact ht c hc
  split at hc
  · exact hs c hc
  rcases List.mem_append.mp hc with hc | hc
  · refine hs c ?_
    rw [withoutLast] at hc
    split at hc
    · exact List.dropLast_subset s hc
    · exact hc
  · rcases List.mem_cons.mp hc with rfl | hc
    · exact hseparator
    · refine ht c ?_
      rw [withoutFirst] at hc
      split at hc
      · exact List.mem_of_mem_tail hc
      · exact hc

end IsBareText

section Plain

variable {o : PatternOptions} {a b c : List Char} {p q : Pattern}

/-- A bare text is a literal pattern. -/
theorem exists_parse_bare (o : PatternOptions) (h : IsBareText a) :
    ∃ p, Pattern.parse o a = .ok p := by
  obtain ⟨p, hp, -⟩ := parse_plain (o := o) h.isPlainText
  exact ⟨p, hp⟩

theorem isLiteral_of_bare (h : IsBareText a) (hp : Pattern.parse o a = .ok p) :
    ∀ k ∈ p.kinds, k.isLiteral = true := by
  obtain ⟨p', hp', hkinds⟩ := parse_plain (o := o) h.isPlainText
  obtain rfl := Except.ok.inj (hp'.symm.trans hp)
  rw [hkinds]
  intro k hk
  obtain ⟨r, -, rfl⟩ := List.mem_map.mp hk
  cases r <;> rfl

/-- **Bare patterns are combined by putting their texts together**, and this never fails. -/
theorem combine_of_bare (ho : o.validate = .ok o) (hcase : o.caseSensitive = true)
    (htrailing : o.optionalTrailingSeparator = false) (ha : IsBareText a) (hb : IsBareText b)
    (hp : Pattern.parse o a = .ok p) (hq : Pattern.parse o b = .ok q) :
    ∃ r, p.combine q = .ok r ∧ Pattern.parse o (combinedText o.separator a b) = .ok r := by
  obtain ⟨hptext, hoptions⟩ := text_of_parse hp
  obtain ⟨hqtext, -⟩ := text_of_parse hq
  have hstar : '*' ∉ p.text := by
    rw [hptext]
    exact ha.notMem (by simp)
  obtain ⟨r, hr⟩ := exists_parse_bare o (ha.combinedText ho hb)
  have hcombination := p.combination q
  generalize p.combine q = result at hcombination ⊢
  cases hcombination with
  | neither first second =>
    refine ⟨p, ?_, ?_⟩
    · rw [Pattern.reparse, hoptions, ← first, hptext, hp]
      rfl
    · rw [combinedText, if_pos (hptext ▸ first), ← hqtext, second, ← first, hptext, hp]
  | second first _ => exact ⟨q, rfl, by rw [combinedText, if_pos (hptext ▸ first), hq]⟩
  | first first second =>
    refine ⟨p, rfl, ?_⟩
    rw [combinedText, if_neg (hptext ▸ first), if_pos (hqtext ▸ second), hp]
  | makesWay _ _ way =>
    obtain ⟨hne, -, hmatch⟩ := way
    rw [hptext, hqtext] at hne
    rw [hqtext] at hmatch
    exact absurd (eq_of_matchesText hp hcase (hb.keeps o.path) htrailing (isLiteral_of_bare ha hp)
      hmatch) hne
  | wildcard _ _ _ ends =>
    rw [Pattern.endsWithWildcard, beq_iff_eq] at ends
    refine absurd (List.mem_of_mem_drop (i := p.text.length - 2) ?_) hstar
    rw [ends]
    simp
  | joined first second _ _ _ =>
    refine ⟨r, ?_, hr⟩
    rw [Pattern.reparse, hoptions, separator_of_parse hp, joinTexts_eq, hptext, hqtext,
      ← combinedText_of_ne (hptext ▸ first) (hqtext ▸ second), hr]
    rfl
  | clash _ _ _ _ _ _ star => simp [extensionAfterStar?_eq_none hstar] at star
  | merged _ _ _ _ _ _ star => simp [extensionAfterStar?_eq_none hstar] at star

/-- **Plain patterns that are combined are a monoid.**  Where case makes a difference and no
separator may follow, texts without characters that have a meaning of their own are patterns that
can always be combined, in either order to the same pattern; the empty one changes nothing, and two
others are put together with one separator where they meet. -/
theorem combine_plain (ho : o.validate = .ok o) (hcase : o.caseSensitive = true)
    (htrailing : o.optionalTrailingSeparator = false) (ha : IsBareText a) (hb : IsBareText b)
    (hc : IsBareText c) :
    ∃ e p q r pq qr pqr, Pattern.parse o [] = .ok e ∧ Pattern.parse o a = .ok p ∧
      Pattern.parse o b = .ok q ∧ Pattern.parse o c = .ok r ∧
      e.combine p = .ok p ∧ p.combine e = .ok p ∧
      p.combine q = .ok pq ∧ q.combine r = .ok qr ∧
      pq.combine r = .ok pqr ∧ p.combine qr = .ok pqr ∧
      (a ≠ [] → b ≠ [] →
        pq.text = withoutLast o.separator a ++ o.separator :: withoutFirst o.separator b) := by
  have hnil : IsBareText [] := by
    intro d hd
    simp at hd
  obtain ⟨e, he⟩ := exists_parse_bare o hnil
  obtain ⟨p, hp⟩ := exists_parse_bare o ha
  obtain ⟨q, hq⟩ := exists_parse_bare o hb
  obtain ⟨r, hr⟩ := exists_parse_bare o hc
  -- each combination is the pattern of the texts put together
  obtain ⟨ep, hep, heptext⟩ := combine_of_bare ho hcase htrailing hnil ha he hp
  obtain ⟨pe, hpe, hpetext⟩ := combine_of_bare ho hcase htrailing ha hnil hp he
  obtain ⟨pq, hpq, hpqtext⟩ := combine_of_bare ho hcase htrailing ha hb hp hq
  obtain ⟨qr, hqr, hqrtext⟩ := combine_of_bare ho hcase htrailing hb hc hq hr
  obtain ⟨pqr, hpqr, hpqrtext⟩ :=
    combine_of_bare ho hcase htrailing (ha.combinedText ho hb) hc hpqtext hr
  obtain ⟨pqr', hpqr', hpqrtext'⟩ :=
    combine_of_bare ho hcase htrailing ha (hb.combinedText ho hc) hp hqrtext
  obtain rfl : ep = p := by
    rw [combinedText_nil_left, hp] at heptext
    exact (Except.ok.inj heptext).symm
  obtain rfl : pe = ep := by
    rw [combinedText_nil_right, hp] at hpetext
    exact (Except.ok.inj hpetext).symm
  obtain rfl : pqr = pqr' := by
    rw [combinedText_assoc, hpqrtext'] at hpqrtext
    exact (Except.ok.inj hpqrtext).symm
  refine ⟨e, pe, q, r, pq, qr, pqr, he, hp, hq, hr, hep, hpe, hpq, hqr, hpqr, hpqr', ?_⟩
  intro hane hbne
  rw [(text_of_parse hpqtext).1, combinedText_of_ne hane hbne]

/-- `/a/`, a lone separator and `//b`. -/
theorem combine_plain_separators : ∃ p q r pq qr pqr,
    Pattern.parse .default ['/', 'a', '/'] = .ok p ∧ Pattern.parse .default ['/'] = .ok q ∧
      Pattern.parse .default ['/', '/', 'b'] = .ok r ∧
      p.combine q = .ok pq ∧ q.combine r = .ok qr ∧ pq.combine r = .ok pqr ∧
      p.combine qr = .ok pqr ∧ pq.text = ['/', 'a', '/'] := by
  have ha : IsBareText ['/', 'a', '/'] := by decide
  have hb : IsBareText ['/'] := by decide
  have hc : IsBareText ['/', '/', 'b'] := by decide
  obtain ⟨e, p, q, r, pq, qr, pqr, -, hp, hq, hr, -, -, hpq, hqr, hpqr, hpqr', htext⟩ :=
    combine_plain (o := .default) rfl rfl rfl ha hb hc
  exact ⟨p, q, r, pq, qr, pqr, hp, hq, hr, hpq, hqr, hpqr, hpqr',
    htext (List.cons_ne_nil _ _) (List.cons_ne_nil _ _)⟩

end Plain

end PathRouting
