import PathRouting.Proofs.Pattern.Combination

/-!
# Patterns that insist on a file extension

Of a pattern like `/*.html` only the extension is kept when it is combined, so the extension must
not contradict that of the other pattern.  Two patterns are taken to contradict each other as soon
as both extensions leave nothing open, also when they are the same: so such a pattern cannot even
be combined with itself.

The extension of the first pattern is what stands after its first `*`, if a dot comes next, and
that of the second one starts at its first dot.

## Main definitions

* `StarExtension` — the file extension at the first `*.` of a text.
* `HasExtension` — the file and the file extension of a text.
* `Pattern.MergesExtension` — whether only the extension of a pattern is kept.

## Main results

* `extensionAfterStar?_eq_some`, `splitExtension_eq` — what is read of a text are its extensions.
* `Pattern.MergesExtension.combine_eq` — what comes of extensions that are merged.
* `combine_eq_error_iff` — when two patterns cannot be combined because of their extensions.
* `combine_self` — a pattern with an extension that leaves nothing open cannot be combined with
  itself.
-/

namespace PathRouting

open Text

/-! ### Extensions of texts -/

/-- The file extension at the first `*.` of a text. -/
def StarExtension (s ext : List Char) : Prop :=
  ∃ before, s = before ++ '*' :: ext ∧ ext.head? = some '.' ∧ ¬['*', '.'] <:+: before

/-- A text is a file and a file extension, which starts at the first dot. -/
structure HasExtension (s file ext : List Char) : Prop where
  /-- Nothing else is in the text. -/
  whole : s = file ++ ext
  /-- The file has no dot. -/
  file : '.' ∉ file
  /-- The extension starts with a dot, if there is one. -/
  ext : ext = [] ∨ ext.head? = some '.'

section Texts

variable {s file ext ext' : List Char}

theorem isConcrete_iff : isConcrete ext = true ↔ ext ≠ [] ∧ ext ≠ ['.', '*'] := by
  simp [isConcrete, and_comm]

/-- Before the first `*.` there may be any character, unless it starts a `*.` itself. -/
theorem starExtension_cons {c : Char} (hc : ∀ rest, c :: s ≠ '*' :: '.' :: rest) :
    StarExtension (c :: s) ext ↔ StarExtension s ext := by
  constructor
  · rintro ⟨before, hs, hdot, hbefore⟩
    cases before with
    | nil =>
      obtain ⟨rest, rfl⟩ := List.head?_eq_some_iff.mp hdot
      exact absurd hs (hc rest)
    | cons d before =>
      obtain ⟨-, rfl⟩ := List.cons.inj hs
      exact ⟨before, rfl, hdot, fun hinfix => hbefore (List.infix_cons hinfix)⟩
  · rintro ⟨before, rfl, hdot, hbefore⟩
    refine ⟨c :: before, rfl, hdot, ?_⟩
    intro hinfix
    rcases List.infix_cons_iff.mp hinfix with ⟨rest, hrest⟩ | hinfix
    · exact hc (rest ++ '*' :: ext) (by rw [← List.cons_append, ← hrest]; rfl)
    · exact hbefore hinfix

/-- **What is read after a `*` is the extension at the first `*.`.** -/
theorem extensionAfterStar?_eq_some : extensionAfterStar? s = some ext ↔ StarExtension s ext := by
  fun_induction extensionAfterStar? s with
  | case1 s =>
    constructor
    · intro heq
      obtain rfl := Option.some.inj heq
      exact ⟨[], rfl, rfl, by simp⟩
    · rintro ⟨before, hs, -, hbefore⟩
      match before, hs with
      | [], hs =>
        obtain ⟨-, hs⟩ := List.cons.inj hs
        rw [hs]
      | [_], hs => simp at hs
      | c :: d :: before, hs =>
        obtain ⟨hc, hs⟩ := List.cons.inj hs
        obtain ⟨hd, -⟩ := List.cons.inj hs
        exact absurd ⟨[], before, by rw [hc, hd]; rfl⟩ hbefore
  | case2 c s hc ih =>
    rw [ih]
    refine (starExtension_cons ?_).symm
    intro rest heq
    obtain ⟨rfl, rfl⟩ := List.cons.inj heq
    exact hc rest rfl rfl
  | case3 => simp [StarExtension]

/-- **What is read of a text are its file and its extension.** -/
theorem splitExtension_eq : splitExtension s = (file, ext) ↔ HasExtension s file ext := by
  constructor
  · intro heq
    obtain ⟨rfl, rfl⟩ := Prod.mk.inj heq
    refine ⟨List.takeWhile_append_dropWhile.symm, ?_, ?_⟩
    · intro hmem
      simpa using List.mem_takeWhile_imp hmem
    · rcases hcut : cutAt '.' s with _ | ⟨before, after⟩
      · exact .inl (span_of_notMem (cutAt_eq_none.mp hcut)).2
      · right
        rw [(span_of_cutAt hcut).2]
        rfl
  · rintro ⟨rfl, hfile, rfl | hdot⟩
    · obtain ⟨htake, hdrop⟩ := span_of_notMem hfile
      rw [splitExtension, List.append_nil, htake, hdrop]
    · obtain ⟨rest, rfl⟩ := List.head?_eq_some_iff.mp hdot
      obtain ⟨htake, hdrop⟩ := span_of_cutAt (cutAt_append hfile rest)
      rw [splitExtension, htake, hdrop]

/-- An extension at a `*.` that leaves nothing open is the end of one at the first dot that leaves
nothing open. -/
theorem StarExtension.isConcrete (h : StarExtension s ext) (hext : HasExtension s file ext')
    (hconcrete : PathRouting.isConcrete ext = true) : PathRouting.isConcrete ext' = true := by
  obtain ⟨before, rfl, hdot, -⟩ := h
  obtain ⟨rest, rfl⟩ := List.head?_eq_some_iff.mp hdot
  obtain ⟨hwhole, hfile, hstart⟩ := hext
  rw [isConcrete_iff] at hconcrete ⊢
  constructor
  · rintro rfl
    rw [List.append_nil] at hwhole
    exact hfile (hwhole ▸ by simp)
  · rintro rfl
    rcases List.append_eq_append_iff.mp hwhole with ⟨rest', rfl, hrest⟩ | ⟨rest', -, hrest⟩
    · match rest', hrest with
      | [], hrest => simp at hrest
      | [c], hrest =>
        obtain ⟨-, hrest⟩ := List.cons.inj hrest
        exact hconcrete.2 hrest
      | c :: d :: rest', hrest =>
        obtain ⟨-, hrest⟩ := List.cons.inj hrest
        obtain ⟨rfl, -⟩ := List.cons.inj hrest
        exact hfile (by simp)
    · have hlength := congrArg List.length hrest
      simp only [List.length_append, List.length_cons, List.length_nil] at hlength
      obtain rfl : rest' = [] := List.length_eq_zero_iff.mp (by omega)
      simp at hrest

end Texts

/-! ### Extensions that are merged -/

/-- Whether only the file extension of a pattern is kept when it is combined with another one. -/
structure Pattern.MergesExtension (p q : Pattern) : Prop where
  /-- It does not make way for the other one. -/
  stays : ¬p.MakesWayFor q
  /-- The `*` at its end does not give way to the other one. -/
  ends : p.endsWithWildcard = false
  /-- It records nothing. -/
  captures : p.captureCount = 0
  /-- Dots do not separate segments. -/
  separator : p.separator ≠ '.'
  /-- There is a file extension. -/
  star : ∃ ext, StarExtension p.text ext

section Merge

variable {p q : Pattern} {ext ext' file first second : List Char}

/-- **Extensions are merged or they clash.**  The combined pattern has the extension that leaves
nothing open, if there is one, and there must not be two. -/
theorem Pattern.MergesExtension.combine_eq (h : p.MergesExtension q) (hsecond : q.text ≠ [])
    (hstar : StarExtension p.text ext) (hext : HasExtension q.text file ext') : p.combine q =
      if isConcrete ext = true ∧ isConcrete ext' = true then .error (.combine p.text q.text)
      else p.reparse (file ++ if isConcrete ext then ext else ext') := by
  have hread := extensionAfterStar?_eq_some.mpr hstar
  have hsplit := splitExtension_eq.mpr hext
  have hfirst : p.text ≠ [] := by
    obtain ⟨before, htext, -⟩ := hstar
    simp [htext]
  have hcombination := p.combination q
  generalize p.combine q = result at hcombination ⊢
  cases hcombination with
  | neither first _ => exact absurd first hfirst
  | second first _ => exact absurd first hfirst
  | first _ second => exact absurd second hsecond
  | makesWay _ _ way => exact absurd way h.stays
  | wildcard _ _ _ ends => exact absurd (ends.symm.trans h.ends) (by simp)
  | joined _ _ _ _ star => simp [star h.captures h.separator] at hread
  | clash _ _ _ _ _ _ star concrete concrete' =>
    obtain rfl := Option.some.inj (hread.symm.trans star)
    rw [hsplit] at concrete'
    rw [if_pos ⟨concrete, concrete'⟩]
  | merged _ _ _ _ _ _ star leaves =>
    obtain rfl := Option.some.inj (hread.symm.trans star)
    rw [hsplit] at leaves ⊢
    have hopen : ¬(isConcrete ext = true ∧ isConcrete ext' = true) := by
      rintro ⟨hconcrete, hconcrete'⟩
      simp [hconcrete, hconcrete'] at leaves
    rw [if_neg hopen]

/-- A text that is read again is not to blame for extensions. -/
theorem Pattern.reparse_ne_combine (p : Pattern) (text : List Char) :
    p.reparse text ≠ .error (.combine first second) := by
  rw [reparse]
  cases Pattern.parse p.options text with
  | ok r =>
    intro heq
    cases heq
  | error fault =>
    intro heq
    exact Error.noConfusion (Except.error.inj heq)

/-- Extensions that leave nothing open clash. -/
theorem Pattern.MergesExtension.clash (h : p.MergesExtension q) (hstar : StarExtension p.text ext)
    (hext : HasExtension q.text file ext') (hconcrete : isConcrete ext = true)
    (hconcrete' : isConcrete ext' = true) : p.combine q = .error (.combine p.text q.text) := by
  have hsecond : q.text ≠ [] := by
    rw [hext.whole]
    exact List.append_ne_nil_of_right_ne_nil file (isConcrete_iff.mp hconcrete').1
  rw [h.combine_eq hsecond hstar hext, if_pos ⟨hconcrete, hconcrete'⟩]

/-- **Two patterns cannot be combined because of their extensions just when both leave nothing
open**, and no other way to combine them comes first.  That the extensions are different is not
asked for. -/
theorem combine_eq_error_iff : p.combine q = .error (.combine first second) ↔
    (first = p.text ∧ second = q.text) ∧ ¬p.MakesWayFor q ∧ p.endsWithWildcard = false ∧
      p.captureCount = 0 ∧ p.separator ≠ '.' ∧
      ∃ ext file ext', StarExtension p.text ext ∧ HasExtension q.text file ext' ∧
        isConcrete ext = true ∧ isConcrete ext' = true := by
  constructor
  · intro h
    have hcombination := p.combination q
    rw [h] at hcombination
    generalize hresult : Except.error (Error.combine first second) = result at hcombination
    cases hcombination with
    | neither => exact absurd hresult.symm (p.reparse_ne_combine _)
    | second => cases hresult
    | first => cases hresult
    | makesWay => cases hresult
    | wildcard => exact absurd hresult.symm (p.reparse_ne_combine _)
    | joined => exact absurd hresult.symm (p.reparse_ne_combine _)
    | clash _ _ way ends captures separator star concrete concrete' =>
      cases hresult
      exact ⟨⟨rfl, rfl⟩, way, ends, captures, separator, _, _, _,
        extensionAfterStar?_eq_some.mp star, splitExtension_eq.mp rfl, concrete, concrete'⟩
    | merged => exact absurd hresult.symm (p.reparse_ne_combine _)
  · rintro ⟨⟨rfl, rfl⟩, hway, hends, hcaptures, hseparator, ext, file, ext', hstar, hext, hconcrete,
      hconcrete'⟩
    have hmerges : p.MergesExtension q := ⟨hway, hends, hcaptures, hseparator, ext, hstar⟩
    exact hmerges.clash hstar hext hconcrete hconcrete'

/-- The pattern `/*.html` and the pattern itself, which have the same extension. -/
theorem combine_eq_error_html : ∃ p, Pattern.parse .default "/*.html".toList = .ok p ∧
    StarExtension p.text ".html".toList ∧ HasExtension p.text "/*".toList ".html".toList ∧
    p.combine p = .error (.combine p.text p.text) := by
  have hread : (Pattern.parse .default "/*.html".toList).toOption.map (fun p =>
      (p.captureCount, p.endsWithWildcard)) = some (0, false) := by decide +kernel
  obtain ⟨p, hp, hcounts⟩ := Option.map_eq_some_iff.mp hread
  obtain ⟨hcaptures, hends⟩ := Prod.mk.inj hcounts
  rw [toOption_eq_some] at hp
  obtain ⟨htext, hoptions⟩ := text_of_parse hp
  have hstar : StarExtension p.text ".html".toList := by
    rw [htext]
    exact extensionAfterStar?_eq_some.mp rfl
  have hext : HasExtension p.text "/*".toList ".html".toList := by
    rw [htext]
    exact splitExtension_eq.mp rfl
  have hseparator : p.separator ≠ '.' := by
    rw [Pattern.separator, hoptions]
    decide
  have hmerges : p.MergesExtension p :=
    ⟨fun way => way.1 rfl, hends, hcaptures, hseparator, _, hstar⟩
  exact ⟨p, hp, hstar, hext, hmerges.clash hstar hext rfl rfl⟩

/-- **A pattern with an extension that leaves nothing open cannot be combined with itself.** -/
theorem combine_self (h : p.MergesExtension p) (hstar : StarExtension p.text ext)
    (hconcrete : isConcrete ext = true) : p.combine p = .error (.combine p.text p.text) := by
  have hext : HasExtension p.text _ _ := splitExtension_eq.mp rfl
  exact h.clash hstar hext hconcrete (hstar.isConcrete hext hconcrete)

end Merge

end PathRouting
