import PathRouting.Proofs.Pattern.AfterSeparator
import PathRouting.Proofs.Pattern.Trailing
import PathRouting.Proofs.Search.Offset

/-!
# `**` for no segment at all

A `**` with a separator after it may be put at the start of a pattern or after a separator: what
matched without it matches still, the `**` standing for nothing.  In the middle of a path the
separator after the `**` is then the one before it; at the front of a path it is left out.

## Main results

* `isSome_search_zeroSegments` — the elements with a `**` put between them.
* `kinds_zeroSegments` — the elements of the text with a `**` put into it.
* `isMatch_zeroSegments` — the paths that still match.
-/

namespace PathRouting

/-! ### The search -/

section Search

variable {q : Query} {segments separator : PatternElement}

/-- At the front of a path or after a separator, a `**` and a separator more make no way lost. -/
theorem isSome_search_segments_separator (hsegments : segments.kind = .segments)
    (hseparator : separator.kind = .separator) {later : List PatternElement} {index : Nat}
    (hindex : index = 0 ∨ q.isSeparator (index - 1) = true)
    (h : (search q later index false).isSome) :
    (search q (segments :: separator :: later) index false).isSome := by
  rw [Option.isSome_iff_exists] at h ⊢
  by_cases hzero : index = 0
  · subst hzero
    exact exists_search_of_restart hsegments (r := .pastSeparator)
      (mem_restarts.mpr (.inr (.inr ⟨rfl, hseparator, rfl⟩))) h
  -- the separator before the `**` is taken once more
  · have hsep := hindex.resolve_left hzero
    have hpos : 0 < index := Nat.pos_of_ne_zero hzero
    have hback : attempt q separator later (.atIndex (index - 1)) = search q later index false := by
      rw [attempt, search_separator hseparator, if_pos hsep, Nat.sub_add_cancel hpos]
    exact exists_search_of_restart hsegments
      (mem_restarts.mpr (.inr (.inl ⟨hpos, hsep, rfl⟩))) (hback ▸ h)

/-- **A `**` and a separator more, after elements that end with a separator, make no way lost.** -/
theorem isSome_search_zeroSegments (hsegments : segments.kind = .segments)
    (hseparator : separator.kind = .separator) (later : List PatternElement)
    {es : List PatternElement} (hlast : ∀ e ∈ es.getLast?, e.kind = .separator) {index : Nat}
    {afterSegment : Bool} (hstart : es = [] → afterSegment = false ∧
      (index = 0 ∨ q.isSeparator (index - 1) = true))
    (h : (search q (es ++ later) index afterSegment).isSome) :
    (search q (es ++ segments :: separator :: later) index afterSegment).isSome := by
  -- after an element that is no separator there is one more
  have hmore : ∀ {e : PatternElement} {after : List PatternElement},
      (∀ d ∈ (e :: after).getLast?, d.kind = .separator) → e.kind ≠ .separator → after ≠ [] := by
    rintro e _ h hne rfl
    exact hne (h e rfl)
  induction es using search_induction generalizing index afterSegment with
  | nil =>
    obtain ⟨rfl, hindex⟩ := hstart rfl
    exact isSome_search_segments_separator hsegments hseparator hindex h
  | separator e after hkind ih =>
    rw [List.cons_append, search_separator hkind] at h ⊢
    split at h
    · next hsep =>
      rw [if_pos hsep]
      exact ih (forall_getLast?_of_cons hlast) (fun _ => ⟨rfl, .inr hsep⟩) h
    · simp at h
  | wildcard e after hkind ih =>
    have hne := hmore hlast (by simp [hkind])
    have hempty : ∀ later : List PatternElement, (after ++ later).isEmpty = false := by simp [hne]
    rw [List.cons_append, search_wildcard hkind, hempty] at h ⊢
    rcases hs : q.segment? index with _ | s
    · simp [hs] at h
    · simp only [hs] at h ⊢
      split at h
      · simp at h
      · next hvalue =>
        rw [if_neg hvalue]
        exact ih (forall_getLast?_of_cons hlast) (fun hnil => absurd hnil hne) h
  | lastSegments e hkind =>
    exact absurd rfl (hmore hlast (by simp [hkind]))
  | segments e next rest hkind ihnext ihrest =>
    have hlast' := forall_getLast?_of_cons hlast
    obtain ⟨o, ho⟩ := Option.isSome_iff_exists.mp h
    obtain ⟨r, hr, hattempt⟩ := exists_restart hkind ho
    rw [Option.isSome_iff_exists]
    refine exists_search_of_restart hkind hr (Option.isSome_iff_exists.mp ?_)
    have hsome := Option.isSome_of_eq_some hattempt
    rcases mem_restarts.mp hr with ⟨i, -, -, rfl⟩ | ⟨-, -, rfl⟩ | ⟨-, -, rfl⟩
    · exact ihnext hlast' (by simp) hsome
    · exact ihnext hlast' (by simp) hsome
    -- past the separator the search starts anew at the front of the path
    · exact ihrest (forall_getLast?_of_cons hlast') (fun _ => ⟨rfl, .inl rfl⟩) hsome
  | catchAll e after hkind =>
    rw [List.cons_append, search_catchAll hkind] at h ⊢
    exact h
  | takes e after hkind ih =>
    have hne : e.kind ≠ .separator := by
      rintro heq
      simp [heq, ElementKind.takes] at hkind
    rw [List.cons_append, search_takes hkind] at h ⊢
    rcases hs : (q.segment? index).bind fun s => q.take? s e.kind with _ | bs
    · simp [hs] at h
    · simp only [hs, Option.bind_some, Option.isSome_map] at h ⊢
      exact ih (forall_getLast?_of_cons hlast) (fun hnil => absurd hnil (hmore hlast hne)) h

end Search

/-! ### Patterns -/

section Patterns

variable {o : PatternOptions} {text later : List Char} {p p₁ p₂ : Pattern}

/-- The elements of two texts put together, and with a `**` and a separator between the two. -/
theorem kinds_zeroSegments (ho : o.validate = .ok o) (h : Pattern.parse o text = .ok p)
    (hlast : text = [] ∨ text.getLast? = some o.separator) (hsegments : later ≠ ['*', '*'])
    (hrest : ¬['{', '*'] <+: later) (h₁ : Pattern.parse o (text ++ later) = .ok p₁)
    (h₂ : Pattern.parse o (text ++ '*' :: '*' :: o.separator :: later) = .ok p₂) :
    ∃ kinds, p₁.kinds = p.kinds ++ kinds ∧ p₂.kinds = p.kinds ++ .segments :: .separator :: kinds := by
  obtain ⟨p', hp', hkinds₁⟩ := kinds_append_last ho h hlast hsegments hrest h₁
  -- with the `**` the first text ends with the separator again
  obtain ⟨p₃, hp₃, hkinds₃⟩ := parse_segments_last ho h hlast
  have hlast₃ : (text ++ ['*', '*', o.separator]).getLast? = some o.separator := by simp
  have h₂' : Pattern.parse o (text ++ ['*', '*', o.separator] ++ later) = .ok p₂ := by
    simpa using h₂
  obtain ⟨p'', hp'', hkinds₂⟩ := kinds_append_last ho hp₃ (.inr hlast₃) hsegments hrest h₂'
  obtain rfl : p' = p'' := Except.ok.inj (hp'.symm.trans hp'')
  exact ⟨p'.kinds, hkinds₁, by simp [hkinds₂, hkinds₃]⟩

/-- The pattern of a `**` and a separator matches the path of a separator. -/
theorem isSome_search_segments_justSeparator {q : Query} (hq : q.ofStart = false)
    (hlength : q.length = 1) (hsep : q.isSeparator 0 = true) {segments separator : PatternElement}
    (hsegments : segments.kind = .segments) (hseparator : separator.kind = .separator) :
    (search q [segments, separator] 0 false).isSome := by
  have hend : search q [separator] 0 false = some ⟨[], none⟩ := by
    rw [search_separator hseparator, if_pos hsep, search_nil]
    exact (Query.finish_whole hq).mpr ⟨.inl hlength.symm, rfl⟩
  rw [Option.isSome_iff_exists]
  exact exists_search_of_restart hsegments
    (mem_restarts.mpr (.inl ⟨0, Nat.le_refl 0, Nat.zero_le _, rfl⟩)) ⟨_, hend⟩

/-- **A `**` may stand for no segment at all.**  A path that is not empty and matches two texts put
together, the first of them empty or with the separator at its end, matches them with a `**` and a
separator between the two as well.  The second text must not be a `**`, nor start like a capture of
the rest, which would take in the separator before them. -/
theorem isMatch_zeroSegments (ho : o.validate = .ok o) (h : Pattern.parse o text = .ok p)
    (hlast : text = [] ∨ text.getLast? = some o.separator) (hsegments : later ≠ ['*', '*'])
    (hrest : ¬['{', '*'] <+: later) (h₁ : Pattern.parse o (text ++ later) = .ok p₁)
    (h₂ : Pattern.parse o (text ++ '*' :: '*' :: o.separator :: later) = .ok p₂) {path : Path}
    (hpath : path.elements ≠ []) (hmatch : p₁.isMatch path = true) : p₂.isMatch path = true := by
  obtain ⟨kinds, hkinds₁, hkinds₂⟩ := kinds_zeroSegments ho h hlast hsegments hrest h₁ h₂
  -- for the search it does not matter where the elements stand
  have helements₂ : p₂.elements.map (·.kind) = (p.elements ++ PatternElement.mk 0 .segments
      :: PatternElement.mk 0 .separator :: kinds.map (PatternElement.mk 0)).map (·.kind) := by
    simpa [Pattern.kinds, Function.comp_def] using hkinds₂
  have hne₂ : p₂.elements ≠ [] := elements_ne_nil_of_parse h₂ (by simp)
  rw [isMatch_eq_search h₂ hne₂ hpath false, search_congr helements₂]
  by_cases hnil : p₁.elements = []
  -- nothing but a separator is left for the `**` and the separator after it
  · obtain ⟨hnone, rfl⟩ : p.elements = [] ∧ kinds = [] := by
      simpa [Pattern.kinds, hnil] using hkinds₁.symm
    have hjust : path.isJustSeparator = true := by
      rw [isMatch_of_elements_nil hnil, Path.isEmpty, List.isEmpty_eq_false_iff.mpr hpath,
        Bool.false_or, Bool.and_eq_true] at hmatch
      exact hmatch.2
    obtain ⟨e, he, hsep⟩ := Path.isJustSeparator_iff.mp hjust
    have hlength : (p₂.query path false false).length = 1 := by
      rw [length_query, Path.length, he]
      rfl
    have hfront : (p₂.query path false false).isSeparator 0 = true := by
      simpa [Query.isSeparator, Pattern.query, he] using hsep
    rw [hnone]
    exact isSome_search_segments_justSeparator rfl hlength hfront rfl rfl
  · have hquery : p₁.query path false false = p₂.query path false false := by
      simp [Pattern.query, (text_of_parse h₁).2, (text_of_parse h₂).2]
    have helements₁ : p₁.elements.map (·.kind)
        = (p.elements ++ kinds.map (PatternElement.mk 0)).map (·.kind) := by
      simpa [Pattern.kinds, Function.comp_def] using hkinds₁
    rw [isMatch_eq_search h₁ hnil hpath false, search_congr helements₁, hquery] at hmatch
    refine isSome_search_zeroSegments rfl rfl _ (fun e he => ?_) (fun _ => ⟨rfl, .inl rfl⟩) hmatch
    refine getLast?_of_parse ho h hlast e.kind ?_
    rw [Pattern.kinds, List.getLast?_map, Option.mem_def.mp he]
    rfl

/-- The patterns `/a/{x}` and `/a/**/{x}` and the path `/a/b`. -/
theorem isMatch_zeroSegments_afterLiteral : ∃ p₁ p₂ path,
    Pattern.parse .default ['/', 'a', '/', '{', 'x', '}'] = .ok p₁ ∧
    Pattern.parse .default ['/', 'a', '/', '*', '*', '/', '{', 'x', '}'] = .ok p₂ ∧
    Path.parse ['/', 'a', '/', 'b'] .http = .ok path ∧
    p₁.isMatch path = true ∧ p₂.isMatch path = true := by
  have ho : PatternOptions.default.validate = .ok .default := rfl
  have h : Pattern.parse .default ['/', 'a', '/'] = .ok _ := rfl
  have h₁ : Pattern.parse .default ['/', 'a', '/', '{', 'x', '}'] = .ok _ := rfl
  have h₂ : Pattern.parse .default ['/', 'a', '/', '*', '*', '/', '{', 'x', '}'] = .ok _ := rfl
  have hpath : Path.parse ['/', 'a', '/', 'b'] .http = .ok _ := rfl
  refine ⟨_, _, _, h₁, h₂, hpath, by decide +kernel, ?_⟩
  exact isMatch_zeroSegments ho h (.inr rfl) (by decide) (by decide) h₁ h₂
    (List.cons_ne_nil _ _) (by decide +kernel)

end Patterns

end PathRouting
