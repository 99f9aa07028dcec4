import PathRouting.Path.Element
import PathRouting.Proofs.Pattern.Chain

/-!
# A pattern text laid out in runs

A pattern text written as separators and texts in between is cut back into them, provided that no
two texts stand side by side and that no separator stands outside of braces within a text.

## Main definitions

* `Braces.Passes` — a text that is passed without a cut, and the state of braces after it.
* `Run.token`, `Run.tokens` — the tokens that runs stand for.

## Main results

* `tokensFrom_passes` — a text that is passed becomes one segment.
* `tokensFrom_runs` — the tokens of a text laid out in runs.
* `Chain.place_separator`, `Chain.place_segment` — what placing such a token comes to.
* `parse_of_placeAll`, `parse_error_of_placeAll` — the pattern, or the fault, that placing all
  tokens comes to.
-/

namespace PathRouting

variable {separator : Char}

/-! ### Texts without a cut -/

/-- A text that is passed without a cut from the state `b` of braces to the state `b'`. -/
inductive Braces.Passes (separator : Char) : Braces → List Char → Braces → Prop
  /-- Nothing is passed. -/
  | nil (b : Braces) : Passes separator b [] b
  /-- A character is passed and then the others. -/
  | cons {b next b' : Braces} {c : Char} {s : List Char} (step : b.step c = .ok next)
      (cut : b.cutsAt separator c = false) (rest : Passes separator next s b') :
      Passes separator b (c :: s) b'

namespace Braces.Passes

variable {b b' b'' : Braces} {c : Char} {s t : List Char}

theorem append (h : Passes separator b s b') (h' : Passes separator b' t b'') :
    Passes separator b (s ++ t) b'' := by
  induction h with
  | nil b => exact h'
  | cons step cut rest ih => exact .cons step cut (ih h')

/-- A character that is no brace nor the separator is passed outside of braces. -/
theorem outside (hopen : c ≠ '{') (hclose : c ≠ '}') (hsep : c ≠ separator) :
    Passes separator .outside [c] .outside :=
  .cons (Braces.step_outside hopen hclose) (by simp [cutsAt, hsep]) (.nil _)

end Braces.Passes

/-- **A text that is passed becomes one segment**, if a separator or nothing comes after it. -/
theorem tokensFrom_passes {b b' : Braces} {t : List Char} (h : b.Passes separator t b')
    (hne : t ≠ []) {position : Nat} {s : List Char} {ts : List Token}
    (hs : tokensFrom separator b' (position + t.length) s = .ok ts)
    (hhead : ∀ u ∈ ts.head?, u.isSeparator = true) :
    tokensFrom separator b position (t ++ s) = .ok (.segment position t :: ts) := by
  induction h generalizing position with
  | nil b => exact absurd rfl hne
  | @cons b next b' c t step cut rest ih =>
    have hlength : position + (c :: t).length = position + 1 + t.length := by
      rw [List.length_cons]
      omega
    rw [hlength] at hs
    rw [List.cons_append, tokensFrom, step]
    simp only [cut, Bool.false_eq_true, if_false]
    by_cases ht : t = []
    · -- the character is a segment of its own
      subst ht
      cases rest
      rw [List.length_nil, Nat.add_zero] at hs
      rw [List.nil_append, hs]
      rcases Token.cons_eq position c ts with ⟨p, u, later, rfl, -⟩ | ⟨-, hcons⟩
      · simp [Token.isSeparator] at hhead
      · exact congrArg Except.ok hcons
    · rw [ih ht hs]
      rfl

/-! ### Runs -/

namespace Run

/-- Whether a run is cut out of a pattern text as it is. -/
def IsPassed (separator : Char) : Run → Prop
  | .separator => separator ≠ '{' ∧ separator ≠ '}'
  | .text t => t ≠ [] ∧ Braces.outside.Passes separator t .outside

/-- The number of characters of a run. -/
def length : Run → Nat
  | .separator => 1
  | .text t => t.length

/-- The token that a run stands for, `position` characters into the pattern. -/
def token (position : Nat) : Run → Token
  | .separator => .separator position
  | .text t => .segment position t

/-- The tokens that runs stand for, the first of them `position` characters into the pattern. -/
def tokens : Nat → List Run → List Token
  | _, [] => []
  | position, r :: rest => r.token position :: tokens (position + r.length) rest

theorem isSeparator_of_head_tokens {position : Nat} {rs : List Run}
    (h : ∀ r ∈ rs.head?, r = .separator) :
    ∀ u ∈ (tokens position rs).head?, u.isSeparator = true := by
  rcases rs with _ | ⟨r, rs⟩
  · simp [tokens]
  · obtain rfl := h r rfl
    simp [tokens, token, Token.isSeparator]

end Run

/-- **A text laid out in runs is cut into them.** -/
theorem tokensFrom_runs {rs : List Run} (hpassed : ∀ r ∈ rs, r.IsPassed separator)
    (hchain : rs.IsChain fun r r' => r = .separator ∨ r' = .separator) (position : Nat) :
    tokensFrom separator .outside position (rs.flatMap (Run.raw separator))
      = .ok (Run.tokens position rs) := by
  induction rs generalizing position with
  | nil => rfl
  | cons r rs ih =>
    obtain ⟨hr, hrs⟩ := List.forall_mem_cons.mp hpassed
    have hrest := ih hrs hchain.tail
    rw [List.flatMap_cons]
    cases r with
    | separator =>
      obtain ⟨hopen, hclose⟩ := hr
      show tokensFrom separator .outside position (separator :: rs.flatMap (Run.raw separator)) = _
      rw [tokensFrom, Braces.step_outside hopen hclose]
      simp only [hrest, Except.map]
      rw [if_pos (by simp [Braces.cutsAt, Braces.outside, hopen, hclose])]
      rfl
    | text t =>
      obtain ⟨hne, hpass⟩ := hr
      refine tokensFrom_passes hpass hne (hrest _) (Run.isSeparator_of_head_tokens fun r' hr' => ?_)
      exact (List.IsChain.rel_head? hchain hr').resolve_left (by simp)

/-! ### Placing -/

namespace Chain

variable {o : PatternOptions} {isLast : Bool} {ch : Chain} {position : Nat}

/-- Only an element that takes all that is left closes the chain. -/
theorem isClosed_push {kind : ElementKind} (h : kind.isCatchAll = false) :
    (ch.push position kind).isClosed = false := by
  cases kind <;> first | rfl | simp [ElementKind.isCatchAll] at h

/-- A separator is one more element. -/
theorem place_separator (hopen : ch.isClosed = false) :
    place o isLast ch (.separator position) = .ok (ch.push position .separator) := by
  unfold place
  rw [hopen]
  rfl

/-- A `**` that another token follows is one more element. -/
theorem place_segments (hopen : ch.isClosed = false) :
    place o false ch (.segment position ['*', '*']) = .ok (ch.push position .segments) := by
  unfold place
  rw [hopen]
  rfl

/-- A segment of its own is what it is read as. -/
theorem place_segment {s : List Char} (hopen : ch.isClosed = false) (hsegments : s ≠ ['*', '*'])
    (hrest : findRest s = none) : place o isLast ch (.segment position s)
      = (readSegment o ch.names position s).map fun r =>
        { ch with names := r.2 }.push position r.1 := by
  unfold place
  simp only [hopen, hsegments, hrest, Bool.false_eq_true, if_false]
  cases readSegment o ch.names position s <;> rfl

end Chain

section Parsing

variable {o : PatternOptions} {text : List Char} {ts : List Token}

theorem parse_error_of_tokens {cause : PatternCause} {position : Nat}
    (h : tokens o.separator text = .error (cause, position)) :
    Pattern.parse o text = .error ⟨text, position, cause⟩ := by
  have hread : Pattern.readElements o text = .error (cause, position) := by
    rw [Pattern.readElements, h]
    rfl
  rw [Pattern.parse, hread]

theorem parse_of_placeAll {ch : Chain} (hts : tokens o.separator text = .ok ts)
    (hch : Chain.placeAll o ⟨[], []⟩ ts = .ok ch) :
    Pattern.parse o text = .ok ⟨text, o, ch.elements.reverse⟩ := by
  have hread : Pattern.readElements o text = .ok ch.elements.reverse := by
    rw [Pattern.readElements, hts]
    show (Chain.placeAll o ⟨[], []⟩ ts >>= _) = _
    rw [hch]
    rfl
  rw [Pattern.parse, hread]

theorem parse_error_of_placeAll {cause : PatternCause} {position : Nat}
    (hts : tokens o.separator text = .ok ts)
    (hch : Chain.placeAll o ⟨[], []⟩ ts = .error (cause, position)) :
    Pattern.parse o text = .error ⟨text, position, cause⟩ := by
  have hread : Pattern.readElements o text = .error (cause, position) := by
    rw [Pattern.readElements, hts]
    show (Chain.placeAll o ⟨[], []⟩ ts >>= _) = _
    rw [hch]
    rfl
  rw [Pattern.parse, hread]

end Parsing

end PathRouting
