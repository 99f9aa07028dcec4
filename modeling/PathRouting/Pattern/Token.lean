import PathRouting.Pattern.Fault

/-!
# Tokens of a pattern

The text of a pattern is cut at the separators that stand outside of braces.  Braces may be
nested only inside the constraint of a capture, where a backslash takes the meaning from the
character after it.

## Main definitions

* `Braces`, `Braces.step` — how deep in braces a place is, and the effect of one character.
* `Token`, `tokens` — separators and segments of a pattern text with their places.
-/

namespace PathRouting

/-- Where a place stands with respect to braces. -/
structure Braces where
  /-- The number of open braces. -/
  depth : Nat
  /-- Whether the name of the capture is behind. -/
  inConstraint : Bool
  /-- Whether a backslash precedes. -/
  escaped : Bool
  deriving DecidableEq, Repr

namespace Braces

/-- Outside of all braces. -/
def outside : Braces := ⟨0, false, false⟩

/-- The effect of one character. -/
def step (b : Braces) (c : Char) : Except PatternCause Braces :=
  if b.escaped then .ok { b with escaped := false }
  else if c = '\\' ∧ b.inConstraint then .ok { b with escaped := true }
  else if c = '{' then
    if b.depth = 0 then .ok ⟨1, false, false⟩
    else if b.inConstraint then .ok { b with depth := b.depth + 1 }
    else .error .nestedCapture
  else if c = '}' then
    match b.depth with
    | 0 => .error .missingOpen
    | 1 => .ok outside
    | depth + 2 => .ok { b with depth := depth + 1 }
  else if c = ':' ∧ b.depth = 1 then .ok { b with inConstraint := true }
  else .ok b

/-- Whether the pattern is cut at a character: at a separator outside of braces.  A brace never
is a separator. -/
def cutsAt (b : Braces) (separator c : Char) : Bool :=
  b.depth == 0 && c == separator && c != '{' && c != '}'

@[simp] theorem step_outside_open : outside.step '{' = .ok ⟨1, false, false⟩ := rfl

@[simp] theorem step_outside_close : outside.step '}' = .error .missingOpen := rfl

/-- Outside of braces only braces have a meaning. -/
theorem step_outside {c : Char} (h₁ : c ≠ '{') (h₂ : c ≠ '}') : outside.step c = .ok outside := by
  simp [step, outside, h₁, h₂]

end Braces

/-- A token of a pattern with the number of characters before it. -/
inductive Token
  /-- A separator. -/
  | separator (position : Nat)
  /-- The characters between two separators, at least one. -/
  | segment (position : Nat) (text : List Char)
  deriving DecidableEq, Repr

namespace Token

/-- The number of characters before the token. -/
def position : Token → Nat
  | separator p => p
  | segment p _ => p

/-- The text of the token. -/
def text (separator : Char) : Token → List Char
  | .separator _ => [separator]
  | .segment _ t => t

/-- A character put before tokens: it extends the segment they start with, or is one of its
own. -/
def cons (position : Nat) (c : Char) : List Token → List Token
  | .segment _ t :: rest => .segment position (c :: t) :: rest
  | rest => .segment position [c] :: rest

/-- The characters of tokens are kept when one is put before them. -/
theorem flatMap_text_cons (separator : Char) (position : Nat) (c : Char) (ts : List Token) :
    (cons position c ts).flatMap (text separator) = c :: ts.flatMap (text separator) := by
  unfold cons
  split <;> simp [text]

end Token

/-- The tokens of a text that starts `position` characters into the pattern, in the state `b` of
braces; otherwise the first fault and its place. -/
def tokensFrom (separator : Char) : Braces → Nat → List Char →
    Except (PatternCause × Nat) (List Token)
  | b, position, [] =>
    if b.depth = 0 then .ok [] else .error (.missingClose, position)
  | b, position, c :: s =>
    match b.step c with
    | .error cause => .error (cause, position)
    | .ok next =>
      (tokensFrom separator next (position + 1) s).map fun rest =>
        if b.cutsAt separator c then .separator position :: rest
        else Token.cons position c rest

/-- The tokens of a pattern text. -/
def tokens (separator : Char) (text : List Char) : Except (PatternCause × Nat) (List Token) :=
  tokensFrom separator .outside 0 text

/-- The tokens of a text hold all of its characters. -/
theorem flatMap_text_tokensFrom {separator : Char} {s : List Char} {b : Braces} {position : Nat}
    {ts : List Token} (h : tokensFrom separator b position s = .ok ts) :
    ts.flatMap (Token.text separator) = s := by
  induction s generalizing b position ts with
  | nil =>
    rw [tokensFrom] at h
    split at h
    · obtain rfl : [] = ts := by simpa using h
      rfl
    · simp at h
  | cons c s ih =>
    rw [tokensFrom] at h
    split at h
    · simp at h
    · rename_i next _
      rcases hr : tokensFrom separator next (position + 1) s with e | rest
      · rw [hr] at h
        simp [Except.map] at h
      · rw [hr] at h
        have hts := ih hr
        simp only [Except.map, Except.ok.injEq] at h
        subst h
        split
        · rename_i hcut
          have hc : c = separator := by
            simp only [Braces.cutsAt, Bool.and_eq_true, beq_iff_eq] at hcut
            exact hcut.1.1.2
          simp [Token.text, hts, hc]
        · rw [Token.flatMap_text_cons, hts]

end PathRouting
