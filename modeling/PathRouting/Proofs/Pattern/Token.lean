import Mathlib.Data.List.Chain
import PathRouting.Pattern.Token
import PathRouting.Proofs.Fallible

/-!
# Where tokens stand

The tokens of a pattern follow one another in the order of their places, and between two segments
there always is a separator.

## Main results

* `tokensFrom_cons` — how the first character of a text becomes part of a token.
* `position_ge_of_tokensFrom`, `pairwise_position_tokensFrom` — places and their order.
* `isChain_tokensFrom` — no two segments stand side by side.
-/

namespace PathRouting

/-- Whether the token is a separator. -/
def Token.isSeparator : Token → Bool
  | .separator _ => true
  | .segment .. => false

variable {separator : Char}

theorem tokensFrom_nil {b : Braces} {position : Nat} {ts : List Token}
    (h : tokensFrom separator b position [] = .ok ts) : ts = [] := by
  rw [tokensFrom] at h
  split at h
  · exact (Except.ok.inj h).symm
  · simp at h

/-- The tokens of a text come from those of the text without its first character. -/
theorem tokensFrom_cons {b : Braces} {position : Nat} {c : Char} {s : List Char}
    {ts : List Token} (h : tokensFrom separator b position (c :: s) = .ok ts) :
    ∃ next rest, b.step c = .ok next ∧ tokensFrom separator next (position + 1) s = .ok rest ∧
      ts = if b.cutsAt separator c then .separator position :: rest
        else Token.cons position c rest := by
  rw [tokensFrom] at h
  split at h
  · simp at h
  · next next hstep =>
    obtain ⟨rest, hrest, rfl⟩ := map_eq_ok.mp h
    exact ⟨next, rest, hstep, hrest, rfl⟩

/-- A character put before tokens gives a segment at its place, and the tokens after that segment
were there before. -/
theorem Token.cons_eq (position : Nat) (c : Char) (ts : List Token) :
    (∃ p t rest, ts = .segment p t :: rest ∧
        Token.cons position c ts = .segment position (c :: t) :: rest) ∨
      ((∀ t ∈ ts.head?, t.isSeparator = true) ∧
        Token.cons position c ts = .segment position [c] :: ts) := by
  rcases ts with _ | ⟨_ | ⟨p, t⟩, rest⟩
  · exact .inr ⟨by simp, rfl⟩
  · exact .inr ⟨by simp [isSeparator], rfl⟩
  · exact .inl ⟨p, t, rest, rfl, rfl⟩

/-- No token stands before the text it was cut from. -/
theorem position_ge_of_tokensFrom {s : List Char} {b : Braces} {position : Nat} {ts : List Token}
    (h : tokensFrom separator b position s = .ok ts) : ∀ t ∈ ts, position ≤ t.position := by
  induction s generalizing b position ts with
  | nil =>
    obtain rfl := tokensFrom_nil h
    simp
  | cons c s ih =>
    obtain ⟨next, rest, -, hrest, rfl⟩ := tokensFrom_cons h
    have hge : ∀ t ∈ rest, position ≤ t.position := fun t ht => by
      have := ih hrest t ht
      omega
    split
    · simpa [Token.position] using hge
    · rcases Token.cons_eq position c rest with ⟨p, t, rest', rfl, hcons⟩ | ⟨-, hcons⟩
      · simp only [List.mem_cons, forall_eq_or_imp] at hge
        simpa [hcons, Token.position] using hge.2
      · simpa [hcons, Token.position] using hge

/-- Tokens stand in the order of their places. -/
theorem pairwise_position_tokensFrom {s : List Char} {b : Braces} {position : Nat}
    {ts : List Token} (h : tokensFrom separator b position s = .ok ts) :
    ts.Pairwise (·.position < ·.position) := by
  induction s generalizing b position ts with
  | nil =>
    obtain rfl := tokensFrom_nil h
    exact .nil
  | cons c s ih =>
    obtain ⟨next, rest, -, hrest, rfl⟩ := tokensFrom_cons h
    have hge := position_ge_of_tokensFrom hrest
    have hrest := ih hrest
    split
    · exact .cons (fun t ht => hge t ht) hrest
    · rcases Token.cons_eq position c rest with ⟨p, t, rest', rfl, hcons⟩ | ⟨-, hcons⟩
      · rw [hcons]
        refine .cons (fun t' ht' => ?_) hrest.tail
        exact hge t' (List.mem_cons_of_mem _ ht')
      · rw [hcons]
        exact .cons (fun t ht => hge t ht) hrest

/-- Of two tokens side by side one is a separator. -/
theorem isChain_tokensFrom {s : List Char} {b : Braces} {position : Nat} {ts : List Token}
    (h : tokensFrom separator b position s = .ok ts) :
    ts.IsChain fun t u => t.isSeparator = true ∨ u.isSeparator = true := by
  induction s generalizing b position ts with
  | nil =>
    obtain rfl := tokensFrom_nil h
    exact .nil
  | cons c s ih =>
    obtain ⟨next, rest, -, hrest, rfl⟩ := tokensFrom_cons h
    have hrest := ih hrest
    split
    · exact hrest.cons (fun t _ => .inl rfl)
    · rcases Token.cons_eq position c rest with ⟨p, t, rest', rfl, hcons⟩ | ⟨hsep, hcons⟩
      · -- the segment that was first keeps its neighbour
        rw [hcons]
        refine hrest.tail.cons fun u hu => .inr ?_
        simpa [Token.isSeparator] using hrest.rel_head? hu
      · rw [hcons]
        exact hrest.cons (fun u hu => .inr (hsep u hu))

end PathRouting
