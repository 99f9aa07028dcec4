import PathRouting.Proofs.Regex.Wrapped
import PathRouting.Regex.Basic

/-!
# Reading a text in moves

In the modes that patterns are compiled in there is no free spacing, so the reader makes one move
after the other and never runs out of fuel.  A character without a meaning, an escaped one, the dot
and the dot with a star are moves that always succeed.

## Main definitions

* `Reader.Leads` — what reading a text comes to.

## Main results

* `Leads.readAll_eq` — a text that leads to its end is read.
* `leads_quote`, `leads_dot`, `leads_dotStar` — what quoted characters and dots lead to.
-/

namespace PathRouting.Regex

namespace Reader

variable {r r' r'' : Reader} {s t u : List Char}

/-- Whether reading `s` from the state `r` comes to reading `t` from the state `r'`, in no more moves
than characters are read. -/
def Leads (r : Reader) (s : List Char) (r' : Reader) (t : List Char) : Prop :=
  ∃ moves, moves + t.length ≤ s.length ∧ ∀ n, r.readAll (n + moves) s = r'.readAll n t

theorem Leads.refl (r : Reader) (s : List Char) : r.Leads s r s := ⟨0, by omega, fun _ => rfl⟩

theorem Leads.trans (h : r.Leads s r' t) (h' : r'.Leads t r'' u) : r.Leads s r'' u := by
  obtain ⟨m, hm, hread⟩ := h
  obtain ⟨m', hm', hread'⟩ := h'
  refine ⟨m' + m, by omega, fun n => ?_⟩
  rw [← Nat.add_assoc, hread, hread']

/-- One move, without free spacing. -/
theorem Leads.move (hverbose : r.flags.verbose = false) {c : Char} {move : Move}
    (hmove : readMove r.flags c s = some (move, t)) (happly : r.apply move = some r')
    (hle : t.length ≤ s.length) : r.Leads (c :: s) r' t := by
  refine ⟨1, by rw [List.length_cons]; omega, fun n => ?_⟩
  rw [readAll_cons (skipBlank_eq_self hverbose _), hmove, Option.bind_some, happly,
    Option.bind_some]

/-- A text that leads to its end is read. -/
theorem Leads.readAll_eq (h : r.Leads s r' []) : r.readAll (s.length + 1) s = some r' := by
  obtain ⟨m, hm, hread⟩ := h
  obtain ⟨n, hn⟩ : ∃ n, s.length + 1 = (n + 1) + m := ⟨s.length - m, by
    rw [List.length_nil] at hm
    omega⟩
  rw [hn, hread, readAll_nil (skipBlank_nil r'.flags)]

end Reader

/-- Any characters, as many as possible. -/
def anyText : Expr := .iter (.set .any) 0 none true

section Moves

variable {ignoreCase : Bool} {r : Reader} {rest : List Char}

/-- The move of a character without a meaning. -/
theorem readMove_plain {f : Flags} {c : Char} (h : isMeta c = false) (s : List Char) :
    readMove f c s = some (.ofExpr (f.charExpr c), s) := by
  unfold readMove
  split <;> first | rfl | simp [isMeta, metaChars] at h

/-- The move of an escaped character. -/
theorem readMove_escaped {f : Flags} {c : Char} (h : isMeta c = true) (s : List Char) :
    readMove f '\\' (c :: s) = some (.ofExpr (f.charExpr c), s) := by
  have hescapable : isEscapable c = true := by simp [isEscapable, h]
  simp only [readMove, readEscape, hescapable, if_true, Option.map_some, atomExpr]

/-- A quoted character is read as itself. -/
theorem leads_quote (hflags : r.flags = baseFlags ignoreCase) (c : Char) :
    r.Leads (quote [c] ++ rest) (r.push ⟨(baseFlags ignoreCase).charExpr c, 0, true⟩) rest := by
  have hverbose : r.flags.verbose = false := by rw [hflags]; rfl
  have hpush : r.apply (.ofExpr (r.flags.charExpr c))
      = some (r.push ⟨(baseFlags ignoreCase).charExpr c, 0, true⟩) := by
    rw [hflags]
    rfl
  cases hmeta : isMeta c with
  | false =>
    have hquote : quote [c] ++ rest = c :: rest := by simp [quote, hmeta]
    rw [hquote]
    exact .move hverbose (readMove_plain hmeta rest) hpush (Nat.le_refl _)
  | true =>
    have hquote : quote [c] ++ rest = '\\' :: c :: rest := by simp [quote, hmeta]
    rw [hquote]
    exact .move hverbose (readMove_escaped hmeta rest) hpush (by simp)

/-- The dot is read as the set of all characters. -/
theorem leads_dot (hflags : r.flags = baseFlags ignoreCase) :
    r.Leads ('.' :: rest) (r.push ⟨.set .any, 0, true⟩) rest := by
  have hverbose : r.flags.verbose = false := by rw [hflags]; rfl
  have hmove : readMove r.flags '.' rest = some (.ofExpr (.set .any), rest) := by
    rw [hflags]
    rfl
  exact .move hverbose hmove rfl (Nat.le_refl _)

/-- A star after the dot makes any characters of it, if no `?` follows. -/
theorem leads_dotStar (hflags : r.flags = baseFlags ignoreCase)
    (hrest : ∀ c ∈ rest.head?, c ≠ '?') :
    r.Leads ('.' :: '*' :: rest) (r.push ⟨anyText, 1, true⟩) rest := by
  refine (leads_dot hflags).trans ?_
  have hverbose : (r.push ⟨.set .any, 0, true⟩).flags.verbose = false := by
    show r.flags.verbose = false
    rw [hflags]
    rfl
  have hmove (f : Flags) : readMove f '*' rest = some (.again 0 none true, rest) := by
    show readAgain 0 none rest = _
    unfold readAgain
    split
    · exact absurd rfl (hrest '?' rfl)
    · rfl
  have happly : (r.push ⟨.set .any, 0, true⟩).apply (.again 0 none true)
      = some (r.push ⟨anyText, 1, true⟩) := by
    show (r.push ⟨.set .any, 0, true⟩).repeatLast 0 none true = _
    have hgreed : r.flags.swapGreed = false := by rw [hflags]; rfl
    simp [Reader.repeatLast, Reader.push, Expr.repeated, Expr.isEmptyOnly, hgreed, anyText]
  exact .move hverbose (hmove _) happly (Nat.le_refl _)

end Moves

end PathRouting.Regex
