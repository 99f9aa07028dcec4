import PathRouting.Proofs.Regex.Brackets
import PathRouting.Regex.Parse

/-!
# The moves of a text before a closing parenthesis

The reader of expressions goes through a text move by move.  A move is read from a text as it is
with the closing characters after it.  Where there is none in the text alone, reading with the
closing characters goes past the parenthesis without closing a group, or stops before braces that
are not closed.

## Main definitions

* `PastMove` — where only the closing characters make a move.

## Main results

* `local_readFlags`, `local_readCounts`, `local_readGroup` — the parts of moves.
* `extends_readMove` — **a move before the closing characters**.
-/

namespace PathRouting.Regex

open Text

variable {f : Flags} {s rest : List Char}

/-! ### Modes and names -/

theorem readFlags_suffix {met : List Char} {on afterDash : Bool} {x : Flags × Bool}
    (h : readFlags f met on afterDash s = some (x, rest)) : rest <:+ s := by
  induction s generalizing f met on afterDash with
  | nil => simp [readFlags] at h
  | cons c s ih =>
    refine List.IsSuffix.trans ?_ (List.suffix_cons c s)
    rw [readFlags] at h
    split at h
    · split at h
      · simp at h
      · exact (Prod.mk.inj (Option.some.inj h)).2 ▸ List.suffix_refl s
    · split at h
      · split at h
        · simp at h
        · exact (Prod.mk.inj (Option.some.inj h)).2 ▸ List.suffix_refl s
      · split at h
        · split at h
          · exact ih h
          · simp at h
        · split at h
          · simp at h
          · obtain ⟨f', -, h⟩ := Option.bind_eq_some_iff.mp h
            exact ih h

theorem extends_readFlags (f : Flags) (met : List Char) (on afterDash : Bool) (s : List Char) :
    Extends Inside (readFlags f met on afterDash s)
      (readFlags f met on afterDash (s ++ closing)) := by
  induction s generalizing f met on afterDash with
  | nil =>
    intro x rest h
    have hc : ')' ≠ ':' := by decide
    simp only [closing, List.nil_append, readFlags, if_neg hc, if_true] at h
    split at h
    · simp at h
    · exact (Prod.mk.inj (Option.some.inj h)).2 ▸ List.suffix_refl _
  | cons c s ih =>
    rw [List.cons_append, readFlags, readFlags]
    split
    · split
      · exact .none
      · exact .some _ s
    · split
      · split
        · exact .none
        · exact .some _ s
      · split
        · split
          · exact ih f met false true
          · exact .none
        · split
          · exact .none
          · cases f.set? c on with
            | none => exact .none
            | some f' => exact ih f' (c :: met) on false

theorem local_readFlags (f : Flags) (met : List Char) (on afterDash : Bool) :
    Local (readFlags f met on afterDash) :=
  ⟨fun _ _ _ => readFlags_suffix, extends_readFlags f met on afterDash⟩

theorem local_cutAt {c : Char} (hc : c ∉ closing) : Local (cutAt c) :=
  ⟨fun _ _ _ => cutAt_suffix, fun s => (extends_cutAt hc s).mono fun _ _ => False.elim⟩

/-- A reader of texts that start with one character, which is not the closing parenthesis. -/
theorem Local.only {α : Type} {read yes : Reading α} {c : Char} (hc : c ≠ ')') (hyes : Local yes)
    (heq : ∀ s, read (c :: s) = yes s) (hne : ∀ s, s.head? ≠ some c → read s = .none) :
    Local read :=
  .head hc hyes .none heq hne

theorem local_readName : Local readName :=
  (local_cutAt (by decide)).bind fun name => .lift ((groupName? name).map Move.openNamed)

theorem local_readNamed : Local readNamed := by
  refine .only (show '<' ≠ ')' by decide) local_readName (fun s => rfl) fun s hs => ?_
  unfold readNamed
  split
  · simp at hs
  · rfl

/-! ### Counts -/

theorem local_readCount (f : Flags) : Local (readCount f) := by
  have hrun : Local fun s => some (readRun f Char.isDigit (s.length + 1) s) :=
    local_readRun f (by decide)
  have hcount : Local fun s => (some (readRun f Char.isDigit (s.length + 1) s)).bind fun p =>
      (countOf? p.1).map (·, skipBlank f (p.2.dropWhile isWhiteSpace)) :=
    hrun.bind fun written => ((Local.lift (countOf? written)).skipBlank f).dropSpace
  exact hcount.dropSpace

theorem local_readCountsEnd (counts : Option (Nat × Option Nat)) :
    Local (readCountsEnd counts) := by
  refine .only (show '}' ≠ ')' by decide) (.lift counts) (fun s => rfl) fun s hs => ?_
  unfold readCountsEnd
  split
  · simp at hs
  · rfl

theorem local_readGreatest (f : Flags) (least : Nat) : Local (readGreatest f least) := by
  have hgreatest : Local fun s => (readCount f s).bind fun p =>
      readCountsEnd ((p.1.filter (least ≤ ·)).map fun m => (least, some m)) p.2 :=
    (local_readCount f).bind fun greatest => local_readCountsEnd
      ((greatest.filter (least ≤ ·)).map fun m => (least, some m))
  refine .head (show '}' ≠ ')' by decide) (.pure (least, none)) hgreatest (fun s => rfl)
    fun s hs => ?_
  unfold readGreatest
  split
  · simp at hs
  · rfl

theorem local_readAfterLeast (f : Flags) (least : Nat) : Local (readAfterLeast f least) := by
  refine .head (show ',' ≠ ')' by decide) ((local_readGreatest f least).skipBlank f)
    (local_readCountsEnd (some (least, some least))) (fun s => rfl) fun s hs => ?_
  unfold readAfterLeast
  split
  · simp at hs
  · rfl

theorem local_readCounts (f : Flags) : Local (readCounts f) := by
  refine ((local_readCount f).skipBlank f).bind fun least => ?_
  cases least with
  | none => exact .none
  | some least => exact local_readAfterLeast f least

/-! ### Groups and repetitions -/

theorem local_readLetters (f : Flags) : Local (readLetters f) := by
  have hflags : Local fun s => (readFlags f [] true false s).map fun p =>
      (if p.1.2 then Move.openPlain p.1.1 else .setFlags p.1.1, p.2) :=
    (local_readFlags f [] true false).map fun x =>
      if x.2 then Move.openPlain x.1 else .setFlags x.1
  refine .head (show 'P' ≠ ')' by decide) local_readNamed hflags (fun s => rfl) fun s hs => ?_
  unfold readLetters
  split
  · simp at hs
  · rfl

theorem local_readKind (f : Flags) : Local (readKind f) := by
  refine .head (show '<' ≠ ')' by decide) local_readName (local_readLetters f) (fun s => rfl)
    fun s hs => ?_
  unfold readKind
  split
  · simp at hs
  · rfl

theorem local_readGroup (f : Flags) : Local (readGroup f) := by
  refine .head (show '?' ≠ ')' by decide) (local_readKind f) (.pure .openCapture)
    (fun s => rfl) fun s hs => ?_
  unfold readGroup
  split
  · simp at hs
  · rfl

theorem local_readAgain (min : Nat) (max : Option Nat) : Local (readAgain min max) := by
  refine .head (show '?' ≠ ')' by decide) (.pure (.again min max false))
    (.pure (.again min max true)) (fun s => rfl) fun s hs => ?_
  unfold readAgain
  split
  · simp at hs
  · rfl

/-! ### Moves -/

/-- Where a move can only be read with the closing characters: past the parenthesis, or before
braces that are not closed. -/
def PastMove (f : Flags) (move : Move) (rest : List Char) : Prop :=
  Inside move rest ∨ (∃ l, move = .ofExpr (.look l)) ∧ Stuck f rest

/-- A move other than an escape. -/
theorem local_readMove (f : Flags) {c : Char} (hc : c ≠ '\\') : Local (readMove f c) := by
  have hclass : Local (readClass f) :=
    ⟨fun _ _ _ => readClass_suffix, fun s => (extends_readClass f s).mono fun _ _ => False.elim⟩
  have hcounts : Local fun s => (readCounts f s).bind fun p =>
      readAgain p.1.1 p.1.2 (skipBlank f p.2) :=
    (local_readCounts f).bind fun counts => (local_readAgain counts.1 counts.2).skipBlank f
  have hdot : Local fun s => ((dot? f).map fun set => Move.ofExpr (.ofSet set)).map (·, s) :=
    .lift ((dot? f).map fun set => Move.ofExpr (.ofSet set))
  unfold readMove
  split
  · exact (local_readGroup f).skipBlank f
  · exact .pure Move.close
  · exact .pure Move.branch
  · exact hclass.map fun b => Move.item ⟨.ofSet b.set, b.depth, true⟩
  · exact local_readAgain 0 (some 1)
  · exact local_readAgain 0 none
  · exact local_readAgain 1 none
  · exact hcounts
  · simpa only [Option.map_map, Function.comp_def] using hdot
  · exact .pure _
  · exact .pure _
  · exact absurd rfl hc
  · exact .pure _

theorem readMove_suffix {c : Char} {move : Move} (h : readMove f c s = some (move, rest)) :
    rest <:+ s := by
  by_cases hc : c = '\\'
  · subst hc
    obtain ⟨⟨a, rest'⟩, ha, heq⟩ := Option.map_eq_some_iff.mp h
    obtain ⟨-, rfl⟩ := Prod.mk.inj heq
    exact readEscape_suffix ha
  · exact (local_readMove f hc).suffix s move rest h

/-- **A move before the closing characters.** -/
theorem extends_readMove (f : Flags) (c : Char) (s : List Char) :
    Extends (PastMove f) (readMove f c s) (readMove f c (s ++ closing)) := by
  by_cases hc : c = '\\'
  · subst hc
    refine (extends_readEscape f s).map (fun a => Move.ofExpr (atomExpr f a))
      fun a rest hpast => ?_
    rcases hpast with hinside | ⟨⟨l, rfl⟩, hstuck⟩
    · exact .inl hinside
    · exact .inr ⟨⟨l, rfl⟩, hstuck⟩
  · exact ((local_readMove f hc).reads s).mono fun _ _ => .inl

theorem readName_ne_close : readName s ≠ some (.close, rest) := by
  simp [readName, Option.bind_eq_some_iff]

theorem readGroup_ne_close : readGroup f s ≠ some (.close, rest) := by
  unfold readGroup readKind readLetters readNamed
  split
  · split
    · exact readName_ne_close
    · split
      · split
        · exact readName_ne_close
        · simp
      · simp only [ne_eq, Option.map_eq_some_iff, Prod.mk.injEq, not_exists, not_and]
        intro x _ hclose
        split at hclose <;> simp at hclose
  · simp

theorem readAgain_ne_close {min : Nat} {max : Option Nat} :
    readAgain min max s ≠ some (.close, rest) := by
  unfold readAgain
  split <;> simp

/-- Only the closing parenthesis closes a group. -/
theorem eq_paren_of_close {c : Char} (h : readMove f c s = some (.close, rest)) : c = ')' := by
  unfold readMove at h
  split at h
  · exact absurd h readGroup_ne_close
  · rfl
  · simp at h
  · simp at h
  · exact absurd h readAgain_ne_close
  · exact absurd h readAgain_ne_close
  · exact absurd h readAgain_ne_close
  · obtain ⟨p, -, h⟩ := Option.bind_eq_some_iff.mp h
    exact absurd h readAgain_ne_close
  all_goals simp [Move.ofExpr] at h

end PathRouting.Regex
