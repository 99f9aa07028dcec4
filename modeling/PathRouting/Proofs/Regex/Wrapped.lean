import PathRouting.Proofs.Regex.Moves

/-!
# Expressions inside one more group

A constraint is compiled between `^(?:` and `)$`.  The reader goes through it as it would if it
stood alone, with one more group open around it, and what it stands for lies between the two ends of
the text in the end.  There is one exception: a text may close the group that it stands in.  Alone
such a text is refused.

## Main definitions

* `Reader.under` — a reader with one more group open around all others.
* `Reader.Strays` — whether reading comes to a closing parenthesis while no group is open.
* `Reader.ClosedAs` — how reading ends where the additional group is closed.
* `enclosed` — a text between the two ends.

## Main results

* `Reader.apply_under` — a move with one more group open.
* `Reader.step_under`, `Reader.readAll_under` — one step, and a whole text, with one more group open
  that is closed in the end.
* `Reader.readAll_of_strays` — a text that closes a group that it did not open is refused alone.
* `read?_enclosed` — **a text between the two ends is what it is alone, between them**, or it
  strays.
-/

namespace PathRouting.Regex

variable {f : Flags} {s rest : List Char}

namespace Reader

variable {r r' : Reader} {base : Level} {move : Move}

/-! ### One more group -/

/-- A reader with one more group open around all others. -/
def under (base : Level) (r : Reader) : Reader := { r with outer := r.outer ++ [base] }

@[simp] theorem under_flags : (r.under base).flags = r.flags := rfl

theorem under_outer_ne_nil : (r.under base).outer ≠ [] := by simp [under]

theorem openNamed_under (name : List Char) :
    (r.under base).openNamed name = (r.openNamed name).map (under base) := by
  have hnames : (r.under base).names = r.names := rfl
  rw [openNamed, openNamed, hnames]
  split <;> rfl

theorem repeatLast_under (min : Nat) (max : Option Nat) (greedy : Bool) :
    (r.under base).repeatLast min max greedy = (r.repeatLast min max greedy).map (under base) := by
  have hitems : (r.under base).items = r.items := rfl
  rw [repeatLast, repeatLast, hitems]
  cases r.items with
  | nil => rfl
  | cons i items =>
    simp only
    split <;> rfl

theorem closeGroup_under (h : r.outer ≠ []) :
    (r.under base).closeGroup = r.closeGroup.map (under base) := by
  obtain ⟨level, outer, houter⟩ := List.exists_cons_of_ne_nil h
  have houter' : (r.under base).outer = level :: (outer ++ [base]) := by simp [under, houter]
  rw [closeGroup, closeGroup, houter, houter']
  rfl

/-- **A move with one more group open** is the same move, unless it closes that group. -/
theorem apply_under (h : move = .close → r.outer ≠ []) :
    (r.under base).apply move = (r.apply move).map (under base) := by
  cases move with
  | openNamed name => exact openNamed_under name
  | close => exact closeGroup_under (h rfl)
  | again min max greedy => exact repeatLast_under min max greedy
  | _ => rfl

theorem openNamed_outer {name : List Char} (h : r.openNamed name = some r') :
    r.outer <:+ r'.outer := by
  rw [openNamed] at h
  split at h
  · simp at h
  · rw [← Option.some.inj h]
    exact List.suffix_cons _ _

theorem repeatLast_outer {min : Nat} {max : Option Nat} {greedy : Bool}
    (h : r.repeatLast min max greedy = some r') : r.outer <:+ r'.outer := by
  rw [repeatLast] at h
  split at h
  · split at h
    · simp at h
    · exact Option.some.inj h ▸ List.suffix_refl r.outer
  · simp at h

/-- No other move closes a group. -/
theorem apply_outer (hmove : move ≠ .close) (h : r.apply move = some r') :
    r.outer <:+ r'.outer := by
  cases move with
  | openNamed name => exact openNamed_outer h
  | close => exact absurd rfl hmove
  | again min max greedy => exact repeatLast_outer h
  | openCapture | openPlain f =>
    rw [← Option.some.inj h]
    exact List.suffix_cons _ _
  | setFlags f | branch | item i =>
    exact Option.some.inj h ▸ List.suffix_refl r.outer

/-! ### Strays -/

/-- Whether reading on comes to a closing parenthesis while no group is open. -/
inductive Strays : Reader → List Char → Prop
  /-- It comes next. -/
  | here {r : Reader} {s rest : List Char} (hs : skipBlank r.flags s = ')' :: rest)
    (houter : r.outer = []) : Strays r s
  /-- It comes after a move. -/
  | after {r r' : Reader} {s u rest : List Char} {c : Char} {move : Move}
    (hs : skipBlank r.flags s = c :: u) (hmove : readMove r.flags c u = some (move, rest))
    (happly : r.apply move = some r') (h : Strays r' rest) : Strays r s

theorem readAll_nil {n : Nat} (hs : skipBlank r.flags s = []) : r.readAll (n + 1) s = some r := by
  rw [readAll, hs]

theorem readAll_cons {n : Nat} {c : Char} {u : List Char} (hs : skipBlank r.flags s = c :: u) :
    r.readAll (n + 1) s = (readMove r.flags c u).bind fun p =>
      (r.apply p.1).bind fun r' => r'.readAll n p.2 := by
  rw [readAll, hs]

/-- **A text that closes a group that it did not open is refused.** -/
theorem readAll_of_strays (h : r.Strays s) (n : Nat) : r.readAll n s = none := by
  induction h generalizing n with
  | here hs houter =>
    cases n with
    | zero => rfl
    | succ n =>
      rw [readAll_cons hs]
      simp [readMove, apply, closeGroup, houter]
  | after hs hmove happly _ ih =>
    cases n with
    | zero => rfl
    | succ n => rw [readAll_cons hs, hmove, Option.bind_some, happly, Option.bind_some, ih]

/-! ### The closing characters -/

/-- The assertion about the end of the text, as an item. -/
def atEnd (f : Flags) : Item := ⟨.look (anchor f '$'), 0, true⟩

theorem skipBlank_cons {c : Char} (hspace : Text.isWhiteSpace c = false) (hcomment : c ≠ '#')
    (s : List Char) : skipBlank f (c :: s) = c :: s := by
  simp [skipBlank, skipSpacing, hspace, hcomment]

theorem skipBlank_nil (f : Flags) : skipBlank f [] = [] :=
  List.suffix_nil.mp (skipBlank_suffix f [])

theorem eq_of_readAll_nil {n : Nat} {last : Reader} (h : r.readAll n [] = some last) :
    last = r := by
  cases n with
  | zero => simp [readAll] at h
  | succ n =>
    rw [readAll_nil (skipBlank_nil r.flags)] at h
    exact (Option.some.inj h).symm

theorem eq_of_readAll_dollar {n : Nat} {last : Reader} (h : r.readAll n ['$'] = some last) :
    last = r.push (atEnd r.flags) := by
  cases n with
  | zero => simp [readAll] at h
  | succ n =>
    rw [readAll_cons (skipBlank_cons (by decide) (by decide) [])] at h
    exact eq_of_readAll_nil h

/-- Past the parenthesis no group is closed any more. -/
theorem outer_of_inside {n : Nat} {last : Reader} (hrest : rest <:+ ['$'])
    (h : r.readAll n rest = some last) : r.outer <:+ last.outer := by
  rcases List.suffix_cons_iff.mp hrest with rfl | hnil
  · exact eq_of_readAll_dollar h ▸ List.suffix_refl r.outer
  · obtain rfl := List.suffix_nil.mp hnil
    exact eq_of_readAll_nil h ▸ List.suffix_refl r.outer

/-- Braces that are not closed make no repetition. -/
theorem readCounts_stuck {inner : List Char} (h : skipBlank f inner = []) :
    readCounts f (inner ++ closing) = none := by
  -- no digit follows, and so no count
  have hcount (u : List Char) (hu : u.dropWhile Text.isWhiteSpace = u)
      (hdigit : ∀ c ∈ u.head?, c.isDigit = false) :
      readCount f u = some (none, skipBlank f u) := by
    simp only [readCount, hu, readRun_eq hdigit]
    rfl
  have hparen : ∀ c ∈ closing.head?, c.isDigit = false := by
    intro c hc
    obtain rfl : ')' = c := Option.some.inj hc
    rfl
  rcases skipBlank_closing f inner with heq | ⟨-, heq⟩
  · rw [readCounts, heq, h, List.nil_append, hcount closing (by decide) hparen]
    rfl
  · rw [readCounts, heq, hcount [] rfl (by simp)]
    rfl

theorem readAll_of_stuck {n : Nat} (h : Stuck r.flags rest) : r.readAll n rest = none := by
  obtain ⟨inner, rfl, hinner⟩ := h
  cases n with
  | zero => rfl
  | succ n =>
    rw [List.cons_append, readAll_cons (skipBlank_cons (by decide) (by decide) _)]
    simp [readMove, readCounts_stuck hinner]

/-- A move that only the closing characters make leaves all groups open. -/
theorem outer_of_pastMove {n : Nat} {last : Reader} (hmove : move ≠ .close)
    (hpast : PastMove r.flags move rest) (happly : r.apply move = some r')
    (h : r'.readAll n rest = some last) : r.outer <:+ last.outer := by
  rcases hpast with hinside | ⟨⟨l, rfl⟩, hstuck⟩
  · exact (apply_outer hmove happly).trans (outer_of_inside hinside h)
  · obtain rfl := Option.some.inj happly
    rw [readAll_of_stuck (r := r.push ⟨.look l, 0, true⟩) hstuck] at h
    simp at h

/-! ### Runs -/

/-- Whether the group around all others is closed at the end of a text, and then the text ends. -/
def ClosedAs (base : Level) (alone last : Reader) : Prop :=
  alone.outer = [] ∧ ∃ closed, (alone.under base).closeGroup = some closed ∧
    last = closed.push (atEnd closed.flags)

section Steps

variable {m : Nat} {last : Reader} (houter : last.outer = [])
include houter

theorem ne_under (r : Reader) : last ≠ r.under base := by
  rintro rfl
  exact under_outer_ne_nil houter

/-- At the end of the text the closing characters close the group around all others. -/
theorem closedAs_of_readAll (hs' : skipBlank r.flags (s ++ closing) = closing)
    (h : (r.under base).readAll (m + 1) (s ++ closing) = some last) : ClosedAs base r last := by
  rw [readAll_cons (r := r.under base) hs'] at h
  obtain ⟨closed, hclosed, h⟩ : ∃ closed, (r.under base).closeGroup = some closed ∧
      closed.readAll m ['$'] = some last := Option.bind_eq_some_iff.mp h
  have hlast := eq_of_readAll_dollar h
  by_cases hr : r.outer = []
  · exact ⟨hr, closed, hclosed, hlast⟩
  · rw [closeGroup_under hr] at hclosed
    obtain ⟨r', -, rfl⟩ := Option.map_eq_some_iff.mp hclosed
    exact (ne_under houter (r'.push (atEnd r'.flags)) hlast).elim

/-- **A step with one more group open**: the next move is the one of the text alone, unless it
closes that group. -/
theorem step_under {c : Char} {u : List Char}
    (hs' : skipBlank r.flags (s ++ closing) = c :: (u ++ closing))
    (h : (r.under base).readAll (m + 1) (s ++ closing) = some last) :
    c = ')' ∧ r.outer = [] ∨ ∃ move r' rest, readMove r.flags c u = some (move, rest) ∧
      r.apply move = some r' ∧ (r'.under base).readAll m (rest ++ closing) = some last := by
  rw [readAll_cons (r := r.under base) hs', under_flags] at h
  obtain ⟨⟨move, rest⟩, hmove', h⟩ := Option.bind_eq_some_iff.mp h
  obtain ⟨r', happly, h⟩ := Option.bind_eq_some_iff.mp h
  by_cases hstray : move = .close ∧ r.outer = []
  · obtain ⟨rfl, hr⟩ := hstray
    exact .inl ⟨eq_paren_of_close hmove', hr⟩
  · have happly' : (r.under base).apply move = (r.apply move).map (under base) :=
      apply_under fun hclose hr => hstray ⟨hclose, hr⟩
    have hmoves := extends_readMove r.flags c u
    rw [hmove'] at hmoves
    rcases hmove : readMove r.flags c u with _ | ⟨move₀, rest₀⟩
    · -- no move without the closing characters, so the group around all others stays open
      rw [hmove] at hmoves
      have hclose : move ≠ .close := by
        rintro rfl
        obtain rfl := eq_paren_of_close hmove'
        simp [readMove] at hmove
      have hsuffix := outer_of_pastMove (r := r.under base) hclose (hmoves _ _ rfl) happly h
      rw [houter] at hsuffix
      exact (under_outer_ne_nil (List.suffix_nil.mp hsuffix)).elim
    · rw [happly] at happly'
      obtain ⟨r₁, hread, rfl⟩ := Option.map_eq_some_iff.mp happly'.symm
      rw [hmove] at hmoves
      rcases hmoves with heq | ⟨-, heq⟩
      · obtain ⟨rfl, rfl⟩ := Prod.mk.inj (Option.some.inj heq)
        exact .inr ⟨move, r₁, rest₀, rfl, hread, h⟩
      · obtain ⟨rfl, rfl⟩ := Prod.mk.inj (Option.some.inj heq)
        exact (ne_under houter r₁ (eq_of_readAll_nil h)).elim

/-- **A whole text with one more group open** that is closed in the end: the text is read alone, and
no group is left open, or it strays. -/
theorem readAll_under {n : Nat} (hn : s.length < n)
    (h : (r.under base).readAll m (s ++ closing) = some last) :
    r.Strays s ∨ ∃ alone, r.readAll n s = some alone ∧ ClosedAs base alone last := by
  induction n generalizing r s m with
  | zero => omega
  | succ n ih =>
    cases m with
    | zero => simp [readAll] at h
    | succ m =>
    rcases skipBlank_closing r.flags s with hs' | ⟨-, hs'⟩
    · rcases hs : skipBlank r.flags s with _ | ⟨c, u⟩
      · rw [hs] at hs'
        exact .inr ⟨r, readAll_nil hs, closedAs_of_readAll houter hs' h⟩
      · rw [hs] at hs'
        rcases step_under houter hs' h with ⟨rfl, hr⟩ | ⟨move, r', rest, hmove, happly, h⟩
        · exact .inl (.here hs hr)
        · have hu := length_skipBlank r.flags s
          have hrest := (readMove_suffix hmove).length_le
          rw [hs, List.length_cons] at hu
          rcases ih (by omega) h with hstrays | ⟨alone, halone, hclosed⟩
          · exact .inl (.after hs hmove happly hstrays)
          · refine .inr ⟨alone, ?_, hclosed⟩
            rw [readAll_cons hs, hmove, Option.bind_some, happly, Option.bind_some, halone]
    · -- a comment has taken the closing characters in
      rw [readAll_nil (r := r.under base) hs'] at h
      exact (ne_under houter r (Option.some.inj h).symm).elim

end Steps

end Reader

/-! ### Texts between the two ends -/

open Reader

/-- A text as an expression between the two ends of what it is matched with. -/
def enclosed (s : List Char) : List Char := ['^', '(', '?', ':'] ++ s ++ closing

/-- What stands before a text that is enclosed. -/
def atStart (f : Flags) : Level := ⟨none, f, [], [⟨.look (anchor f '^'), 0, true⟩]⟩

theorem readAll_enclosed (hverbose : f.verbose = false) (n : Nat) (s : List Char) :
    (start f).readAll (n + 2) (enclosed s) =
      ((start f).under (atStart f)).readAll n (s ++ closing) := by
  have hblank (u : List Char) : skipBlank f u = u := skipBlank_eq_self hverbose u
  have hgroup (u : List Char) : readMove f '(' ('?' :: ':' :: u) = some (.openPlain f, u) := by
    simp only [readMove, hblank]
    rfl
  have hopen (r : Reader) (hr : r.flags = f) (u : List Char) :
      r.readAll (n + 1) ('(' :: '?' :: ':' :: u) = (r.openGroup none f).readAll n u := by
    subst hr
    rw [readAll_cons (hblank _), hgroup]
    rfl
  show (start f).readAll (n + 2) ('^' :: '(' :: '?' :: ':' :: (s ++ closing)) = _
  rw [readAll_cons (r := start f) (hblank _)]
  exact hopen ((start f).push ⟨.look (anchor f '^'), 0, true⟩) rfl (s ++ closing)

/-- All that is read between the two ends of a text. -/
theorem content_enclosed {alone last : Reader} (h : ClosedAs (atStart f) alone last) :
    last.content.expr =
        Expr.sequence [.look (anchor f '^'), alone.content.expr, .look (anchor f '$')] ∧
      alone.content.depth ≤ last.content.depth := by
  obtain ⟨houter, closed, hclosed, rfl⟩ := h
  have houter' : (alone.under (atStart f)).outer = [atStart f] := by simp [under, houter]
  rw [closeGroup, houter'] at hclosed
  obtain rfl := Option.some.inj hclosed
  refine ⟨rfl, ?_⟩
  calc alone.content.depth
      ≤ alone.content.depth + 1 := Nat.le_succ _
    _ ≤ Nat.max (Nat.max 0 0) (alone.content.depth + 1) := Nat.le_max_right ..
    _ ≤ Nat.max (Nat.max (Nat.max 0 0) (alone.content.depth + 1)) 0 := Nat.le_max_left ..
    _ ≤ _ := Nat.le_succ _

theorem read?_of_strays (h : (start f).Strays s) : read? f s = none := by
  rw [read?, readAll_of_strays h]
  rfl

theorem read?_of_readAll {alone : Reader}
    (halone : (start f).readAll (s.length + 1) s = some alone) (houter : alone.outer = [])
    (hdepth : alone.content.depth ≤ maxDepth) : read? f s = some alone.content := by
  rw [read?, halone]
  simp [houter, hdepth]

/-- **A text between the two ends** is what it is alone, between the two ends, or it closes a group
that it did not open. -/
theorem read?_enclosed {item : Item} (hverbose : f.verbose = false)
    (h : read? f (enclosed s) = some item) :
    (read? f s = none ↔ (start f).Strays s) ∧ ∀ inner, read? f s = some inner →
      item.expr = Expr.sequence [.look (anchor f '^'), inner.expr, .look (anchor f '$')] := by
  obtain ⟨last, hlast, h⟩ := Option.bind_eq_some_iff.mp h
  have hlength : (enclosed s).length + 1 = s.length + 5 + 2 := by simp [enclosed, closing]
  rw [hlength, readAll_enclosed hverbose] at hlast
  split at h
  · next hends =>
    obtain ⟨houter, hdepth⟩ : last.outer = [] ∧ last.content.depth ≤ maxDepth := by
      simpa using hends
    rcases readAll_under houter (Nat.lt_succ_self _) hlast with
      hstrays | ⟨alone, halone, hclosed⟩
    · have hnone := read?_of_strays hstrays
      exact ⟨iff_of_true hnone hstrays, fun inner hinner => by simp [hnone] at hinner⟩
    · obtain ⟨hexpr, hle⟩ := content_enclosed hclosed
      have hread := read?_of_readAll halone hclosed.1 (Nat.le_trans hle hdepth)
      refine ⟨iff_of_false (by simp [hread]) fun hstrays => ?_, fun inner hinner => ?_⟩
      · simp [readAll_of_strays hstrays] at halone
      · rw [← Option.some.inj h, hexpr, Option.some.inj (hread.symm.trans hinner)]
  · simp at h

end PathRouting.Regex
