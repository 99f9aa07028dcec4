import PathRouting.Proofs.Regex.Wrapped

/-!
# Putting an expression between the two ends of a text

An expression that can be read alone is read between the two ends of a text in the same way, but
the result may still be refused.  A comment at the end takes the closing characters in, so that the
group around the expression stays open; the syntax tree gets two levels deeper; and the assertions
about the two ends need some room.

## Main definitions

* `Reader.ended` — a reader after the assertion about the end of the text.
* `anchored` — an expression between the two ends.
* `FitsBetween` — whether a text that can be read alone is not refused between the two ends.

## Main results

* `readAll_append_closing` — reading on into the closing characters, alone and in one more group.
* `read?_enclosed_of_read?` — what a text that can be read alone is read as between the two ends.
* `parse?_enclosed_of_fits`, `parse?_enclosed_of_not_fits` — **the expression that it is there, or
  that it is refused**.
-/

namespace PathRouting.Regex

variable {f : Flags} {s : List Char}

namespace Reader

variable {r alone : Reader}

/-- A reader after the assertion about the end of the text. -/
def ended (r : Reader) : Reader := r.push (atEnd r.flags)

/-- The closing characters close the innermost group and end the text. -/
theorem readAll_closing (n : Nat) : r.readAll (n + 3) closing = r.closeGroup.map ended := by
  have hdollar : ∀ r : Reader, r.readAll (n + 2) ['$'] = some r.ended := by
    intro r
    rw [readAll_cons (skipBlank_cons (by decide) (by decide) [])]
    exact readAll_nil (skipBlank_nil _)
  rw [closing, readAll_cons (skipBlank_cons (by decide) (by decide) ['$'])]
  show (r.closeGroup.bind fun r' => r'.readAll (n + 2) ['$']) = _
  cases r.closeGroup with
  | none => rfl
  | some closed => exact hdollar closed

theorem readAll_congr {t : List Char} (h : skipBlank r.flags s = skipBlank r.flags t) (n : Nat) :
    r.readAll (n + 1) s = r.readAll (n + 1) t := by
  rw [readAll, readAll, h]

/-- A move that is made with one more group open as well. -/
theorem readAll_step {c : Char} {u rest : List Char} {move : Move} {r' : Reader}
    (base : Level) (n : Nat) (hs : skipBlank r.flags s = c :: u)
    (hmove : readMove r.flags c u = some (move, rest)) (happly : r.apply move = some r') :
    r.readAll (n + 1) s = r'.readAll n rest ∧
      (r.under base).readAll (n + 1) s = (r'.under base).readAll n rest := by
  have hunder : (r.under base).apply move = some (r'.under base) := by
    rw [apply_under, happly, Option.map_some]
    rintro rfl houter
    rw [apply, closeGroup, houter] at happly
    simp at happly
  refine ⟨?_, ?_⟩
  · rw [readAll_cons hs, hmove, Option.bind_some, happly, Option.bind_some]
  · rw [readAll_cons (r := r.under base) hs, under_flags, hmove, Option.bind_some, hunder,
      Option.bind_some]

/-- **Reading on into the closing characters.**  They close the group that is open where the text
ends, unless a comment takes them in; and it is the same one way or the other whether or not there
is one more group around all others. -/
theorem readAll_append_closing {n m m' : Nat} (base : Level) (h : r.readAll n s = some alone)
    (hm : s.length + 3 ≤ m) (hm' : s.length + 3 ≤ m') :
    (r.readAll m (s ++ closing) = some alone ∧
        (r.under base).readAll m' (s ++ closing) = some (alone.under base)) ∨
      (r.readAll m (s ++ closing) = alone.closeGroup.map ended ∧
        (r.under base).readAll m' (s ++ closing) = (alone.under base).closeGroup.map ended) := by
  induction n generalizing r s m m' with
  | zero => simp [readAll] at h
  | succ n ih =>
    obtain ⟨m, rfl⟩ : ∃ k, m = k + 3 := ⟨m - 3, by omega⟩
    obtain ⟨m', rfl⟩ : ∃ k, m' = k + 3 := ⟨m' - 3, by omega⟩
    rcases skipBlank_closing r.flags s with hs' | ⟨hs, hs'⟩
    · rcases hs : skipBlank r.flags s with _ | ⟨c, u⟩
      -- the text ends here
      · obtain rfl : r = alone := Option.some.inj ((readAll_nil hs).symm.trans h)
        have hparen : skipBlank r.flags (s ++ closing) = skipBlank r.flags closing := by
          rw [hs', hs, List.nil_append, closing, skipBlank_cons (by decide) (by decide)]
        right
        rw [readAll_congr hparen, readAll_congr (r := r.under base) hparen]
        exact ⟨readAll_closing m, readAll_closing m'⟩
      -- the same move is made with the closing characters
      · rw [readAll_cons hs] at h
        obtain ⟨⟨move, rest⟩, hmove, h⟩ := Option.bind_eq_some_iff.mp h
        obtain ⟨r', happly, h⟩ := Option.bind_eq_some_iff.mp h
        have hlength : rest.length < s.length := by
          have hu := length_skipBlank r.flags s
          have hrest := (readMove_suffix hmove).length_le
          rw [hs, List.length_cons] at hu
          omega
        have hmoves := extends_readMove r.flags c u
        rw [hs, List.cons_append] at hs'
        rw [hmove] at hmoves
        rcases hmoves with hmove' | ⟨rfl, hmove'⟩
        · have hstep := fun n => readAll_step base n hs' hmove' happly
          rw [(hstep (m + 2)).1, (hstep (m' + 2)).2]
          exact ih h (by omega) (by omega)
        -- after it a comment takes them in
        · obtain rfl := eq_of_readAll_nil h
          have hstep := fun n => readAll_step base n hs' hmove' happly
          rw [(hstep (m + 2)).1, (hstep (m' + 2)).2]
          exact .inl ⟨readAll_nil (skipBlank_nil _), readAll_nil (skipBlank_nil _)⟩
    -- a comment takes the closing characters in
    · obtain rfl : r = alone := Option.some.inj ((readAll_nil hs).symm.trans h)
      exact .inl ⟨readAll_nil hs', readAll_nil (r := r.under base) hs'⟩

/-- Between the two ends the syntax tree has two levels more. -/
theorem depth_of_closedAs {last : Reader} (h : ClosedAs (atStart f) alone last) :
    last.outer = [] ∧ last.content.depth = alone.content.depth + 2 := by
  obtain ⟨houter, closed, hclosed, rfl⟩ := h
  have houter' : (alone.under (atStart f)).outer = [atStart f] := by simp [under, houter]
  rw [closeGroup, houter'] at hclosed
  obtain rfl := Option.some.inj hclosed
  refine ⟨rfl, ?_⟩
  show max (max (max 0 0) (alone.content.depth + 1)) 0 + 1 = _
  omega

end Reader

/-! ### Texts between the two ends -/

section Texts

open Reader

variable {item : Item}

/-- An expression between the two ends of a text. -/
def anchored (f : Flags) (e : Expr) : Expr :=
  Expr.sequence [.look (anchor f '^'), e, .look (anchor f '$')]

/-- Whether an expression that a text is read as is not refused between the two ends. -/
structure FitsBetween (f : Flags) (s : List Char) (item : Item) : Prop where
  /-- The closing characters are no comment: a parenthesis that nothing opened cannot be read. -/
  noComment : read? f (s ++ closing) = none
  /-- The syntax tree does not get too deep. -/
  depth : item.depth + 2 ≤ maxDepth
  /-- There is room for the assertions about the two ends. -/
  room : (anchored f item.expr).fits = true

theorem exists_readAll_of_read? (h : read? f s = some item) :
    ∃ alone, (start f).readAll (s.length + 1) s = some alone ∧ alone.outer = [] ∧
      alone.content = item ∧ item.depth ≤ maxDepth := by
  obtain ⟨alone, halone, h⟩ := Option.bind_eq_some_iff.mp h
  split at h
  · next hends =>
    obtain ⟨houter, hdepth⟩ : alone.outer = [] ∧ alone.content.depth ≤ maxDepth := by
      simpa using hends
    obtain rfl := Option.some.inj h
    exact ⟨alone, halone, houter, rfl, hdepth⟩
  · simp at h

/-- **A text that can be read alone, between the two ends**: either a comment takes the closing
characters in, and then the group around the text stays open, or what was read gets two levels
deeper. -/
theorem read?_enclosed_of_read? (hverbose : f.verbose = false) (h : read? f s = some item) :
    (read? f (s ++ closing)).isSome = true ∧ read? f (enclosed s) = none ∨
      read? f (s ++ closing) = none ∧ ∃ last : Item, last.expr = anchored f item.expr ∧
        last.depth = item.depth + 2 ∧
        read? f (enclosed s) = if item.depth + 2 ≤ maxDepth then some last else none := by
  obtain ⟨alone, halone, houter, rfl, hdepth⟩ := exists_readAll_of_read? h
  have hlength : (s ++ closing).length + 1 = s.length + 3 := by simp [closing]
  have hlength' : (enclosed s).length + 1 = s.length + 5 + 2 := by simp [enclosed, closing]
  have hreads := readAll_append_closing (atStart f) halone (Nat.le_refl _)
    (Nat.add_le_add_left (show 3 ≤ 5 by decide) s.length)
  rw [← readAll_enclosed hverbose, ← hlength, ← hlength'] at hreads
  rcases hreads with ⟨hopen, hunder⟩ | ⟨hopen, hunder⟩
  · left
    rw [read?, read?, hopen, hunder]
    simp [houter, hdepth, under]
  · right
    have hnone : alone.closeGroup = none := by rw [closeGroup, houter]
    obtain ⟨closed, hclosed⟩ : ∃ closed, (alone.under (atStart f)).closeGroup = some closed := by
      rw [closeGroup, show (alone.under (atStart f)).outer = [atStart f] by simp [under, houter]]
      exact ⟨_, rfl⟩
    rw [hnone] at hopen
    rw [hclosed] at hunder
    have hends : ClosedAs (atStart f) alone closed.ended := ⟨houter, closed, hclosed, rfl⟩
    obtain ⟨hlast, hdeeper⟩ := depth_of_closedAs hends
    refine ⟨by rw [read?, hopen]; rfl, closed.ended.content, (content_enclosed hends).1, hdeeper, ?_⟩
    rw [read?, hunder]
    simp [hlast, hdeeper]

theorem parse?_enclosed_of_fits (hverbose : f.verbose = false) (h : read? f s = some item)
    (hfits : FitsBetween f s item) : parse? f (enclosed s) = some (anchored f item.expr) := by
  rcases read?_enclosed_of_read? hverbose h with ⟨hcomment, -⟩ | ⟨-, last, hexpr, -, hread⟩
  · simp [hfits.noComment] at hcomment
  · rw [parse?, hread, if_pos hfits.depth]
    show (if last.expr.fits then _ else _) = _
    rw [hexpr, if_pos hfits.room]

theorem parse?_enclosed_of_not_fits (hverbose : f.verbose = false) (h : read? f s = some item)
    (hfits : ¬FitsBetween f s item) : parse? f (enclosed s) = none := by
  rcases read?_enclosed_of_read? hverbose h with ⟨-, hnone⟩ | ⟨hcomment, last, hexpr, -, hread⟩
  · rw [parse?, hnone]
    rfl
  · rw [parse?, hread]
    split
    · next hdepth =>
      have hroom : ¬(anchored f item.expr).fits = true := fun hroom =>
        hfits ⟨hcomment, hdepth, hroom⟩
      show (if last.expr.fits then _ else _) = _
      rw [hexpr, if_neg hroom]
    · rfl

end Texts

end PathRouting.Regex
