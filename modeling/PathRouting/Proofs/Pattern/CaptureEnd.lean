import PathRouting.Proofs.Pattern.InRange

/-!
# Where captures end

Braces are counted twice.  The text of a pattern is cut into segments where none is open, and for
this count a backslash has a meaning only in a constraint.  The end of a capture is then looked for
in its segment, and here a backslash has a meaning everywhere and a brace in a name is counted like
any other.  The two counts agree on every capture whose name has no backslash: up to the first colon
there is nothing that they could count differently, and from there on they go step by step.

## Main definitions

* `depthAt` — the number of braces that are open at a position of a text.
* `openedName` — the name in the text after an opening brace.
* `Braces.Closes` — text that keeps braces open up to the brace that closes all of them.

## Main results

* `exists_before_of_mem_tokens` — no brace is open where a segment starts.
* `closes_inConstraint`, `exists_closes` — the brace that is found closes all that are open.
* `captureEnd_of_depthAt` — **a capture ends at the first brace after which none is open**.
-/

namespace PathRouting

variable {separator : Char} {b next : Braces} {s text inner after : List Char} {ts : List Token}
  {position : Nat}

/-! ### The state at a position -/

/-- The number of braces that are open before a position, unless there is a fault before it. -/
def depthAt (text : List Char) (i : Nat) : Option Nat :=
  (Braces.outside.run (text.take i)).toOption.map (·.depth)

namespace Braces

theorem run_append (b : Braces) (s t : List Char) :
    b.run (s ++ t) = b.run s >>= fun next => next.run t := by
  induction s generalizing b with
  | nil => rfl
  | cons c s ih =>
    rw [List.cons_append, run, run]
    cases b.step c with
    | error cause => rfl
    | ok next => exact ih next

theorem Settled.run (h : b.Settled) (hrun : b.run s = .ok next) : next.Settled := by
  induction s generalizing b with
  | nil =>
    obtain rfl := Except.ok.inj hrun
    exact h
  | cons c s ih =>
    obtain ⟨b', hstep, hnext⟩ := run_cons_ok.mp hrun
    exact ih (h.step hstep) hnext

/-- Tokens that close all braces that they open do so when put together. -/
theorem run_flatMap (h : ∀ t ∈ ts, outside.run (t.text separator) = .ok outside) :
    outside.run (ts.flatMap (Token.text separator)) = .ok outside := by
  induction ts with
  | nil => rfl
  | cons t ts ih =>
    obtain ⟨ht, hts⟩ := List.forall_mem_cons.mp h
    rw [List.flatMap_cons, run_append, ht]
    exact ih hts

end Braces

/-- A text is never cut at a brace. -/
theorem separator_ne_brace {p : Nat} (h : tokensFrom separator b position s = .ok ts)
    (hmem : .separator p ∈ ts) : separator ≠ '{' ∧ separator ≠ '}' := by
  induction s generalizing b position ts with
  | nil =>
    obtain rfl := tokensFrom_nil h
    simp at hmem
  | cons c s ih =>
    obtain ⟨next, rest, -, hrest, rfl⟩ := tokensFrom_cons h
    split at hmem
    · next hcut =>
      simp only [Braces.cutsAt, Bool.and_eq_true, beq_iff_eq, bne_iff_ne] at hcut
      obtain ⟨⟨⟨-, rfl⟩, hopen⟩, hclose⟩ := hcut
      exact ⟨hopen, hclose⟩
    · apply ih hrest
      rcases Token.cons_eq position c rest with ⟨q, t, rest', rfl, hcons⟩ | ⟨-, hcons⟩
      · simpa [hcons] using hmem
      · simpa [hcons] using hmem

theorem run_text_of_mem_tokens (h : tokens separator text = .ok ts) {t : Token} (ht : t ∈ ts) :
    Braces.outside.run (t.text separator) = .ok .outside := by
  cases t with
  | segment p t => exact run_of_mem_tokens h ht
  | separator p =>
    obtain ⟨hopen, hclose⟩ := separator_ne_brace h ht
    exact Braces.run_cons_ok.mpr ⟨.outside, Braces.step_outside hopen hclose, rfl⟩

/-- A token stands where the texts of those before it end. -/
theorem text_eq_of_tokens {t : Token} {earlier later : List Token}
    (h : tokens separator text = .ok (earlier ++ t :: later)) :
    text = earlier.flatMap (Token.text separator)
        ++ (t.text separator ++ later.flatMap (Token.text separator)) ∧
      t.position = (earlier.flatMap (Token.text separator)).length := by
  have hcovers := covers_of_tokens h
  rw [List.map_append, List.map_cons] at hcovers
  have hplace := hcovers.place_eq
  rw [List.flatMap_map] at hplace
  refine ⟨?_, hplace⟩
  rw [← flatMap_text_tokensFrom h, List.flatMap_append, List.flatMap_cons]

/-- **No brace is open where a segment starts**, and the segment stands where it says. -/
theorem exists_before_of_mem_tokens (h : tokens separator text = .ok ts)
    (hs : .segment position s ∈ ts) : ∃ before after, text = before ++ (s ++ after) ∧
      before.length = position ∧ Braces.outside.run before = .ok .outside := by
  obtain ⟨earlier, later, rfl⟩ := List.append_of_mem hs
  obtain ⟨htext, hplace⟩ := text_eq_of_tokens h
  refine ⟨_, _, htext, hplace.symm, ?_⟩
  apply Braces.run_flatMap
  intro t ht
  exact run_text_of_mem_tokens h (List.mem_append_left _ ht)

/-- In a segment the count of braces starts anew. -/
theorem depthAt_of_mem_tokens (h : tokens separator text = .ok ts)
    (hs : .segment position s ∈ ts) {k : Nat} (hk : k ≤ s.length) :
    depthAt text (position + k) = depthAt s k := by
  obtain ⟨before, after, rfl, rfl, hbefore⟩ := exists_before_of_mem_tokens h hs
  rw [depthAt, List.take_length_add_append, List.take_append_of_le_length hk, Braces.run_append,
    hbefore]
  rfl

/-! ### The brace that closes a capture -/

/-- The text of a name after its opening brace: up to a colon or a closing brace. -/
def openedName (s : List Char) : List Char := s.takeWhile fun c => c != ':' && c != '}'

/-- Text that keeps braces open up to the brace after it, which closes all of them. -/
structure Braces.Closes (b : Braces) (inner : List Char) : Prop where
  /-- In the text a brace is always open. -/
  opened : ∀ s, s <+: inner → ∃ next, b.run s = .ok next ∧ next.depth ≠ 0
  /-- After the brace that follows none is. -/
  closed : b.run (inner ++ ['}']) = .ok .outside

namespace Braces.Closes

theorem nil (hdepth : b.depth ≠ 0) (hclose : b.step '}' = .ok .outside) : b.Closes [] where
  opened := by
    intro s hs
    obtain rfl := List.prefix_nil.mp hs
    exact ⟨b, rfl, hdepth⟩
  closed := run_cons_ok.mpr ⟨.outside, hclose, rfl⟩

theorem cons {c : Char} (hdepth : b.depth ≠ 0) (hstep : b.step c = .ok next)
    (h : next.Closes inner) : b.Closes (c :: inner) where
  opened := by
    intro s hs
    rcases List.prefix_cons_iff.mp hs with rfl | ⟨t, rfl, ht⟩
    · exact ⟨b, rfl, hdepth⟩
    · obtain ⟨last, hrun, hlast⟩ := h.opened t ht
      exact ⟨last, run_cons_ok.mpr ⟨next, hstep, hrun⟩, hlast⟩
  closed := run_cons_ok.mpr ⟨next, hstep, h.closed⟩

end Braces.Closes

/-- In a constraint the brace that is found closes all that are open. -/
theorem closes_inConstraint {depth : Nat} {escaped : Bool}
    (h : closing depth escaped s = some (inner, after)) :
    Braces.Closes ⟨depth + 1, true, escaped⟩ inner := by
  induction s generalizing depth escaped inner with
  | nil => simp [closing] at h
  | cons c s ih =>
    have hstep := step_inConstraint depth escaped c
    rw [closing_cons] at h
    rcases hclose : closeStep depth escaped c with _ | ⟨depth', escaped'⟩
    · rw [hclose] at h hstep
      obtain ⟨rfl, -⟩ := Prod.mk.inj (Option.some.inj h)
      obtain rfl := (closeStep_eq_none hclose).1
      exact .nil (Nat.succ_ne_zero depth) hstep
    · rw [hclose] at h hstep
      obtain ⟨⟨inner', after'⟩, hrest, heq⟩ := Option.map_eq_some_iff.mp h
      obtain ⟨rfl, rfl⟩ := Prod.mk.inj heq
      exact .cons (Nat.succ_ne_zero depth) hstep (ih hrest)

/-- **The brace that closes a capture is found**, if no backslash stands in the name. -/
theorem exists_closes (h : Braces.run ⟨1, false, false⟩ s = .ok .outside)
    (hname : '\\' ∉ openedName s) : ∃ inner after, closing 0 false s = some (inner, after) ∧
      Braces.Closes ⟨1, false, false⟩ inner := by
  induction s with
  | nil => simp [Braces.outside] at h
  | cons c s ih =>
    obtain ⟨next, hstep, hnext⟩ := Braces.run_cons_ok.mp h
    rw [closing_cons]
    by_cases hclose : c = '}'
    · rw [hclose]
      exact ⟨[], s, rfl, .nil Nat.one_ne_zero rfl⟩
    by_cases hopen : c = '{'
    · rw [hopen] at hstep
      simp [Braces.step] at hstep
    by_cases hcolon : c = ':'
    · -- the constraint starts here
      rw [hcolon] at hstep ⊢
      obtain rfl : ⟨0 + 1, true, false⟩ = next := Except.ok.inj hstep
      obtain ⟨⟨inner, after⟩, hrest⟩ := exists_closing_inConstraint hnext
      exact ⟨':' :: inner, after, Option.map_eq_some_iff.mpr ⟨_, hrest, rfl⟩,
        .cons Nat.one_ne_zero hstep (closes_inConstraint hrest)⟩
    obtain rfl : ⟨1, false, false⟩ = next := by
      simpa [Braces.step, hclose, hopen, hcolon] using hstep
    -- a character of the name changes neither count
    have hcons : openedName (c :: s) = c :: openedName s := by
      simp [openedName, hcolon, hclose]
    rw [hcons, List.mem_cons, not_or] at hname
    have hgo : closeStep 0 false c = some (0, false) := by
      simp [closeStep, hclose, hopen, Ne.symm hname.1]
    obtain ⟨inner, after, hrest, hcloses⟩ := ih hnext hname.2
    rw [hgo]
    exact ⟨c :: inner, after, Option.map_eq_some_iff.mpr ⟨_, hrest, rfl⟩,
      .cons Nat.one_ne_zero hstep hcloses⟩

/-- In a capture the braces are counted from the one that opens it. -/
theorem depthAt_opened {t : List Char} {i : Nat}
    (hbefore : Braces.outside.run (s.take i) = .ok .outside) (hdrop : s.drop i = '{' :: t)
    (j : Nat) : depthAt s (i + 1 + j)
      = (Braces.run ⟨1, false, false⟩ (t.take j)).toOption.map (·.depth) := by
  have htake : s.take (i + 1 + j) = s.take i ++ '{' :: t.take j := by
    rw [Nat.add_assoc, List.take_add, hdrop, Nat.add_comm 1 j, List.take_succ_cons]
  rw [depthAt, htake, Braces.run_append, hbefore]
  rfl

/-- A capture of a text that closes all braces that it opens ends where its own brace is closed. -/
theorem captureEnd_of_run {i : Nat} (hrun : Braces.outside.run s = .ok .outside)
    (hopen : s[i]? = some '{') (hdepth : depthAt s i = some 0)
    (hname : '\\' ∉ openedName (s.drop (i + 1))) :
    ∃ stop, Indexed.captureEnd s i = .ok stop ∧
      stop = i + 1 + (splitCapture (s.drop (i + 1))).1.length ∧ s[stop]? = some '}' ∧
      depthAt s (stop + 1) = some 0 ∧
      ∀ k, i < k → k ≤ stop → ∃ depth, depthAt s k = some (depth + 1) := by
  obtain ⟨hlt, hchar⟩ := List.getElem?_eq_some_iff.mp hopen
  have hdrop : s.drop i = '{' :: s.drop (i + 1) := by rw [List.drop_eq_getElem_cons hlt, hchar]
  generalize s.drop (i + 1) = t at hdrop hname ⊢
  -- the text before the capture leaves no brace open
  rw [← List.take_append_drop i s, Braces.run_append, bind_eq_ok] at hrun
  obtain ⟨b, hbefore, hrest⟩ := hrun
  rw [depthAt, hbefore] at hdepth
  obtain rfl : b = .outside := settled_outside.run hbefore (Option.some.inj hdepth)
  rw [hdrop] at hrest
  obtain ⟨next, hstep, hnext⟩ := Braces.run_cons_ok.mp hrest
  obtain rfl := Except.ok.inj hstep
  obtain ⟨inner, after, hclosing, hcloses⟩ := exists_closes hnext hname
  obtain rfl := closing_eq_some hclosing
  have hsplit : splitCapture (inner ++ '}' :: after) = (inner, after) := by
    rw [splitCapture, hclosing]
    rfl
  have hend := Indexed.captureEnd_eq hdrop (by simp)
  rw [hsplit] at hend ⊢
  refine ⟨i + 1 + inner.length, hend, rfl, ?_, ?_, ?_⟩
  · have hget : (s.drop i)[inner.length + 1]? = some '}' := by simp [hdrop]
    rw [List.getElem?_drop] at hget
    rw [← hget]
    congr 1
    omega
  · have htake : (inner ++ '}' :: after).take (inner.length + 1) = inner ++ ['}'] := by
      simp [List.take_length_add_append]
    rw [Nat.add_assoc, depthAt_opened hbefore hdrop, htake, hcloses.closed]
    rfl
  · intro k hik hk
    obtain ⟨j, rfl⟩ := Nat.exists_eq_add_of_le (Nat.succ_le_of_lt hik)
    have htake : (inner ++ '}' :: after).take j = inner.take j :=
      List.take_append_of_le_length (by omega)
    obtain ⟨next, hrun, hopened⟩ := hcloses.opened _ (inner.take_prefix j)
    obtain ⟨depth, hdepth⟩ := Nat.exists_eq_succ_of_ne_zero hopened
    refine ⟨depth, ?_⟩
    rw [depthAt_opened hbefore hdrop, htake, hrun]
    exact congrArg some hdepth

/-- **A capture ends at the first brace after which none is open.**  The text was cut where none is
open, by a count for which a backslash has a meaning only in a constraint; the end of the capture is
found by a count for which it has one everywhere, so there must be none in the name. -/
theorem captureEnd_of_depthAt {i : Nat} (h : tokens separator text = .ok ts)
    (hs : .segment position s ∈ ts) (hopen : s[i]? = some '{')
    (hdepth : depthAt text (position + i) = some 0)
    (hname : '\\' ∉ openedName (s.drop (i + 1))) :
    ∃ stop, Indexed.captureEnd s i = .ok stop ∧
      stop = i + 1 + (splitCapture (s.drop (i + 1))).1.length ∧ s[stop]? = some '}' ∧
      depthAt text (position + stop + 1) = some 0 ∧
      ∀ k, i < k → k ≤ stop → ∃ depth, depthAt text (position + k) = some (depth + 1) := by
  have hlt : i < s.length := (List.getElem?_eq_some_iff.mp hopen).1
  rw [depthAt_of_mem_tokens h hs (Nat.le_of_lt hlt)] at hdepth
  obtain ⟨stop, hend, hsplit, hclose, hclosed, hopened⟩ :=
    captureEnd_of_run (run_of_mem_tokens h hs) hopen hdepth hname
  have hstop : stop < s.length := (List.getElem?_eq_some_iff.mp hclose).1
  refine ⟨stop, hend, hsplit, hclose, ?_, ?_⟩
  · rw [Nat.add_assoc, depthAt_of_mem_tokens h hs hstop]
    exact hclosed
  · intro k hik hk
    rw [depthAt_of_mem_tokens h hs (Nat.le_of_lt (Nat.lt_of_le_of_lt hk hstop))]
    exact hopened k hik hk

/-- In `/{c:\}{2}}-{d}` the first capture ends before the `-`: neither the escaped brace nor that of
the repetition is its end. -/
theorem captureEnd_of_depthAt_escape :
    let s := ['{', 'c', ':', '\\', '}', '{', '2', '}', '}', '-', '{', 'd', '}']
    tokens '/' ('/' :: s) = .ok [.separator 0, .segment 1 s] ∧ s[0]? = some '{' ∧
      depthAt ('/' :: s) 1 = some 0 ∧ '\\' ∉ openedName (s.drop 1) ∧
      ∃ stop, Indexed.captureEnd s 0 = .ok stop ∧
        stop = 1 + (splitCapture (s.drop 1)).1.length ∧ s[stop]? = some '}' ∧
        depthAt ('/' :: s) (1 + stop + 1) = some 0 ∧
        ∀ k, 0 < k → k ≤ stop → ∃ depth, depthAt ('/' :: s) (1 + k) = some (depth + 1) := by
  intro s
  have htokens : tokens '/' ('/' :: s) = .ok [.separator 0, .segment 1 s] := rfl
  have hname : '\\' ∉ openedName (s.drop 1) := by decide
  exact ⟨htokens, rfl, rfl, hname,
    captureEnd_of_depthAt (i := 0) htokens (by simp) rfl rfl hname⟩

end PathRouting
