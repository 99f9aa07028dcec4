import PathRouting.Proofs.Regex.Measures

/-!
# The least room an expression takes

A state that is remembered takes no room, so what a growth takes depends on what the memory has kept.
Rows that start differently never share a state when they are read backward: each state goes on to
one that was made just before, or reads first bytes that no other row has.  The states of one row
always differ, since a state goes on to an earlier one.  So a set takes a known number of bytes at
least, and an expression has room for so many of them only.

## Main definitions

* `Draft.Remembers`, `Draft.Ordered` — which states the memory of a set may hold.
* `Growth.least` — a number of bytes that a growth takes at least.

## Main results

* `Draft.Remembers.backRows` — rows that start differently share no state.
* `Draft.Ordered.backRows` — no row shares a state with itself.
* `Growth.bytes_of_run?` — a growth takes no fewer bytes than the least.
* `Expr.dots_of_fits` — how many places for any one character there is room for.
-/

namespace PathRouting.Regex

/-! ### Footprints -/

namespace Footprint

variable {f g h : Footprint}

/-- No more states and no more bytes beside them. -/
instance : LE Footprint := ⟨fun f g => f.states ≤ g.states ∧ f.extra ≤ g.extra⟩

theorem le_refl (f : Footprint) : f ≤ f := ⟨Nat.le_refl _, Nat.le_refl _⟩

theorem le_trans (hfg : f ≤ g) (hgh : g ≤ h) : f ≤ h :=
  ⟨Nat.le_trans hfg.1 hgh.1, Nat.le_trans hfg.2 hgh.2⟩

theorem le_plus (f g : Footprint) : f ≤ f.plus g := ⟨Nat.le_add_right _ _, Nat.le_add_right _ _⟩

theorem bytes_le (h : f ≤ g) : f.bytes ≤ g.bytes :=
  Nat.add_le_add (Nat.mul_le_mul_left 32 h.1) h.2

theorem bytes_plus (f g : Footprint) : (f.plus g).bytes = f.bytes + g.bytes := by
  simp only [bytes, plus]
  omega

end Footprint

namespace Draft

variable {d : Draft} {final next : Nat} {range : ByteRange} {seen : List ByteRange}

/-! ### States take room -/

theorem le_state (d : Draft) (slots : Nat) (key : List UInt64) (extra : Nat) :
    d.footprint ≤ (d.state slots key extra).2.footprint := by
  unfold state
  dsimp only
  split
  · split
    · exact Footprint.le_refl _
    · exact Footprint.le_plus _ _
  · exact Footprint.le_plus _ _

theorem le_startOf (d : Draft) (ways : List UInt64 × Nat) :
    d.footprint ≤ (d.startOf ways).2.footprint := d.le_state _ _ _

theorem le_ways (final : Nat) (t : ByteTree) (d : Draft) :
    d.footprint ≤ (ways final t d).2.footprint := by
  induction t generalizing d with
  | accept => exact Footprint.le_refl _
  | done => exact Footprint.le_refl _
  | way range child more ihchild ihmore =>
    by_cases hchild : child = .accept
    · subst hchild
      exact ihmore d
    · rw [ways]
      · exact Footprint.le_trans (Footprint.le_trans (ihchild d) (le_startOf _ _)) (ihmore _)
      · exact hchild

/-- What the state that reads a byte of a range before it goes on to `next` is remembered by. -/
def backKey (next : Nat) (range : ByteRange) : List UInt64 :=
  [next.toUInt64, range.first.toUInt64, range.last.toUInt64]

/-- That state. -/
def backState (d : Draft) (next : Nat) (range : ByteRange) : Nat × Draft :=
  d.state backSlots (backKey next range) 0

/-- A row is read by one state for each of its ranges. -/
theorem backRow_cons (d : Draft) (next : Nat) (range : ByteRange) (row : ByteRow) :
    d.backRow next (range :: row) = (d.backState next range).2.backRow (d.backState next range).1 row :=
  rfl

theorem le_backRow (next : Nat) (row : ByteRow) (d : Draft) :
    d.footprint ≤ (d.backRow next row).footprint := by
  induction row generalizing next d with
  | nil => exact Footprint.le_refl _
  | cons range row ih =>
    rw [backRow_cons]
    exact Footprint.le_trans (d.le_state _ _ _) (ih _ _)

theorem le_backRows (final : Nat) (rows : List ByteRow) (d : Draft) :
    d.footprint ≤ (rows.foldl (fun d row => d.backRow final row) d).footprint := by
  induction rows generalizing d with
  | nil => exact Footprint.le_refl _
  | cons row rows ih =>
    rw [List.foldl_cons]
    exact Footprint.le_trans (d.le_backRow final row) (ih _)

/-! ### States that are not shared -/

/-- All states remembered go on to `final` or to a later state, but not to the latest one, and those
that go on to `final` read one of the ranges `seen`. -/
def Remembers (d : Draft) (final : Nat) (seen : List ByteRange) : Prop :=
  ∀ slot key id, d.memory.get? slot = some (key, id) → ∃ next range,
    key = backKey next range ∧ final ≤ next ∧ next + 1 < d.footprint.states ∧
      (next = final → range ∈ seen)

theorem remembers_empty (f : Footprint) (final : Nat) (seen : List ByteRange) :
    Remembers ⟨f, .empty⟩ final seen := by
  intro slot key id h
  simp at h

/-- Keys are different for different states and ranges. -/
theorem backKey_inj {next' : Nat} {range' : ByteRange} (h : next < UInt64.size) (h' : next' < UInt64.size)
    (heq : backKey next range = backKey next' range') : next = next' ∧ range = range' := by
  simp only [backKey, List.cons.injEq, and_true] at heq
  obtain ⟨hnext, hfirst, hlast⟩ := heq
  constructor
  · have hnat := congrArg UInt64.toNat hnext
    rwa [Nat.toUInt64, UInt64.toNat_ofNat_of_lt' h, UInt64.toNat_ofNat_of_lt' h'] at hnat
  · obtain ⟨first, last⟩ := range
    obtain ⟨first', last'⟩ := range'
    obtain rfl : first = first' := UInt8.toUInt64_inj.mp hfirst
    obtain rfl : last = last' := UInt8.toUInt64_inj.mp hlast
    rfl

/-- What is not remembered is made. -/
theorem state_eq_made {slots extra : Nat} {key : List UInt64}
    (h : ∀ id, d.memory.get? (slotOf slots key) ≠ some (key, id)) : d.state slots key extra
      = (d.footprint.states, ⟨d.footprint.plus ⟨1, extra⟩,
          d.memory.insert (slotOf slots key) (key, d.footprint.states)⟩) := by
  unfold state
  dsimp only
  split
  · next known id hknown =>
    have hne : known ≠ key := by
      rintro rfl
      exact h id hknown
    rw [if_neg hne]
  · rfl

/-- A state that goes on to the latest one, or to the final one by a range not seen yet, is made. -/
theorem Remembers.backState {seen' : List ByteRange} (h : d.Remembers final seen)
    (range : ByteRange) (hstates : d.footprint.states < UInt64.size) (hfinal : final ≤ next)
    (hnext : next < d.footprint.states)
    (hnew : next + 1 = d.footprint.states ∨ next = final ∧ range ∉ seen) (hseen : seen ⊆ seen')
    (hrange : next = final → range ∈ seen') :
    ∃ d', d.backState next range = (d.footprint.states, d') ∧
      d'.footprint.states = d.footprint.states + 1 ∧ d'.Remembers final seen' := by
  refine ⟨_, state_eq_made fun id hid => ?_, rfl, fun slot key id hkey => ?_⟩
  · obtain ⟨next', range', heq, hle, hlt, hmem⟩ := h _ _ _ hid
    obtain ⟨rfl, rfl⟩ := backKey_inj (by omega) (by omega) heq
    rcases hnew with hlast | ⟨hnext, hrange⟩
    · omega
    · exact hrange (hmem hnext)
  · rw [NatTree.get?_insert] at hkey
    split at hkey
    · obtain ⟨rfl, -⟩ := Prod.mk.inj (Option.some.inj hkey)
      exact ⟨next, range, rfl, hfinal, Nat.succ_lt_succ hnext, hrange⟩
    · obtain ⟨next', range', heq, hle, hlt, hmem⟩ := h slot key id hkey
      exact ⟨next', range', heq, hle, Nat.lt_succ_of_lt hlt, fun hnext => hseen (hmem hnext)⟩

/-- After its first state a row makes all others. -/
theorem Remembers.backRow_latest (h : d.Remembers final seen) (hfinal : final < next)
    (hnext : next + 1 = d.footprint.states) (row : ByteRow)
    (hstates : (d.backRow next row).footprint.states < UInt64.size) :
    (d.backRow next row).footprint.states = d.footprint.states + row.length ∧
      (d.backRow next row).Remembers final seen := by
  induction row generalizing d next with
  | nil => exact ⟨rfl, h⟩
  | cons range row ih =>
    have hle := (le_backRow next (range :: row) d).1
    obtain ⟨d', heq, hfootprint, h'⟩ := h.backState range (by omega)
      (Nat.le_of_lt hfinal) (by omega) (.inl hnext) (List.Subset.refl _) (by omega)
    rw [backRow_cons, heq] at hstates ⊢
    obtain ⟨hcount, hrest⟩ := ih h' (by omega) hfootprint.symm hstates
    refine ⟨?_, hrest⟩
    rw [hcount, hfootprint, List.length_cons]
    omega

/-- A row that starts with a range not seen yet makes all its states. -/
theorem Remembers.backRow (h : d.Remembers final seen) (hfinal : final < d.footprint.states)
    {row : ByteRow} (hnew : ∀ range ∈ row.head?, range ∉ seen)
    (hstates : (d.backRow final row).footprint.states < UInt64.size) :
    (d.backRow final row).footprint.states = d.footprint.states + row.length ∧
      (d.backRow final row).Remembers final (row.head?.toList ++ seen) := by
  cases row with
  | nil => exact ⟨rfl, h⟩
  | cons range row =>
    have hle := (le_backRow final (range :: row) d).1
    obtain ⟨d', heq, hfootprint, h'⟩ := h.backState range (by omega) (Nat.le_refl _) hfinal
      (.inr ⟨rfl, hnew range rfl⟩) (List.subset_cons_self range seen) fun _ => List.mem_cons_self
    rw [backRow_cons, heq] at hstates ⊢
    obtain ⟨hcount, hrest⟩ := h'.backRow_latest hfinal hfootprint.symm row hstates
    refine ⟨?_, hrest⟩
    rw [hcount, hfootprint, List.length_cons]
    omega

/-- **Rows that start differently share no state.** -/
theorem Remembers.backRows (h : d.Remembers final seen) (hfinal : final < d.footprint.states)
    {rows : List ByteRow} (hnew : ∀ row ∈ rows, ∀ range ∈ row.head?, range ∉ seen)
    (hapart : (rows.filterMap List.head?).Nodup)
    (hstates : (rows.foldl (fun d row => d.backRow final row) d).footprint.states < UInt64.size) :
    (rows.foldl (fun d row => d.backRow final row) d).footprint.states
      = d.footprint.states + rows.flatten.length := by
  induction rows generalizing d seen with
  | nil => rfl
  | cons row rows ih =>
    obtain ⟨hrow, hrows⟩ := List.forall_mem_cons.mp hnew
    rw [List.foldl_cons] at hstates ⊢
    have hle := (le_backRows final rows (d.backRow final row)).1
    obtain ⟨hcount, h'⟩ := h.backRow hfinal hrow (by omega)
    have hlater : (rows.filterMap List.head?).Nodup ∧ ∀ row' ∈ rows, ∀ range ∈ row'.head?,
        range ∉ row.head?.toList := by
      cases row with
      | nil => exact ⟨hapart, by simp⟩
      | cons first row =>
        have hfilter : ((first :: row) :: rows).filterMap List.head?
            = first :: rows.filterMap List.head? := List.filterMap_cons_some rfl
        rw [hfilter, List.nodup_cons] at hapart
        refine ⟨hapart.2, fun row' hrow' range hrange hmem => hapart.1 ?_⟩
        obtain rfl : range = first := by simpa using hmem
        exact List.mem_filterMap.mpr ⟨row', hrow', hrange⟩
    have hfresh : ∀ row' ∈ rows, ∀ range ∈ row'.head?, range ∉ row.head?.toList ++ seen := by
      intro row' hrow' range hrange hmem
      rcases List.mem_append.mp hmem with hmem | hmem
      · exact hlater.2 row' hrow' range hrange hmem
      · exact hrows row' hrow' range hrange hmem
    rw [ih h' (by omega) hfresh hlater.1 hstates, hcount, List.flatten_cons, List.length_append,
      Nat.add_assoc]

/-! ### States of one row -/

/-- All states remembered go on to earlier ones. -/
def Ordered (d : Draft) : Prop :=
  ∀ slot key id, d.memory.get? slot = some (key, id) → ∃ next range,
    key = backKey next range ∧ next < id ∧ id < d.footprint.states

theorem ordered_empty (f : Footprint) : Ordered ⟨f, .empty⟩ := by
  intro slot key id h
  simp at h

/-- A state is later than the one it goes on to. -/
theorem Ordered.backState (h : d.Ordered) (range : ByteRange)
    (hstates : d.footprint.states < UInt64.size) (hnext : next < d.footprint.states) :
    next < (d.backState next range).1 ∧
      (d.backState next range).1 < (d.backState next range).2.footprint.states ∧
      (d.backState next range).2.Ordered := by
  by_cases hknown : ∃ id, d.memory.get? (slotOf backSlots (backKey next range))
      = some (backKey next range, id)
  · obtain ⟨id, hid⟩ := hknown
    have hfound : d.backState next range = (id, d) := by
      simp only [Draft.backState, state, hid, if_true]
    obtain ⟨next', range', heq, hlt, hle⟩ := h _ _ _ hid
    obtain ⟨rfl, -⟩ := backKey_inj (by omega) (by omega) heq
    rw [hfound]
    exact ⟨hlt, hle, h⟩
  · rw [not_exists] at hknown
    rw [Draft.backState, state_eq_made hknown]
    refine ⟨hnext, Nat.lt_succ_self _, fun slot key id hkey => ?_⟩
    rw [NatTree.get?_insert] at hkey
    split at hkey
    · obtain ⟨rfl, rfl⟩ := Prod.mk.inj (Option.some.inj hkey)
      exact ⟨next, range, rfl, hnext, Nat.lt_succ_self _⟩
    · obtain ⟨next', range', heq, hlt, hle⟩ := h slot key id hkey
      exact ⟨next', range', heq, hlt, Nat.lt_succ_of_lt hle⟩

/-- The states of a row come one after the other. -/
theorem Ordered.backRow (h : d.Ordered) (hnext : next < d.footprint.states) (row : ByteRow)
    (hstates : (d.backRow next row).footprint.states < UInt64.size) :
    next + row.length < (d.backRow next row).footprint.states ∧ (d.backRow next row).Ordered := by
  induction row generalizing d next with
  | nil => exact ⟨hnext, h⟩
  | cons range row ih =>
    have hle := (le_backRow next (range :: row) d).1
    obtain ⟨hlt, hmade, h'⟩ := h.backState range (by omega) hnext
    rw [backRow_cons] at hstates ⊢
    obtain ⟨hcount, hordered⟩ := ih h' hmade hstates
    rw [List.length_cons]
    exact ⟨by omega, hordered⟩

/-- **No row shares a state with itself.** -/
theorem Ordered.backRows (h : d.Ordered) (hfinal : final < d.footprint.states)
    {rows : List ByteRow} {row : ByteRow} (hrow : row ∈ rows)
    (hstates : (rows.foldl (fun d row => d.backRow final row) d).footprint.states < UInt64.size) :
    final + row.length
      < (rows.foldl (fun d row => d.backRow final row) d).footprint.states := by
  induction rows generalizing d with
  | nil => simp at hrow
  | cons first rows ih =>
    rw [List.foldl_cons] at hstates ⊢
    have hle := (le_backRows final rows (d.backRow final first)).1
    obtain ⟨hcount, h'⟩ := h.backRow hfinal first (by omega)
    rcases List.mem_cons.mp hrow with rfl | hrow
    · omega
    · exact ih h' (by omega) hrow hstates

end Draft

/-- The length of the longest row. -/
def longest (rows : List ByteRow) : Nat := (rows.map List.length).foldr max 0

theorem le_longest {rows : List ByteRow} {row : ByteRow} (h : row ∈ rows) :
    row.length ≤ longest rows := by
  induction rows with
  | nil => simp at h
  | cons first rows ih =>
    have hcons : longest (first :: rows) = max first.length (longest rows) := rfl
    rw [hcons]
    rcases List.mem_cons.mp h with rfl | h
    · exact Nat.le_max_left _ _
    · exact Nat.le_trans (ih h) (Nat.le_max_right _ _)

/-- Some row is as long as the longest one. -/
theorem exists_longest (rows : List ByteRow) :
    longest rows = 0 ∨ ∃ row ∈ rows, row.length = longest rows := by
  induction rows with
  | nil => exact .inl rfl
  | cons first rows ih =>
    have hcons : longest (first :: rows) = max first.length (longest rows) := rfl
    rw [hcons]
    rcases Nat.le_total (longest rows) first.length with hle | hle
    · exact .inr ⟨first, List.mem_cons_self, (Nat.max_eq_left hle).symm⟩
    · rw [Nat.max_eq_right hle]
      exact ih.imp_right fun ⟨row, hrow, hlength⟩ => ⟨row, List.mem_cons_of_mem _ hrow, hlength⟩

namespace Growth

/-- A number of bytes that a growth takes at least.  For a set that is read backward all states are
counted if they cannot be shared, and otherwise those of the longest row. -/
def least : Growth → Nat
  | fixed size => size.bytes
  | tree _ => 32
  | rows bytes => 64 + 4 * bytes.length
      + 32 * if (bytes.filterMap List.head?).Nodup then bytes.flatten.length else longest bytes
  | both a b => a.least + b.least
  | times n body => n * body.least

theorem bytes_of_repeatStep {step : Footprint → Option Footprint} {least : Nat}
    (hstep : ∀ {f g}, step f = some g → f.bytes + least ≤ g.bytes) {n : Nat} {f g : Footprint}
    (h : repeatStep step n f = some g) : f.bytes + n * least ≤ g.bytes := by
  induction n generalizing f with
  | zero =>
    obtain rfl := Option.some.inj h
    simp
  | succ n ih =>
    rw [repeatStep] at h
    split at h
    · next f' hf =>
      have hfirst := hstep hf
      have hrest := ih h
      rw [Nat.succ_mul]
      omega
    · simp at h

/-- A set that is read backward takes two states, four bytes for each row, and the states for the
rows, of which there is one for each range of bytes if all rows start differently, and otherwise one
for each range of the longest row. -/
theorem bytes_of_rows {bytes : List ByteRow} {f g : Footprint}
    (h : (rows bytes).run? f = some g) : f.bytes + (rows bytes).least ≤ g.bytes := by
  obtain ⟨rfl, hlimit⟩ := Footprint.within?_eq_some_iff.mp h
  let begun : Draft := ⟨f.plus ⟨2, 4 * bytes.length⟩, .empty⟩
  let made : Draft := bytes.foldl (fun d row => d.backRow (f.states + 1) row) begun
  have hlimit : made.footprint.bytes ≤ Footprint.limit := hlimit
  have hbegun : begun.footprint.bytes = f.bytes + (64 + 4 * bytes.length) :=
    Footprint.bytes_plus f _
  have hle : begun.footprint ≤ made.footprint := Draft.le_backRows _ _ _
  have hstates : made.footprint.states < UInt64.size := by
    simp only [Footprint.bytes, Footprint.limit] at hlimit
    rw [UInt64.size]
    omega
  have hcount : begun.footprint.states
      + (if (bytes.filterMap List.head?).Nodup then bytes.flatten.length else longest bytes)
      ≤ made.footprint.states := by
    split
    · next hapart =>
      exact Nat.le_of_eq ((Draft.remembers_empty _ _ []).backRows (Nat.lt_succ_self _) (by simp)
        hapart hstates).symm
    · rcases exists_longest bytes with hzero | ⟨row, hrow, hlength⟩
      · rw [hzero]
        exact hle.1
      · have hlast : f.states + 1 + row.length < made.footprint.states :=
          (Draft.ordered_empty _).backRows (Nat.lt_succ_self _) hrow hstates
        have hbegun : begun.footprint.states = f.states + 2 := rfl
        omega
  have hextra := hle.2
  show f.bytes + (64 + 4 * bytes.length + 32 * _) ≤ made.footprint.bytes
  have hbytes (d : Draft) : d.footprint.bytes = 32 * d.footprint.states + d.footprint.extra := rfl
  rw [hbytes] at hbegun ⊢
  omega

/-- **A growth takes no fewer bytes than the least.** -/
theorem bytes_of_run? {growth : Growth} {f g : Footprint} (h : growth.run? f = some g) :
    f.bytes + growth.least ≤ g.bytes := by
  induction growth generalizing f g with
  | fixed size =>
    obtain ⟨rfl, -⟩ := Footprint.within?_eq_some_iff.mp h
    exact Nat.le_of_eq (Footprint.bytes_plus f size).symm
  | tree t =>
    obtain ⟨rfl, -⟩ := Footprint.within?_eq_some_iff.mp h
    have hbegun : (f.plus ⟨1, 0⟩).bytes = f.bytes + 32 := Footprint.bytes_plus f ⟨1, 0⟩
    rw [least, ← hbegun]
    exact Footprint.bytes_le
      (Footprint.le_trans (Draft.le_ways f.states t ⟨_, .empty⟩) (Draft.le_startOf _ _))
  | rows bytes => exact bytes_of_rows h
  | both a b iha ihb =>
    obtain ⟨f', ha, hb⟩ := Option.bind_eq_some_iff.mp h
    have hfirst := iha ha
    have hsecond := ihb hb
    rw [least]
    omega
  | times n body ih => exact bytes_of_repeatStep ih h

end Growth

namespace Expr

/-- The set of all characters is nine rows of bytes, twenty-seven ranges in all. -/
theorem least_any : (CharSet.growth .backward .any).least = 964 := by decide +kernel

/-- Each place for any one character takes 964 bytes or more, read backward. -/
theorem dots_le_least (e : Expr) : 964 * e.dots ≤ (e.growth .backward).least := by
  induction e with
  | set s =>
    rw [dots]
    split
    · next hany =>
      subst hany
      exact Nat.le_of_eq least_any.symm
    · exact Nat.zero_le _
  | group i e ih => exact ih
  | seq a b iha ihb =>
    show 964 * (a.dots + b.dots) ≤ (b.growth .backward).least + (a.growth .backward).least
    omega
  | iter e min max greedy ih =>
    cases min with
    | succ min => exact Nat.zero_le _
    | zero =>
      cases max with
      | some max => exact Nat.zero_le _
      | none =>
        show 964 * e.dots ≤ (Growth.ofIter (e.growth .backward) e.consumes 0 none).least
        unfold Growth.ofIter
        simp only
        split <;> simp only [Growth.least] <;> omega
  | _ => exact Nat.zero_le _

/-- **An expression that fits takes, read backward, no more bytes at least than there is room for.** -/
theorem least_of_fits {e : Expr} (h : e.fits = true) :
    (e.automaton .backward).least ≤ Footprint.limit := by
  obtain ⟨-, hback⟩ := Bool.and_eq_true_iff.mp h
  obtain ⟨g, hrun⟩ := Option.isSome_iff_exists.mp hback
  have hbytes := Growth.bytes_of_run? hrun
  -- the state of success is counted last
  have hlimit : g.bytes ≤ Footprint.limit := by
    obtain ⟨f, -, hrest⟩ := Option.bind_eq_some_iff.mp hrun
    obtain ⟨f', -, hlast⟩ := Option.bind_eq_some_iff.mp hrest
    obtain ⟨rfl, hle⟩ := Footprint.within?_eq_some_iff.mp hlast
    exact hle
  omega

/-- **An expression that fits has no more places for any one character than there is room for.** -/
theorem dots_of_fits {e : Expr} (h : e.fits = true) : 964 * e.dots ≤ Footprint.limit := by
  have hdots := e.dots_le_least
  have hleast := least_of_fits h
  have hgrowth : (e.growth .backward).least ≤ (e.automaton .backward).least := by
    show _ ≤ _ + ((e.growth .backward).least + 32)
    omega
  omega

end Expr

end PathRouting.Regex
