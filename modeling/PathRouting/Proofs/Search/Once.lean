import PathRouting.Proofs.Search.Traced

/-!
# No attempt is made twice

From one `**` to the next the search goes straight: every element takes one element of the path.
An attempt is therefore known by the place where the straight way to it began.  Ways begin only at
the front of the pattern and where a `**` tries the elements after it, the latter being remembered
if they fail.  So while there is something left to try, a beginning has failed and is remembered, or
no attempt on its way has been made.

## Main definitions

* `walk` — the attempts on the straight way from an element at an index.
* `pastSegments` — the elements after the first `**`.
* `Trace.Fresh`, `Trace.Closed` — a beginning that is remembered or whose way is new, and a trace
  for which all beginnings are like that.
* `Trace.Ready`, `Trace.Leads`, `Trace.Attempted` — what holds before an attempt, after one that
  failed, and after any.

## Main results

* `Restart.target_disjoint` — ways that begin at different places have no attempt in common.
* `attempted_searchTraced` — the search makes no attempt twice.
* `nodup_entered` — nor does any way to match a parsed pattern.
-/

namespace PathRouting

variable {e next : PatternElement} {es after later : List PatternElement} {index i j : Nat}
  {key : Nat × Nat} {t t' : Trace}

/-! ### Straight ways -/

/-- Whether the element matches any number of segments. -/
def ElementKind.isSegments : ElementKind → Bool
  | segments => true
  | _ => false

/-- The attempts on the straight way from an element at an index, down to the first `**`. -/
def walk : List PatternElement → Nat → List (Nat × Nat)
  | [], _ => []
  | e :: after, index =>
    (e.position, index) :: if e.kind.isSegments then [] else walk after (index + 1)

/-- The elements after the first `**`. -/
def pastSegments : List PatternElement → List PatternElement
  | [] => []
  | e :: after => if e.kind.isSegments then after else pastSegments after

/-- The places of elements. -/
def positions (es : List PatternElement) : List Nat := es.map (·.position)

theorem mem_walk_cons (h : e.kind.isSegments = false) :
    key ∈ walk (e :: after) index ↔ key = (e.position, index) ∨ key ∈ walk after (index + 1) := by
  rw [walk, h, if_neg (by simp), List.mem_cons]

theorem walk_segments (h : e.kind.isSegments = true) :
    walk (e :: after) index = [(e.position, index)] := by
  rw [walk, if_pos h]

theorem pastSegments_cons (h : e.kind.isSegments = false) :
    pastSegments (e :: after) = pastSegments after := by
  rw [pastSegments, if_neg (by simp [h])]

theorem pastSegments_segments (h : e.kind.isSegments = true) :
    pastSegments (e :: after) = after := by
  rw [pastSegments, if_pos h]

/-- A way leads through the elements only. -/
theorem mem_positions_of_walk (h : key ∈ walk es index) : key.1 ∈ positions es := by
  induction es generalizing index with
  | nil => simp [walk] at h
  | cons e after ih =>
    rw [walk, List.mem_cons] at h
    rcases h with rfl | h
    · exact List.mem_cons_self
    · split at h
      · simp at h
      · exact List.mem_cons_of_mem _ (ih h)

theorem pastSegments_suffix (es : List PatternElement) : pastSegments es <:+ es := by
  induction es with
  | nil => exact List.suffix_refl _
  | cons e after ih =>
    rw [pastSegments]
    split
    · exact List.suffix_cons e after
    · exact ih.trans (List.suffix_cons e after)

/-- Elements at different places. -/
def Apart (es : List PatternElement) : Prop := (positions es).Nodup

theorem Apart.tail (h : Apart (e :: after)) : Apart after := (List.nodup_cons.mp h).2

theorem Apart.notMem (h : Apart (e :: after)) : e.position ∉ positions after :=
  (List.nodup_cons.mp h).1

/-- **An attempt is on one straight way only.** -/
theorem walk_injective (hes : Apart es) (hi : key ∈ walk es i) (hj : key ∈ walk es j) : i = j := by
  induction es generalizing i j with
  | nil => simp [walk] at hi
  | cons e after ih =>
    by_cases h : e.kind.isSegments = true
    · rw [walk_segments h, List.mem_singleton] at hi hj
      exact congrArg Prod.snd (hi.symm.trans hj)
    rw [Bool.not_eq_true] at h
    rcases (mem_walk_cons h).mp hi with rfl | hi
    · rcases (mem_walk_cons h).mp hj with heq | hj
      · exact congrArg Prod.snd heq
      · exact absurd (mem_positions_of_walk hj) hes.notMem
    · rcases (mem_walk_cons h).mp hj with rfl | hj
      · exact absurd (mem_positions_of_walk hi) hes.notMem
      · exact Nat.succ.inj (ih hes.tail hi hj)

/-- A straight way ends at the first `**`. -/
theorem notMem_pastSegments_of_walk (hes : Apart es) (h : key ∈ walk es index) :
    key.1 ∉ positions (pastSegments es) := by
  induction es generalizing index with
  | nil => simp [walk] at h
  | cons e after ih =>
    have hsub : ∀ p ∈ positions (pastSegments after), p ∈ positions after :=
      fun p hp => ((pastSegments_suffix after).map _).subset hp
    by_cases hkind : e.kind.isSegments = true
    · rw [walk_segments hkind, List.mem_singleton] at h
      rw [pastSegments_segments hkind, h]
      exact hes.notMem
    rw [Bool.not_eq_true] at hkind
    rw [pastSegments_cons hkind]
    rcases (mem_walk_cons hkind).mp h with rfl | h
    · exact fun hmem => hes.notMem (hsub _ hmem)
    · exact ih hes.tail h

/-! ### Beginnings -/

namespace Restart

/-- What is tried at a place to restart at: elements from an index on. -/
def target (next : PatternElement) (later : List PatternElement) :
    Restart → List PatternElement × Nat
  | atIndex i => (next :: later, i)
  | pastSeparator => (later, 0)

/-- The separator after a `**` is left out only if it is one. -/
def Allowed (next : PatternElement) (r : Restart) : Prop :=
  r = pastSeparator → next.kind = .separator

variable {r r' : Restart}

theorem target_subset (next : PatternElement) (later : List PatternElement) (r : Restart) :
    (r.target next later).1 <:+ next :: later := by
  cases r with
  | atIndex i => exact List.suffix_refl _
  | pastSeparator => exact List.suffix_cons next later

theorem pastSegments_target (h : r.Allowed next) :
    pastSegments (r.target next later).1 = pastSegments (next :: later) := by
  cases r with
  | atIndex i => rfl
  | pastSeparator =>
    have hkind : next.kind.isSegments = false := by rw [h rfl]; rfl
    exact (pastSegments_cons hkind).symm

/-- **The ways from different places to restart at have no attempt in common.** -/
theorem target_disjoint (hes : Apart (next :: later)) (hr : r.Allowed next) (hr' : r'.Allowed next)
    (hne : r ≠ r') (h : key ∈ walk (r.target next later).1 (r.target next later).2) :
    key ∉ walk (r'.target next later).1 (r'.target next later).2 := by
  -- the way past the separator would have begun before the front of the path
  have hpast : ∀ {i}, next.kind = .separator → key ∈ walk (next :: later) i →
      key ∉ walk later 0 := by
    intro i hkind hi hlater
    have hseparator : next.kind.isSegments = false := by rw [hkind]; rfl
    rcases (mem_walk_cons hseparator).mp hi with rfl | hi
    · exact hes.notMem (mem_positions_of_walk hlater)
    · exact absurd (walk_injective hes.tail hlater hi) (Nat.succ_ne_zero i).symm
  intro h'
  rcases r with i | _ <;> rcases r' with j | _
  · exact hne (congrArg atIndex (walk_injective hes h h'))
  · exact hpast (hr' rfl) h h'
  · exact hpast (hr rfl) h' h
  · exact hne rfl

end Restart

namespace Trace

/-- Whether a beginning is known to fail, or no attempt on the way from it has been made. -/
def Fresh (t : Trace) (es : List PatternElement) (index : Nat) : Prop :=
  (∃ e ∈ es.head?, t.failed.contains (e.position, index) = true) ∨
    ∀ key ∈ walk es index, key ∉ t.entered

/-- Whether all beginnings after a `**` are fresh. -/
def Settled (t : Trace) (next : PatternElement) (later : List PatternElement) : Prop :=
  ∀ r : Restart, r.Allowed next → t.Fresh (r.target next later).1 (r.target next later).2

/-- Whether the beginnings after all `**` are fresh. -/
def Closed (t : Trace) : List PatternElement → Prop
  | [] => True
  | e :: after => (e.kind.isSegments = true → ∀ next later, after = next :: later →
      t.Settled next later) ∧ t.Closed after

/-- Whether a trace has all failures of another one. -/
def Knows (t' t : Trace) : Prop :=
  ∀ key, t.failed.contains key = true → t'.failed.contains key = true

theorem Fresh.mono (h : t.Fresh es index) (hknows : t'.Knows t)
    (hnew : ∀ key ∈ t'.entered, key ∈ t.entered ∨ key ∉ walk es index) : t'.Fresh es index := by
  rcases h with ⟨e, he, hfailed⟩ | h
  · exact .inl ⟨e, he, hknows _ hfailed⟩
  · exact .inr fun key hkey hmem => (hnew key hmem).elim (h key hkey) fun hnot => hnot hkey

/-- Attempts at other elements leave beginnings as they are. -/
theorem Settled.mono (h : t.Settled next later) (hknows : t'.Knows t)
    (hnew : ∀ key ∈ t'.entered, key ∈ t.entered ∨ key.1 ∉ positions (next :: later)) :
    t'.Settled next later := by
  intro r hr
  refine (h r hr).mono hknows fun key hkey => (hnew key hkey).imp_right fun hnot hwalk => hnot ?_
  exact ((Restart.target_subset next later r).map _).subset (mem_positions_of_walk hwalk)

theorem Closed.mono (h : t.Closed es) (hknows : t'.Knows t)
    (hnew : ∀ key ∈ t'.entered, key ∈ t.entered ∨ key.1 ∉ positions es) : t'.Closed es := by
  induction es with
  | nil => trivial
  | cons e after ih =>
    have hafter : ∀ key ∈ t'.entered, key ∈ t.entered ∨ key.1 ∉ positions after :=
      fun key hkey => (hnew key hkey).imp_right fun hnot hmem => hnot (List.mem_cons_of_mem _ hmem)
    refine ⟨fun hkind next later heq => ?_, ih h.2 hafter⟩
    subst heq
    exact (h.1 hkind next later rfl).mono hknows hafter

/-! ### Before and after an attempt -/

/-- What holds before an attempt at elements from an index on. -/
structure Ready (t : Trace) (es : List PatternElement) (index : Nat) : Prop where
  /-- No attempt has been made twice. -/
  nodup : t.entered.Nodup
  /-- None of those on the way has been made. -/
  unentered : ∀ key ∈ walk es index, key ∉ t.entered
  /-- The beginnings after every `**` are fresh. -/
  closed : t.Closed es

/-- What holds after an attempt that failed. -/
structure Leads (t t' : Trace) (es : List PatternElement) (index : Nat) : Prop where
  /-- No failure is forgotten. -/
  knows : t'.Knows t
  /-- Attempts have been made on the way and past the first `**` only. -/
  new : ∀ key ∈ t'.entered,
    key ∈ t.entered ∨ key ∈ walk es index ∨ key.1 ∈ positions (pastSegments es)
  /-- The beginnings after every `**` are fresh. -/
  closed : t'.Closed es

/-- What an attempt comes to. -/
structure Attempted (t : Trace) (es : List PatternElement) (index : Nat)
    (result : Option Outcome × Trace) : Prop where
  /-- No attempt has been made twice. -/
  nodup : result.2.entered.Nodup
  /-- After a failure the search may go on. -/
  leads : result.1 = none → t.Leads result.2 es index

theorem Ready.nodup_enter (h : t.Ready (e :: after) index) : (t.enter e index).entered.Nodup := by
  have hhead : (e.position, index) ∈ walk (e :: after) index := by
    rw [walk]
    exact List.mem_cons_self
  exact List.nodup_cons.mpr ⟨h.unentered _ hhead, h.nodup⟩

theorem mem_enter : key ∈ (t.enter e index).entered ↔ key = (e.position, index) ∨ key ∈ t.entered :=
  List.mem_cons

/-- An attempt at an element is none at those after it. -/
theorem mem_enter_apart (hes : Apart (e :: after)) :
    ∀ key ∈ (t.enter e index).entered, key ∈ t.entered ∨ key.1 ∉ positions after := by
  intro key hkey
  rcases mem_enter.mp hkey with rfl | hkey
  · exact .inr hes.notMem
  · exact .inl hkey

theorem Closed.enter (hes : Apart (e :: after)) (h : t.Closed (e :: after)) :
    (t.enter e index).Closed (e :: after) := by
  have hknows : (t.enter e index).Knows t := fun _ hfailed => hfailed
  refine ⟨fun hkind next later heq => ?_, h.2.mono hknows (mem_enter_apart hes)⟩
  subst heq
  exact (h.1 hkind next later rfl).mono hknows (mem_enter_apart hes)

/-- An attempt that fails at once. -/
theorem Ready.leads_enter (hes : Apart (e :: after)) (h : t.Ready (e :: after) index) :
    t.Leads (t.enter e index) (e :: after) index := by
  refine ⟨fun _ hfailed => hfailed, fun key hkey => ?_, h.closed.enter hes⟩
  rcases mem_enter.mp hkey with rfl | hkey
  · exact .inr (.inl (by rw [walk]; exact List.mem_cons_self))
  · exact .inl hkey

/-- The attempt at the next element on the way. -/
theorem Ready.onward (hes : Apart (e :: after)) (hkind : e.kind.isSegments = false)
    (h : t.Ready (e :: after) index) : (t.enter e index).Ready after (index + 1) := by
  refine ⟨h.nodup_enter, fun key hkey hmem => ?_, (h.closed.enter hes).2⟩
  rcases mem_enter.mp hmem with rfl | hmem
  · exact hes.notMem (mem_positions_of_walk hkey)
  · exact h.unentered key ((mem_walk_cons hkind).mpr (.inr hkey)) hmem

/-- After a failure farther on the way. -/
theorem Leads.back (hkind : e.kind.isSegments = false)
    (h : (t.enter e index).Leads t' after (index + 1)) : t.Leads t' (e :: after) index := by
  refine ⟨fun key hfailed => h.knows key hfailed, fun key hkey => ?_, ?_, h.closed⟩
  · rw [pastSegments_cons hkind, mem_walk_cons hkind]
    rcases h.new key hkey with hkey | hkey | hkey
    · exact (mem_enter.mp hkey).elim (fun heq => .inr (.inl (.inl heq))) .inl
    · exact .inr (.inl (.inr hkey))
    · exact .inr (.inr hkey)
  · intro hsegments
    simp [hkind] at hsegments

variable {found : Option Outcome} {result : Option Outcome × Trace}

/-- An attempt that goes no farther. -/
theorem Ready.stop (hes : Apart (e :: after)) (h : t.Ready (e :: after) index) :
    t.Attempted (e :: after) index (found, t.enter e index) :=
  ⟨h.nodup_enter, fun _ => h.leads_enter hes⟩

/-- An attempt that comes to what the one at the next element comes to. -/
theorem Attempted.back (hkind : e.kind.isSegments = false)
    (h : (t.enter e index).Attempted after (index + 1) result) (f : Outcome → Outcome) :
    t.Attempted (e :: after) index (result.1.map f, result.2) :=
  ⟨h.nodup, fun hnone => (h.leads (Option.map_eq_none_iff.mp hnone)).back hkind⟩

/-! ### Trying the elements after a `**` -/

/-- What holds while the elements after a `**` are tried, since the attempt at the `**`. -/
structure Trying (t t' : Trace) (next : PatternElement) (later : List PatternElement) :
    Prop where
  /-- No attempt has been made twice. -/
  nodup : t'.entered.Nodup
  /-- No failure is forgotten. -/
  knows : t'.Knows t
  /-- Attempts have been made at the elements after the `**` only. -/
  new : ∀ key ∈ t'.entered, key ∈ t.entered ∨ key.1 ∈ positions (next :: later)
  /-- The beginnings after the `**` are fresh. -/
  settled : t'.Settled next later
  /-- The beginnings after every later `**` are fresh. -/
  closed : t'.Closed (next :: later)

theorem knows_remember : (t.remember key).Knows t := by
  intro key' hfailed
  rw [remember, Std.HashSet.contains_insert, hfailed, Bool.or_true]

/-- The beginnings after every later `**` are those of the elements that are tried. -/
theorem closed_target {r : Restart} (hr : r.Allowed next) :
    t.Closed (r.target next later).1 ↔ t.Closed (next :: later) := by
  cases r with
  | atIndex i => exact Iff.rfl
  | pastSeparator =>
    refine (and_iff_right fun hsegments => ?_).symm
    rw [hr rfl] at hsegments
    simp [ElementKind.isSegments] at hsegments

variable {t₀ : Trace} {r : Restart}

/-- Before the elements are tried at a place where they are not known to fail. -/
theorem Trying.ready (h : t₀.Trying t next later) (hr : r.Allowed next) {d : PatternElement}
    {ds : List PatternElement} (htarget : r.target next later = (d :: ds, index))
    (hfailed : ¬t.failed.contains (d.position, index) = true) : t.Ready (d :: ds) index := by
  have hfresh := h.settled r hr
  have hclosed := (closed_target hr).mpr h.closed
  rw [htarget] at hfresh hclosed
  refine ⟨h.nodup, hfresh.resolve_left ?_, hclosed⟩
  rintro ⟨e, he, hknown⟩
  obtain rfl : d = e := Option.some.inj he
  exact hfailed hknown

/-- After they have failed there, and the failure is remembered. -/
theorem Trying.remember (hes : Apart (next :: later)) (h : t₀.Trying t next later)
    (hr : r.Allowed next) {d : PatternElement} {ds : List PatternElement}
    (htarget : r.target next later = (d :: ds, index)) (hnodup : t'.entered.Nodup)
    (hleads : t.Leads t' (d :: ds) index) :
    t₀.Trying (t'.remember (d.position, index)) next later := by
  have hpast : pastSegments (r.target next later).1 = pastSegments (next :: later) :=
    Restart.pastSegments_target hr
  have hclosed : t'.Closed (r.target next later).1 ↔ t'.Closed (next :: later) := closed_target hr
  have hsub := ((Restart.target_subset next later r).map (·.position)).subset
  rw [htarget] at hpast hclosed hsub
  have hnew := hleads.new
  rw [hpast] at hnew
  have hknows : (t'.remember (d.position, index)).Knows t :=
    fun key hfailed => knows_remember key (hleads.knows key hfailed)
  refine ⟨hnodup, fun key hfailed => hknows key (h.knows key hfailed), fun key hkey => ?_,
    fun r' hr' => ?_, (hclosed.mp hleads.closed).mono knows_remember fun _ hkey => .inl hkey⟩
  · rcases hnew key hkey with hkey | hkey | hkey
    · exact h.new key hkey
    · exact .inr (hsub (mem_positions_of_walk hkey))
    · exact .inr (((pastSegments_suffix (next :: later)).map _).subset hkey)
  · by_cases heq : r' = r
    · subst heq
      rw [htarget]
      refine .inl ⟨d, rfl, ?_⟩
      rw [Trace.remember, Std.HashSet.contains_insert, beq_self_eq_true, Bool.true_or]
    -- the attempts made are on another way, or past the `**` at its end
    · refine (h.settled r' hr').mono hknows fun key hkey => ?_
      rcases hnew key hkey with hkey | hkey | hkey
      · exact .inl hkey
      · refine .inr (Restart.target_disjoint hes hr hr' (Ne.symm heq) ?_)
        rw [htarget]
        exact hkey
      · refine .inr fun hwalk => ?_
        have hapart : Apart (r'.target next later).1 :=
          hes.sublist ((Restart.target_subset next later r').map _).sublist
        refine notMem_pastSegments_of_walk hapart hwalk ?_
        rwa [Restart.pastSegments_target hr']

/-- The elements after a `**` tried at one of the places to restart at. -/
theorem Trying.step {q : Query} (hes : Apart (next :: later)) (hr : r.Allowed next)
    (hattempt : ∀ t : Trace, t.Ready (r.target next later).1 (r.target next later).2 →
      t.Attempted (r.target next later).1 (r.target next later).2
        (searchTraced q (r.target next later).1 (r.target next later).2 false t))
    (h : t₀.Trying t next later) :
    (attemptTraced q next later r t).2.entered.Nodup ∧
      ((attemptTraced q next later r t).1 = none →
        t₀.Trying (attemptTraced q next later r t).2 next later) := by
  have hguarded : attemptTraced q next later r t = guardedAt (r.target next later).1
      (r.target next later).2
      (searchTraced q (r.target next later).1 (r.target next later).2 false) t := by
    cases r <;> rfl
  rw [hguarded]
  obtain ⟨⟨ds, index⟩, htarget⟩ : ∃ target, r.target next later = target := ⟨_, rfl⟩
  rw [htarget] at hattempt ⊢
  rcases ds with _ | ⟨d, ds⟩
  -- the end of a pattern is no element
  · exact ⟨h.nodup, fun _ => h⟩
  · rw [guardedAt, guarded]
    split
    · exact ⟨h.nodup, fun _ => h⟩
    · next hfailed =>
      have hresult := hattempt t (h.ready hr htarget hfailed)
      rcases hfound : searchTraced q (d :: ds) index false t with ⟨_ | o, t'⟩
      · rw [hfound] at hresult
        exact ⟨hresult.nodup,
          fun _ => h.remember hes hr htarget hresult.nodup (hresult.leads rfl)⟩
      · rw [hfound] at hresult
        exact ⟨hresult.nodup, fun hnone => by simp at hnone⟩

/-- Before any of the elements after a `**` is tried. -/
theorem Ready.trying (hes : Apart (e :: next :: later)) (hkind : e.kind.isSegments = true)
    (h : t.Ready (e :: next :: later) index) :
    (t.enter e index).Trying (t.enter e index) next later :=
  ⟨h.nodup_enter, fun _ hfailed => hfailed, fun _ hkey => .inl hkey,
    (h.closed.enter hes).1 hkind next later rfl, (h.closed.enter hes).2⟩

/-- After all of them have failed, and the failure of the `**` is remembered. -/
theorem Trying.leads (hkind : e.kind.isSegments = true)
    (h : (t.enter e index).Trying t' next later) :
    t.Leads (t'.remember key) (e :: next :: later) index := by
  refine ⟨fun key hfailed => knows_remember key (h.knows key hfailed), fun key hkey => ?_,
    fun _ next' later' heq => ?_, h.closed.mono knows_remember fun _ hkey => .inl hkey⟩
  · rw [pastSegments_segments hkind, walk_segments hkind, List.mem_singleton]
    rcases h.new key hkey with hkey | hkey
    · exact (mem_enter.mp hkey).elim (fun heq => .inr (.inl heq)) .inl
    · exact .inr (.inr hkey)
  · obtain ⟨rfl, rfl⟩ := List.cons.inj heq
    exact h.settled.mono knows_remember fun _ hkey => .inl hkey

end Trace

/-! ### The search -/

theorem ElementKind.isSegments_of_takes {k : ElementKind} (h : k.takes = true) :
    k.isSegments = false := by
  cases k <;> first | rfl | simp [takes] at h

/-- **The search makes no attempt twice.**  From a trace that is ready for it no attempt is made
twice, and if it fails the beginnings that are left are fresh. -/
theorem attempted_searchTraced {q : Query} (hes : Apart es) (afterSegment : Bool)
    (h : t.Ready es index) :
    t.Attempted es index (searchTraced q es index afterSegment t) := by
  induction es using search_induction generalizing index afterSegment t with
  | nil =>
    rw [searchTraced_nil]
    exact ⟨h.nodup, fun _ => ⟨fun _ hfailed => hfailed, fun _ hkey => .inl hkey, h.closed⟩⟩
  | separator e after hkind ih =>
    have hstraight : e.kind.isSegments = false := by rw [hkind]; rfl
    rw [searchTraced_separator hkind]
    split
    · simpa using (ih hes.tail false (h.onward hes hstraight)).back hstraight id
    · exact h.stop hes
  | wildcard e after hkind ih =>
    have hstraight : e.kind.isSegments = false := by rw [hkind]; rfl
    rw [searchTraced_wildcard hkind]
    split
    · split
      · exact h.stop hes
      · simpa using (ih hes.tail true (h.onward hes hstraight)).back hstraight id
    · exact h.stop hes
  | lastSegments e hkind =>
    rw [searchTraced_lastSegments hkind]
    exact h.stop hes
  | segments e next later hkind ihnext ihlater =>
    have hsegments : e.kind.isSegments = true := by rw [hkind]; rfl
    rw [searchTraced_segments hkind, Trace.guarded]
    split
    · exact h.stop hes
    -- every failure leaves the beginnings fresh for the places that are still to be tried
    · have hstep : ∀ r ∈ restarts q index next, ∀ t', (t.enter e index).Trying t' next later →
          (attemptTraced q next later r t').2.entered.Nodup ∧
            ((attemptTraced q next later r t').1 = none →
              (t.enter e index).Trying (attemptTraced q next later r t').2 next later) := by
        intro r hr t' htrying
        have hallowed : r.Allowed next := by
          rintro rfl
          obtain ⟨-, hseparator⟩ : index = 0 ∧ next.kind = .separator := by
            simpa using mem_restarts.mp hr
          exact hseparator
        refine htrying.step hes.tail hallowed fun t' hready => ?_
        cases r with
        | atIndex i => exact ihnext hes.tail false hready
        | pastSeparator => exact ihlater hes.tail.tail false hready
      obtain ⟨hnodup, htrying⟩ := firstWay_keeps (fun t' => (t.enter e index).Trying t' next later)
        (fun t' => t'.entered.Nodup) hstep (fun _ htrying => htrying.nodup) (h.trying hes hsegments)
      rcases hfound : firstWay (attemptTraced q next later) (restarts q index next)
        (t.enter e index) with ⟨_ | o, t'⟩
      · rw [hfound] at hnodup htrying
        exact ⟨hnodup, fun _ => (htrying rfl).leads hsegments⟩
      · rw [hfound] at hnodup
        exact ⟨hnodup, fun hnone => by simp at hnone⟩
  | catchAll e after hkind =>
    rw [searchTraced_catchAll hkind]
    exact h.stop hes
  | takes e after hkind ih =>
    have hstraight := ElementKind.isSegments_of_takes hkind
    rw [searchTraced_takes hkind]
    split
    · exact (ih hes.tail true (h.onward hes hstraight)).back hstraight _
    · exact h.stop hes

/-- Nothing has been tried yet. -/
theorem ready_empty (es : List PatternElement) (index : Nat) : Trace.empty.Ready es index := by
  have hclosed : Trace.empty.Closed es := by
    induction es with
    | nil => trivial
    | cons e after ih => exact ⟨fun _ _ _ _ _ _ => .inr fun _ _ => List.not_mem_nil, ih⟩
  exact ⟨List.nodup_nil, fun _ _ => List.not_mem_nil, hclosed⟩

/-! ### Patterns -/

section Patterns

variable {o : PatternOptions} {text : List Char} {p : Pattern}

/-- The elements of a parsed pattern stand at different places. -/
theorem apart_of_parse (h : Pattern.parse o text = .ok p) : Apart p.elements := by
  rw [Apart, positions, List.nodup_iff_pairwise_ne, List.pairwise_map]
  exact (pairwise_position_of_parse h).imp Nat.ne_of_lt

theorem nodup_runTraced (h : Pattern.parse o text = .ok p) (path : Path) (extract ofStart : Bool) :
    (p.runTraced path extract ofStart).2.Nodup :=
  (attempted_searchTraced (apart_of_parse h) false (ready_empty p.elements 0)).nodup

/-- **No attempt is made twice.**  Whether it is asked if a path matches, what it records or what
the start of it records: the elements of a parsed pattern stand at different places, and no element
is tried twice at the same index of the path. -/
theorem nodup_entered (h : Pattern.parse o text = .ok p) (path : Path) :
    (p.elements.map (·.position)).Nodup ∧
    ((p.matchWithTraced path false).1.isSome = p.isMatch path ∧
      (p.matchWithTraced path false).2.Nodup) ∧
    ((p.matchWithTraced path true).1 = p.match? path ∧
      (p.matchWithTraced path true).2.Nodup) ∧
    ((p.matchStartTraced path).1 = p.matchStart? path ∧ (p.matchStartTraced path).2.Nodup) := by
  have hnodup : ∀ extract, (p.matchWithTraced path extract).2.Nodup := fun extract =>
    (nodup_runTraced h path extract false).sublist (p.matchWithTraced_snd path extract)
  refine ⟨apart_of_parse h, ⟨?_, hnodup false⟩, ⟨p.matchWithTraced_fst path true, hnodup true⟩,
    p.matchStartTraced_fst path,
    (nodup_runTraced h path true true).sublist (p.matchStartTraced_snd path)⟩
  rw [p.matchWithTraced_fst path false]
  rfl

/-- Two `**` in one pattern, the second of which is tried from several places of `/a/a/b`. -/
theorem nodup_entered_twoSegments : ∃ p path,
    Pattern.parse .default ['/', '*', '*', '/', 'a', '/', '*', '*', '/', 'c'] = .ok p ∧
    Path.parse ['/', 'a', '/', 'a', '/', 'b'] .http = .ok path ∧
    (p.matchWithTraced path false).2.Nodup ∧ (p.matchStartTraced path).2.Nodup := by
  have h : Pattern.parse .default ['/', '*', '*', '/', 'a', '/', '*', '*', '/', 'c'] = .ok _ := rfl
  have hpath : Path.parse ['/', 'a', '/', 'a', '/', 'b'] .http = .ok _ := rfl
  exact ⟨_, _, h, hpath, (nodup_entered h _).2.1.2, (nodup_entered h _).2.2.2.2⟩

end Patterns

end PathRouting
