import PathRouting.Proofs.Regex.Room

/-!
# The most room an expression takes

What the memory of a growth gives back saves room, so without it a growth takes the most.  When that
much is left, the growth succeeds.

## Main definitions

* `ByteTree.width`, `ByteTree.most` — the ways on from the start of a tree, and the room for what they
  lead to.
* `Growth.most` — a number of bytes that a growth takes at most.

## Main results

* `Growth.exists_run?` — a growth for which there is enough room succeeds.
* `Expr.fits_of_most` — an expression for which there is enough room fits.
-/

namespace PathRouting.Regex

/-! ### Trees -/

namespace ByteTree

/-- The number of ways on from the start of a tree. -/
def width : ByteTree → Nat
  | way _ _ more => more.width + 1
  | _ => 0

/-- The bytes for the states that the ways on from the start of a tree lead to. -/
def most : ByteTree → Nat
  | way _ child more =>
    (match child with
      | .accept => 0
      | child => child.most + (32 + 8 * child.width)) + more.most
  | _ => 0

end ByteTree

namespace Draft

theorem bytes_state_le (d : Draft) (slots : Nat) (key : List UInt64) (extra : Nat) :
    (d.state slots key extra).2.footprint.bytes ≤ d.footprint.bytes + (32 + extra) := by
  have hmade : (d.footprint.plus ⟨1, extra⟩).bytes = d.footprint.bytes + (32 + extra) :=
    Footprint.bytes_plus _ _
  unfold state
  dsimp only
  split
  · split
    · exact Nat.le_add_right _ _
    · exact Nat.le_of_eq hmade
  · exact Nat.le_of_eq hmade

theorem count_ways (final : Nat) (t : ByteTree) (d : Draft) :
    (ways final t d).1.2 = t.width := by
  induction t generalizing d with
  | accept => rfl
  | done => rfl
  | way range child more _ ihmore =>
    by_cases hchild : child = .accept
    · subst hchild
      rw [ByteTree.width, ← ihmore d]
      rfl
    · rw [ways, ByteTree.width, ← ihmore]
      exact hchild

theorem bytes_ways_le (final : Nat) (t : ByteTree) (d : Draft) :
    (ways final t d).2.footprint.bytes ≤ d.footprint.bytes + t.most := by
  induction t generalizing d with
  | accept => exact Nat.le_refl _
  | done => exact Nat.le_refl _
  | way range child more ihchild ihmore =>
    by_cases hchild : child = .accept
    · subst hchild
      have hmore := ihmore d
      rw [ByteTree.most, Nat.zero_add]
      exact hmore
    · have hinner := ihchild d
      have hstart := bytes_state_le (ways final child d).2 treeSlots (ways final child d).1.1
        (8 * (ways final child d).1.2)
      rw [count_ways] at hstart
      have hmore := ihmore ((ways final child d).2.startOf (ways final child d).1).2
      rw [startOf, count_ways] at hmore
      rw [ways, ByteTree.most]
      · show (ways final more _).2.footprint.bytes ≤ _
        rw [startOf, count_ways]
        omega
      · exact hchild
      · exact hchild

theorem bytes_backRow_le (next : Nat) (row : ByteRow) (d : Draft) :
    (d.backRow next row).footprint.bytes ≤ d.footprint.bytes + 32 * row.length := by
  induction row generalizing next d with
  | nil => exact Nat.le_refl _
  | cons range row ih =>
    have hfirst : (d.backState next range).2.footprint.bytes ≤ d.footprint.bytes + 32 :=
      d.bytes_state_le _ _ 0
    have hrest := ih (d.backState next range).1 (d.backState next range).2
    rw [backRow_cons, List.length_cons]
    omega

theorem bytes_backRows_le (final : Nat) (rows : List ByteRow) (d : Draft) :
    (rows.foldl (fun d row => d.backRow final row) d).footprint.bytes
      ≤ d.footprint.bytes + 32 * rows.flatten.length := by
  induction rows generalizing d with
  | nil => exact Nat.le_refl _
  | cons row rows ih =>
    have hfirst := bytes_backRow_le final row d
    have hrest := ih (d.backRow final row)
    rw [List.foldl_cons, List.flatten_cons, List.length_append]
    omega

end Draft

/-! ### Growths -/

namespace Growth

/-- A number of bytes that a growth takes at most: all states of a set are counted. -/
def most : Growth → Nat
  | fixed size => size.bytes
  | tree t => 32 + t.most + (32 + 8 * t.width)
  | rows bytes => 64 + 4 * bytes.length + 32 * bytes.flatten.length
  | both a b => a.most + b.most
  | times n body => n * body.most

theorem within?_of_le {f : Footprint} (h : f.bytes ≤ Footprint.limit) : f.within? = some f :=
  if_pos h

/-- **A growth for which there is enough room succeeds.** -/
theorem exists_run? {growth : Growth} {f : Footprint}
    (h : f.bytes + growth.most ≤ Footprint.limit) :
    ∃ g, growth.run? f = some g ∧ g.bytes ≤ f.bytes + growth.most := by
  induction growth generalizing f with
  | fixed size =>
    have hbytes := Footprint.bytes_plus f size
    rw [most] at h ⊢
    exact ⟨f.plus size, within?_of_le (by omega), Nat.le_of_eq hbytes⟩
  | tree t =>
    let begun : Draft := ⟨f.plus ⟨1, 0⟩, .empty⟩
    let inner := Draft.ways f.states t begun
    have hbegun : begun.footprint.bytes = f.bytes + 32 := Footprint.bytes_plus f ⟨1, 0⟩
    have hinner : inner.2.footprint.bytes ≤ begun.footprint.bytes + t.most :=
      Draft.bytes_ways_le _ _ _
    have hstart : (inner.2.startOf inner.1).2.footprint.bytes
        ≤ inner.2.footprint.bytes + (32 + 8 * t.width) := by
      rw [← Draft.count_ways f.states t begun]
      exact Draft.bytes_state_le _ _ _ _
    have hle : (inner.2.startOf inner.1).2.footprint.bytes ≤ f.bytes + (tree t).most := by
      rw [most]
      omega
    exact ⟨_, within?_of_le (Nat.le_trans hle h), hle⟩
  | rows bytes =>
    let begun : Draft := ⟨f.plus ⟨2, 4 * bytes.length⟩, .empty⟩
    have hbegun : begun.footprint.bytes = f.bytes + (64 + 4 * bytes.length) :=
      Footprint.bytes_plus f _
    have hmade := Draft.bytes_backRows_le (f.states + 1) bytes begun
    have hle : (bytes.foldl (fun d row => d.backRow (f.states + 1) row) begun).footprint.bytes
        ≤ f.bytes + (rows bytes).most := by
      rw [most]
      omega
    exact ⟨_, within?_of_le (Nat.le_trans hle h), hle⟩
  | both a b iha ihb =>
    rw [most] at h ⊢
    obtain ⟨g, ha, hg⟩ := iha (f := f) (by omega)
    obtain ⟨g', hb, hg'⟩ := ihb (f := g) (by omega)
    exact ⟨g', by rw [run?_both, ha]; exact hb, by omega⟩
  | times n body ih =>
    rw [most] at h ⊢
    show ∃ g, repeatStep body.run? n f = some g ∧ _
    induction n generalizing f with
    | zero => exact ⟨f, rfl, by omega⟩
    | succ n ihn =>
      rw [Nat.succ_mul] at h ⊢
      obtain ⟨g, hbody, hg⟩ := ih (f := f) (by omega)
      obtain ⟨g', hrest, hg'⟩ := ihn (f := g) (by omega)
      exact ⟨g', by rw [repeatStep, hbody]; exact hrest, by omega⟩

end Growth

/-- **An expression that takes at most as much as there is room for fits.** -/
theorem Expr.fits_of_most {e : Expr} (h : ∀ d, (e.automaton d).most ≤ Footprint.limit) :
    e.fits = true := by
  have hrun (d : Direction) : ((e.automaton d).run? ⟨0, 0⟩).isSome = true := by
    obtain ⟨g, hg, -⟩ := Growth.exists_run? (f := ⟨0, 0⟩) (by simpa [Footprint.bytes] using h d)
    rw [hg]
    rfl
  rw [Expr.fits, hrun, hrun]
  rfl

end PathRouting.Regex
