import PathRouting.Path.Basic
import PathRouting.Proofs.Fallible

/-!
# Parts of a path

## Main results

* `subPath_ok`, `exists_subPath` — which parts a path has, and their elements.
* `subPath_error` — which parts a path does not have.
-/

namespace PathRouting

namespace Path

variable {p part : Path} {start stop : Nat}

/-- A part has the elements between its indices and the options of the path. -/
theorem subPath_ok (h : p.subPath start stop = .ok part) :
    start ≤ stop ∧ stop ≤ p.length ∧ part.elements = (p.elements.take stop).drop start ∧
      part.options = p.options := by
  unfold subPath at h
  split at h
  · next hwhole =>
    obtain rfl := Except.ok.inj h
    obtain ⟨rfl, rfl⟩ := hwhole
    exact ⟨Nat.zero_le _, Nat.le_refl _, by simp [length], rfl⟩
  · split at h
    · simp at h
    · next hrange =>
      split at h
      · next heq =>
        obtain rfl := Except.ok.inj h
        subst heq
        exact ⟨Nat.le_refl _, by omega, by simp, rfl⟩
      · obtain rfl := Except.ok.inj h
        exact ⟨by omega, by omega, elements_cut start (by omega), rfl⟩

/-- A part has as many elements as there are indices. -/
theorem length_subPath (h : p.subPath start stop = .ok part) : part.length = stop - start := by
  obtain ⟨-, hstop, helements, -⟩ := subPath_ok h
  rw [length, helements, length_slice _ hstop]

/-- Between any two indices in order there is a part. -/
theorem exists_subPath (h : start ≤ stop) (hstop : stop ≤ p.length) :
    ∃ part, p.subPath start stop = .ok part := by
  unfold subPath
  split
  · exact ⟨p, rfl⟩
  · rw [if_neg (by omega)]
    split
    · exact ⟨_, rfl⟩
    · exact ⟨_, rfl⟩

/-- A path is asked for a part in vain just when the indices are out of order or too large. -/
theorem subPath_error (p : Path) (start stop : Nat) :
    p.subPath start stop = .error ⟨start, stop, p.length⟩ ↔ stop < start ∨ p.length < stop := by
  unfold subPath
  split
  · next hwhole =>
    simp only [reduceCtorEq, false_iff]
    omega
  · split
    · next hrange => simpa using hrange
    · next hrange => split <;> simpa using hrange

end Path

end PathRouting
