import PathRouting.Config
import PathRouting.Proofs.Percent

/-!
# Acceptable separators

A separator that passes the check of the settings has no meaning in patterns nor in paths, and is
no part of a name or of an escape.

## Main results

* `separator_ne` — an acceptable separator opens nothing, closes nothing and is no `*`.
* `isAlphanumeric_separator` — nor is it a letter or a numeral.
* `separator_ne_percent`, `isHexDigit_separator` — escapes are written without it.
-/

namespace PathRouting

open Text

variable {o : PatternOptions}

/-- An acceptable separator has no fault. -/
theorem separatorFault?_eq_none (h : o.validate = .ok o) : separatorFault? o.separator = none := by
  unfold PatternOptions.validate at h
  split at h
  · simp at h
  · assumption

/-- An acceptable separator has no meaning of its own. -/
theorem notMem_reservedChars (h : o.validate = .ok o) : o.separator ∉ reservedChars := by
  intro hmem
  have hfault : separatorFault? o.separator = some (.reservedSeparator o.separator) :=
    if_pos (by simpa using hmem)
  rw [separatorFault?_eq_none h] at hfault
  simp at hfault

theorem separator_ne (h : o.validate = .ok o) :
    o.separator ≠ '{' ∧ o.separator ≠ '}' ∧ o.separator ≠ '*' := by
  have hnot := notMem_reservedChars h
  simp only [reservedChars, List.mem_cons, not_or] at hnot
  exact ⟨hnot.1, hnot.2.1, hnot.2.2.1⟩

/-- An acceptable separator is neither a letter nor a numeral. -/
theorem isAlphanumeric_separator (h : o.validate = .ok o) : isAlphanumeric o.separator = false := by
  have hfault := separatorFault?_eq_none h
  unfold separatorFault? at hfault
  split at hfault
  · simp at hfault
  split at hfault
  · simp at hfault
  · next halpha =>
    simp only [Bool.or_eq_true, not_or, Bool.not_eq_true] at halpha
    exact halpha.2

/-- An acceptable separator opens no escape. -/
theorem separator_ne_percent (h : o.validate = .ok o) : o.separator ≠ '%' := by
  intro heq
  exact notMem_reservedChars h (by rw [heq]; decide)

/-- An acceptable separator is no digit of an escape. -/
theorem isHexDigit_separator (h : o.validate = .ok o) : isHexDigit o.separator = false := by
  rw [← Bool.not_eq_true]
  intro hdigit
  have halpha := isAlphanumeric_separator h
  rw [Percent.isAlphanumeric_of_isHexDigit hdigit] at halpha
  simp at halpha

end PathRouting
