import PathRouting.Pattern.Specificity

/-!
# The order of patterns

Patterns are compared by four numbers in turn, so the order is a total preorder: patterns that are
equally specific need not be the same.

## Main results

* `specificity_eq_compareLex` — the order as a lexicographic one.
* `Pattern.specificity` is a lawful comparison (`Std.TransCmp`).
-/

namespace PathRouting

namespace Pattern

/-- The order compares by catching all, by length among patterns that do, by score, and by
length. -/
theorem specificity_eq_compareLex : specificity
    = compareLex (compareLex (compareLex (compareOn isCatchAll)
        (fun p q => compareOn catchAllWeight q p)) (compareOn score))
        (fun p q => compareOn weight q p) := rfl

instance : Std.TransCmp specificity := by
  rw [specificity_eq_compareLex]
  infer_instance

/-- The more specific pattern or one of two equally specific ones. -/
def noLess (p q : Pattern) : Bool := (p.specificity q).isLE

theorem noLess_trans (p q r : Pattern) (hpq : p.noLess q = true) (hqr : q.noLess r = true) :
    p.noLess r = true :=
  Std.TransCmp.isLE_trans hpq hqr

theorem noLess_total (p q : Pattern) : (p.noLess q || q.noLess p) = true := by
  have hswap : q.specificity p = (p.specificity q).swap := Std.OrientedCmp.eq_swap
  rw [noLess, noLess, hswap]
  cases p.specificity q <;> rfl

end Pattern

end PathRouting
