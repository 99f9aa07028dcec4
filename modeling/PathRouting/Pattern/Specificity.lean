import PathRouting.Pattern.Basic

/-!
# Which pattern is more specific

Patterns that match whatever is left come last, the longer ones among them first.  Among the
others, and among equals, the lower score comes first and then the greater length.

## Main definitions

* `Pattern.specificity` — the order of two patterns, `.lt` if the first is more specific.
-/

namespace PathRouting

namespace Pattern

/-- The length as far as it counts among patterns that match whatever is left. -/
def catchAllWeight (p : Pattern) : Nat := if p.isCatchAll then p.weight else 0

/-- The order of two patterns; the more specific one is the lesser one. -/
def specificity (p q : Pattern) : Ordering :=
  (compare p.isCatchAll q.isCatchAll)
    |>.then (compare q.catchAllWeight p.catchAllWeight)
    |>.then (compare p.score q.score)
    |>.then (compare q.weight p.weight)

end Pattern

end PathRouting
