import PathRouting.Pattern.Match

/-!
# The part of a path that a pattern leaves open

What a path holds beyond the literal start of a pattern, without separators at its ends and with
single separators in between.

## Main definitions

* `collapse` — a row of elements with every run of separators reduced to one.
* `Pattern.within` — the part of a path from the first element that is not literal.
-/

namespace PathRouting

/-- Whether two separators stand next to each other. -/
def hasAdjacentSeparators : List PathElement → Bool
  | a :: b :: rest =>
    (a.isSeparator && b.isSeparator) || hasAdjacentSeparators (b :: rest)
  | _ => false

/-- The elements without separators that follow a separator; `afterSeparator` if one precedes. -/
def collapse (afterSeparator : Bool) : List PathElement → List PathElement
  | [] => []
  | e :: rest =>
    if e.isSeparator && afterSeparator then collapse true rest
    else e :: collapse e.isSeparator rest

/-- The part of a path from the first element on that the pattern does not match literally.  It is
a part of the path itself unless separators had to be left out inside. -/
def Pattern.within (p : Pattern) (path : Path) : Except Percent.Fault Path :=
  let nothing := Path.empty path.options (path.generation + 1)
  if p.kinds.all (·.isLiteral) then .ok nothing
  else
    let literals := (p.kinds.takeWhile (·.isLiteral)).length
    let tail := path.elements.drop literals
    let leading := (tail.takeWhile (·.isSeparator)).length
    let start := Nat.min literals path.length + leading
    let trailing := ((tail.drop leading).reverse.takeWhile (·.isSeparator)).length
    let stop := path.length - trailing
    if stop ≤ start then .ok nothing
    else
      let window := (path.elements.take stop).drop start
      if hasAdjacentSeparators window then
        (Path.parse ((collapse false window).flatMap PathElement.raw) path.options).map fun made =>
          { made with generation := path.generation + 1 }
      else .ok (path.cut start stop)

end PathRouting
