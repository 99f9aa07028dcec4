import PathRouting.Error
import PathRouting.Pattern.Match
import PathRouting.Text.Split

/-!
# Combining patterns

A pattern for a group of routes and a pattern for one of them are combined into one, as in
`/hotels` and `/bookings` into `/hotels/bookings`.  A pattern that matches the text of the other
one makes way for it, and of `/*.html` only the extension is kept.

## Main definitions

* `joinTexts` — two texts with one separator where they meet.
* `splitAtStarDot` — the file extension at the first `*.` of a text.
* `isConcrete` — whether an extension leaves nothing open.
* `Pattern.combine` — the combination of two patterns.
-/

namespace PathRouting

open Text

/-- Two texts with one separator where they meet. -/
def joinTexts (separator : Char) (first second : List Char) : List Char :=
  match first.getLast? == some separator, second.head? == some separator with
  | true, true => first ++ second.drop 1
  | false, false => first ++ separator :: second
  | _, _ => first ++ second

/-- The text from the dot of the first `*.` on. -/
def extensionAfterStar? : List Char → Option (List Char)
  | '*' :: '.' :: s => some ('.' :: s)
  | _ :: s => extensionAfterStar? s
  | [] => none

/-- The text before the first dot, and the text from it on. -/
def splitExtension (s : List Char) : List Char × List Char :=
  (s.takeWhile (· ≠ '.'), s.dropWhile (· ≠ '.'))

/-- Whether a file extension leaves nothing open: it is there, and it is not `.*`. -/
def isConcrete (ext : List Char) : Bool := !(ext == ['.', '*'] || ext.isEmpty)

namespace Pattern

/-- A pattern read with the options of another one. -/
def reparse (p : Pattern) (text : List Char) : Except Error Pattern :=
  (Pattern.parse p.options text).mapError .pattern

/-- Whether the pattern matches a text that is read as a path. -/
def matchesText (p : Pattern) (text : List Char) : Bool :=
  match Path.parse text p.options.path with
  | .ok path => p.isMatch path
  | .error _ => false

/-- The combination of two patterns. -/
def combine (p q : Pattern) : Except Error Pattern :=
  if p.text = [] then if q.text = [] then p.reparse [] else .ok q
  else if q.text = [] then .ok p
  else if p.text ≠ q.text ∧ p.captureCount = 0 ∧ p.matchesText q.text then .ok q
  else if p.endsWithWildcard then
    p.reparse (joinTexts p.separator (p.text.take (p.text.length - 2)) q.text)
  else
    let ext := if p.captureCount = 0 ∧ p.separator ≠ '.' then extensionAfterStar? p.text else none
    match ext with
    | none => p.reparse (joinTexts p.separator p.text q.text)
    | some ext =>
      let (file, otherExt) := splitExtension q.text
      if isConcrete ext && isConcrete otherExt then .error (.combine p.text q.text)
      else p.reparse (file ++ if isConcrete ext then ext else otherExt)

end Pattern

end PathRouting
