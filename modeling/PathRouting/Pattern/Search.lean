import PathRouting.Alternatives
import PathRouting.Path.Basic
import PathRouting.Pattern.Basic
import PathRouting.Pattern.MatchInfo
import Std.Data.HashSet.Basic

/-!
# Matching elements with a path

The elements of a pattern are matched one after the other, each at an index of the path.  Only
`**` has a choice: it tries to leave off at the end of the path first and then at ever earlier
places, down to the place where it starts.  Last it gives back the separator before it, or, at the
front of a path, skips the separator after it, so that it may stand for no segment at all.

`search` says which match this leads to.  `searchMemo` finds it while remembering the attempts of
`**` that failed, so that none is made twice.

## Main definitions

* `Query` — a path, and what is asked about it.
* `Outcome` — what was recorded, and where the rest of the path starts.
* `Query.take?` — what an element that matches one segment records.
* `Query.finish` — whether a match may end at an index.
* `restarts` — the places where the elements after a `**` are tried.
* `search` — the search by trying everything.
* `Failures`, `searchMemo` — the search that runs.
-/

namespace PathRouting

open Text

/-- A path, and what is asked about it. -/
structure Query where
  /-- The elements of the path. -/
  elements : Array PathElement
  /-- Whether one separator may follow. -/
  optionalTrailingSeparator : Bool
  /-- Whether captures are recorded. -/
  extract : Bool
  /-- Whether the start of the path suffices. -/
  ofStart : Bool

/-- A way to match. -/
structure Outcome where
  /-- What captures recorded, in the order of the pattern. -/
  bindings : List Binding
  /-- Where the rest of the path starts, when the start of the path sufficed. -/
  restIndex : Option Nat
  deriving DecidableEq, Repr

/-- The way to match with more bindings before its own. -/
def Outcome.prepend (bs : List Binding) (o : Outcome) : Outcome :=
  { o with bindings := bs ++ o.bindings }

/-! ### Comparing texts -/

/-- Whether a text is the one of the pattern, character by character or in lowercase. -/
def textMatches (caseSensitive : Bool) (pattern value : List Char) : Bool :=
  if caseSensitive then pattern == value else lowercaseAll pattern == lowercaseAll value

/-- Whether a character is the one of the pattern or the pattern has a `?`. -/
def charMatches (caseSensitive : Bool) (p c : Char) : Bool :=
  p == '?' || p == c || (!caseSensitive && lowercase p == lowercase c)

/-- Whether a text is the one of the pattern, `?` standing for any one character. -/
def charsMatch (caseSensitive : Bool) : List Char → List Char → Bool
  | [], [] => true
  | p :: ps, c :: cs => charMatches caseSensitive p c && charsMatch caseSensitive ps cs
  | _, _ => false

namespace Query

/-- The number of elements of the path. -/
def length (q : Query) : Nat := q.elements.size

/-- Whether there is a separator at an index. -/
def isSeparator (q : Query) (index : Nat) : Bool := q.elements[index]?.any (·.isSeparator)

/-- The segment at an index, if there is one. -/
def segment? (q : Query) (index : Nat) : Option Segment :=
  q.elements[index]?.bind PathElement.segment?

/-- What captures record: nothing, if nothing is to be recorded. -/
def recorded (q : Query) (bs : List Binding) : List Binding := if q.extract then bs else []

/-- What an element that matches one segment records for it, if it matches. -/
def take? (q : Query) (s : Segment) : ElementKind → Option (List Binding)
  | .literal text caseSensitive => if textMatches caseSensitive text s.value then some [] else none
  | .singleChars text caseSensitive =>
    if charsMatch caseSensitive text s.value then some [] else none
  | .capture name constraint =>
    if s.value.isEmpty || constraint.any fun (_, re) => !re.isMatch s.value then none
    else some (q.recorded [⟨name, s.value, s.matrix⟩])
  | .mixed _ pieces re =>
    -- groups are found only where something is to be recorded
    if q.extract then
      (re.captures? (captureNames pieces).length s.value).map fun values =>
        ((captureNames pieces).zip values).map fun (name, value) => ⟨name, value, s.matrix⟩
    else if re.isMatch s.value then some [] else none
  | _ => none

/-- What the capture of the rest records from an index on: the values of all elements put
together, and the matrix variables of all segments. -/
def restBinding (q : Query) (name : List Char) (index : Nat) : Binding :=
  let left := q.elements.toList.drop index
  ⟨name, left.flatMap PathElement.value, (left.map PathElement.matrix).foldl Matrix.merge []⟩

/-- The end of the elements at an index.  The start of a path must end before a separator or with
the path; otherwise the path must end, or, after a segment, one separator may follow where that
is allowed. -/
def finish (q : Query) (index : Nat) (afterSegment : Bool) : Option Outcome :=
  if q.ofStart then
    if index < q.length && !q.isSeparator index then none else some ⟨[], some index⟩
  else if index = q.length || (afterSegment && q.optionalTrailingSeparator
      && index + 1 = q.length && q.isSeparator index) then some ⟨[], none⟩
  else none

/-- The end of the elements by matching whatever is left from an index on. -/
def finishWithRest (q : Query) (index : Nat) (bs : List Binding) : Option Outcome :=
  if index < q.length && !q.isSeparator index then none
  else some ⟨q.recorded bs, if q.ofStart then some q.length else none⟩

end Query

/-- A place where the elements after a `**` are tried. -/
inductive Restart
  /-- At an index. -/
  | atIndex (index : Nat)
  /-- At the front of the path, the separator after the `**` left out. -/
  | pastSeparator
  deriving DecidableEq, Repr

/-- The indices from `stop` down to `start`. -/
def countDown (start stop : Nat) : List Nat := (List.range' start (stop + 1 - start)).reverse

/-- The places where the elements `next` after a `**` are tried, the `**` starting at `index`. -/
def restarts (q : Query) (index : Nat) (next : PatternElement) : List Restart :=
  (countDown index q.length).map .atIndex
    ++ (if 0 < index && q.isSeparator (index - 1) then [.atIndex (index - 1)] else [])
    ++ (if index = 0 && next.kind.isSeparator then [.pastSeparator] else [])

/-! ### Trying everything -/

/-- The way to match the elements of a pattern from an index on; `afterSegment` if the element
before them has taken a segment. -/
def search (q : Query) : List PatternElement → Nat → Bool → Option Outcome
  | [], index, afterSegment => q.finish index afterSegment
  | e :: after, index, _ =>
    match e.kind with
    | .separator => if q.isSeparator index then search q after (index + 1) false else none
    | .wildcard =>
      match q.segment? index with
      | some s =>
        if !after.isEmpty && s.value.isEmpty then none else search q after (index + 1) true
      -- at the end of the path a last `*` still matches, though without a segment
      | none => if q.length ≤ index && after.isEmpty then q.finish index false else none
    | .segments =>
      match after with
      | [] => q.finish q.length false
      | next :: later =>
        (restarts q index next).findSome? fun
          | .atIndex i => search q (next :: later) i false
          | .pastSeparator => search q later 0 false
    | .rest _ => q.finishWithRest index []
    | .captureRest name _ => q.finishWithRest index [q.restBinding name index]
    | kind =>
      (q.segment? index).bind fun s =>
        (q.take? s kind).bind fun bs =>
          (search q after (index + 1) true).map (·.prepend bs)

/-! ### Remembering failures -/

/-- Attempts that failed, by the place of the element in the pattern and the index in the path. -/
abbrev Failures := Std.HashSet (Nat × Nat)

/-- An attempt that is made only if it is not known to fail; a failure is remembered. -/
def Failures.guarded (key : Nat × Nat) (attempt : Failures → Option Outcome × Failures)
    (failed : Failures) : Option Outcome × Failures :=
  if failed.contains key then (none, failed)
  else match attempt failed with
    | (none, failed) => (none, failed.insert key)
    | found => found

/-- An attempt at the elements of a list, guarded by the place of the first of them. -/
def Failures.guardedAt (elements : List PatternElement) (index : Nat)
    (attempt : Failures → Option Outcome × Failures) : Failures → Option Outcome × Failures :=
  match elements with
  | [] => attempt
  | e :: _ => guarded (e.position, index) attempt

/-- The way to match the elements of a pattern from an index on, and all failures known then. -/
def searchMemo (q : Query) : List PatternElement → Nat → Bool → Failures →
    Option Outcome × Failures
  | [], index, afterSegment, failed => (q.finish index afterSegment, failed)
  | e :: after, index, _, failed =>
    match e.kind with
    | .separator =>
      if q.isSeparator index then searchMemo q after (index + 1) false failed else (none, failed)
    | .wildcard =>
      match q.segment? index with
      | some s =>
        if !after.isEmpty && s.value.isEmpty then (none, failed)
        else searchMemo q after (index + 1) true failed
      | none =>
        (if q.length ≤ index && after.isEmpty then q.finish index false else none, failed)
    | .segments =>
      match after with
      | [] => (q.finish q.length false, failed)
      | next :: later =>
        failed.guarded (e.position, index) <|
          firstWay (fun
            | .atIndex i => Failures.guardedAt (next :: later) i (searchMemo q (next :: later) i false)
            | .pastSeparator => Failures.guardedAt later 0 (searchMemo q later 0 false))
            (restarts q index next)
    | .rest _ => (q.finishWithRest index [], failed)
    | .captureRest name _ => (q.finishWithRest index [q.restBinding name index], failed)
    | kind =>
      match (q.segment? index).bind fun s => q.take? s kind with
      | some bs =>
        let (found, failed) := searchMemo q after (index + 1) true failed
        (found.map (·.prepend bs), failed)
      | none => (none, failed)

end PathRouting
