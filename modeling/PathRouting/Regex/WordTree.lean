import PathRouting.Regex.Growth

/-!
# Trees of words

Alternatives that are all literals make a tree of their bytes, in which words that start alike
share states.  A word is given by the bytes that are left of it.

## Main definitions

* `WordTree.size` — the room that a tree of words takes.
-/

namespace PathRouting.Regex.WordTree

/-- The words between empty ones, in as many lists as the empty ones leave. -/
def runs : List (List UInt8) → List (List (List UInt8))
  | [] => [[]]
  | [] :: words => [] :: runs words
  | word :: words =>
    match runs words with
    | [] => [[word]]
    | run :: more => (word :: run) :: more

/-- How often a word ends where the words start.  While none has gone on yet, one end counts for
all. -/
def ends (words : List (List UInt8)) : Nat :=
  (words.take 1).count [] + (words.dropWhile (·.isEmpty)).count []

/-- The bytes that words start with, each once. -/
def firstBytes (words : List (List UInt8)) : List UInt8 := (words.filterMap List.head?).eraseDups

/-- What follows the byte `b` in the words that start with it. -/
def after (b : UInt8) (words : List (List UInt8)) : List (List UInt8) :=
  words.filterMap fun
    | [] => none
    | c :: rest => if c = b then some rest else none

/-- The room for the words that go on from one state of their tree.  A word that ends here is
preferred to what comes after it, so the words before it and after it make trees of their own,
and one state chooses among them.  Where all words have ended there is no state.  The words have
at most `depth` bytes. -/
def size : Nat → List (List UInt8) → Footprint
  | 0, _ => ⟨0, 0⟩
  | depth + 1, words =>
    if words.all (·.isEmpty) then ⟨0, 0⟩
    else
      let runs := (runs words).filter (!·.isEmpty)
      runs.foldl (fun total run =>
          let bytes := firstBytes run
          let ways := if bytes.length = 1 then 0 else 8 * bytes.length
          bytes.foldl (fun total b => total.plus (size depth (after b run)))
            (total.plus ⟨1, ways⟩))
        ⟨1, 4 * (runs.length + ends words)⟩

end PathRouting.Regex.WordTree
