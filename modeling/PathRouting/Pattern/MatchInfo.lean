import PathRouting.Path.Matrix

/-!
# What a match records

## Main definitions

* `Binding` — the value that one capture has taken.
* `MatchInfo`, `MatchInfo.ofBindings` — values and matrix variables by the name of the capture.
* `MatchInfo.get?` — the value of a capture.
-/

namespace PathRouting

/-- A list of pairs with one pair changed or added at the end. -/
def setPair {β : Type} : List (List Char × β) → List Char → β → List (List Char × β)
  | [], name, b => [(name, b)]
  | (n, old) :: rest, name, b =>
    if n = name then (n, b) :: rest else (n, old) :: setPair rest name b

/-- The value that one capture has taken. -/
structure Binding where
  /-- The name of the capture. -/
  name : List Char
  /-- The matched text. -/
  value : List Char
  /-- The matrix variables of what was matched. -/
  matrix : Matrix
  deriving DecidableEq, Repr

/-- What a match records. -/
structure MatchInfo where
  /-- The values by name. -/
  values : List (List Char × List Char)
  /-- The matrix variables by name, for captures that have some. -/
  matrices : List (List Char × Matrix)
  deriving DecidableEq, Repr

namespace MatchInfo

/-- Nothing recorded. -/
def empty : MatchInfo := ⟨[], []⟩

/-- One more binding; the last one for a name counts. -/
def bind (info : MatchInfo) (b : Binding) : MatchInfo where
  values := setPair info.values b.name b.value
  matrices := if b.matrix = [] then info.matrices else setPair info.matrices b.name b.matrix

/-- What bindings record, one after the other. -/
def ofBindings (bs : List Binding) : MatchInfo := bs.foldl bind empty

/-- The value of a name. -/
def get? (info : MatchInfo) (name : List Char) : Option (List Char) := info.values.lookup name

@[simp] theorem ofBindings_nil : ofBindings [] = empty := rfl

end MatchInfo

end PathRouting
