import PathRouting.Percent
import PathRouting.Text.Split

/-!
# Matrix variables

A segment such as `cars;color=red,blue;year=2012` carries variables after its first `;`.  Each
part between semicolons names a variable and lists its values; the same name may come again
and adds further values.

## Main definitions

* `Matrix` — names with their values, in the order of their first appearance.
* `Matrix.addAll`, `Matrix.values?` — adding values to a name, and looking a name up.
* `Matrix.read` — the variables that the text after a segment holds.
* `Matrix.render` — a text that holds given variables.
-/

namespace PathRouting

open Text

/-- Matrix variables: every name once, with its values. -/
abbrev Matrix := List (List Char × List (List Char))

namespace Matrix

/-- The values of a name. -/
def values? (m : Matrix) (name : List Char) : Option (List (List Char)) := m.lookup name

/-- The variables with `new` added to the values of `name`. -/
def addAll : Matrix → List Char → List (List Char) → Matrix
  | [], name, new => [(name, new)]
  | (n, old) :: rest, name, new =>
    if n = name then (n, old ++ new) :: rest else (n, old) :: addAll rest name new

/-- The variables of `m` with those of `other` added name by name. -/
def merge (m other : Matrix) : Matrix :=
  other.foldl (fun acc (name, values) => acc.addAll name values) m

/-- The values in a list with commas, empty ones left out.  Faults are placed as though every
value stood at the byte `position` where the list starts. -/
def readValues (list : List Char) (position : Nat) :
    Except Percent.Fault (List (List Char)) :=
  ((pieces ',' list).filter (· ≠ [])).mapM (Percent.decode · position)

/-- One part between semicolons added to the variables read before it.  A part without a name
is skipped, and so is a list of values that has none; a name alone has one empty value. -/
def readPart (m : Matrix) (part : List Char) (position : Nat) : Except Percent.Fault Matrix :=
  match cutAt '=' part with
  | some (rawName, list) => do
    let name ← Percent.decode rawName position
    if isBlank name then return m
    match ← readValues list (position + byteLength rawName + 1) with
    | [] => return m
    | values => return m.addAll name values
  | none => do
    let name ← Percent.decode part position
    return if isBlank name then m else m.addAll name [[]]

/-- The parts added in turn, the first of them starting at byte `position`. -/
def readParts (m : Matrix) : List (List Char) → Nat → Except Percent.Fault Matrix
  | [], _ => .ok m
  | part :: rest, position => do
    let m ← readPart m part position
    readParts m rest (position + byteLength part + 1)

/-- The variables of a text that starts with `;` at byte `position` of the path. -/
def read (text : List Char) (position : Nat) : Except Percent.Fault Matrix :=
  readParts [] (pieces ';' text) position

/-- Characters that have to be escaped in names and values. -/
def isReserved (c : Char) : Bool := c = '%' || c = ';' || c = '=' || c = ','

/-- A part for one name with one value; an empty value is not written. -/
def renderPair (name value : List Char) : List Char :=
  ';' :: Percent.encode isReserved name
    ++ if value = [] then [] else '=' :: Percent.encode isReserved value

/-- A text that holds the given variables, one part for each value. -/
def render (m : Matrix) : List Char :=
  m.flatMap fun (name, values) => values.flatMap (renderPair name)

@[simp] theorem addAll_nil (name : List Char) (new : List (List Char)) :
    addAll [] name new = [(name, new)] := rfl

/-- The values of a name after values were added to it. -/
theorem values?_addAll_self (m : Matrix) (name : List Char) (new : List (List Char)) :
    (m.addAll name new).values? name = some ((m.values? name).getD [] ++ new) := by
  induction m with
  | nil => simp [addAll, values?]
  | cons e rest ih =>
    obtain ⟨n, old⟩ := e
    by_cases h : n = name
    · simp [addAll, values?, h]
    · have hne : (name == n) = false := by simpa using Ne.symm h
      simp only [addAll, h, if_false, values?, List.lookup_cons, hne]
      exact ih

/-- The values of all other names stay. -/
theorem values?_addAll_of_ne (m : Matrix) {name other : List Char} (h : other ≠ name)
    (new : List (List Char)) : (m.addAll name new).values? other = m.values? other := by
  induction m with
  | nil => simp [addAll, values?, List.lookup_cons, beq_false_of_ne h]
  | cons e rest ih =>
    obtain ⟨n, old⟩ := e
    by_cases hn : n = name
    · subst hn
      simp [addAll, values?, List.lookup_cons, beq_false_of_ne h]
    · simp only [addAll, hn, if_false, values?, List.lookup_cons]
      split
      · rfl
      · exact ih

end Matrix

end PathRouting
