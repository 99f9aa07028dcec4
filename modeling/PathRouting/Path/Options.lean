/-!
# Path options

How the text of a path is cut into segments and how the segments are read.
-/

namespace PathRouting

/-- How the text of a path is cut and read. -/
structure PathOptions where
  /-- The character between segments. -/
  separator : Char
  /-- Whether percent escapes in segments are replaced. -/
  decodeSegments : Bool
  /-- Whether a segment ends at its first `;` and matrix variables follow. -/
  parseMatrixVariables : Bool
  deriving DecidableEq, Repr

namespace PathOptions

/-- Paths of URLs: cut at `/`, decoded, with matrix variables. -/
def http : PathOptions := ⟨'/', true, true⟩

/-- Routes of messages: cut at `.`, decoded, without matrix variables. -/
def message : PathOptions := ⟨'.', true, false⟩

/-- Options that either decode segments and read matrix variables or do neither. -/
def uniform (separator : Char) (read : Bool) : PathOptions := ⟨separator, read, read⟩

instance : Inhabited PathOptions := ⟨http⟩

end PathOptions

end PathRouting
