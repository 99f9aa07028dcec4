import PathRouting.Path.Options

/-!
# Pattern options

How patterns are read and matched, together with the options for the paths they are meant for.
-/

namespace PathRouting

/-- How patterns are read and matched. -/
structure PatternOptions where
  /-- Whether case makes a difference. -/
  caseSensitive : Bool
  /-- Whether one separator may follow a path that matches without it. -/
  optionalTrailingSeparator : Bool
  /-- The options for paths; their separator is the one of patterns as well. -/
  path : PathOptions
  deriving DecidableEq, Repr

namespace PatternOptions

/-- Patterns for paths of URLs, with regard to case and to trailing separators. -/
def default : PatternOptions := ⟨true, false, .http⟩

/-- Patterns for routes of messages. -/
def message : PatternOptions := { default with path := .message }

/-- The separator. -/
def separator (o : PatternOptions) : Char := o.path.separator

/-- The options with another separator. -/
def withSeparator (o : PatternOptions) (c : Char) : PatternOptions :=
  { o with path := { o.path with separator := c } }

/-- A pattern text that starts with the separator, unless it is empty. -/
def fullText (o : PatternOptions) (text : List Char) : List Char :=
  if text = [] ∨ text.head? = some o.separator then text else o.separator :: text

instance : Inhabited PatternOptions := ⟨default⟩

end PatternOptions

end PathRouting
