import PathRouting.Pattern.Options
import PathRouting.Pattern.Piece

/-!
# Pattern elements

A pattern is a row of elements, each of which matches a separator, a segment, or any number of
them.

## Main definitions

* `ElementKind` — what an element matches.
* `ElementKind.wildcards`, `captures`, `weight` — the counts that make patterns more or less
  specific.
* `ElementKind.describe` — an element in words, and `ElementKind.written` as it stands in a
  pattern.
* `PatternElement` — an element with its place in the pattern.
-/

namespace PathRouting

/-- What an element of a pattern matches. -/
inductive ElementKind
  /-- The separator. -/
  | separator
  /-- A segment with exactly this text. -/
  | literal (text : List Char) (caseSensitive : Bool)
  /-- A segment with this text, where `?` stands for any one character. -/
  | singleChars (text : List Char) (caseSensitive : Bool)
  /-- `*`: any segment. -/
  | wildcard
  /-- `{name}` or `{name:constraint}`: a segment that is recorded, as long as it satisfies the
  constraint.  The regular expression is the one of `constraintSource`. -/
  | capture (name : List Char) (constraint : Option (List Char × Regex))
  /-- A segment of literal text, `*`, `?` and captures. -/
  | mixed (text : List Char) (pieces : List Piece) (regex : Regex)
  /-- `**`: any number of segments. -/
  | segments
  /-- `/**` at the end: whatever is left. -/
  | rest (separator : Char)
  /-- `/{*name}` at the end: whatever is left, recorded. -/
  | captureRest (name : List Char) (separator : Option Char)
  deriving Repr

namespace ElementKind

/-- The number of wildcards. -/
def wildcards : ElementKind → Nat
  | wildcard => 1
  | segments => 1
  | rest _ => 1
  | mixed _ pieces _ => (pieces.filter Piece.isStar).length
  | _ => 0

/-- The names that are recorded. -/
def names : ElementKind → List (List Char)
  | capture name _ => [name]
  | captureRest name _ => [name]
  | mixed _ pieces _ => captureNames pieces
  | _ => []

/-- The number of captures. -/
def captures (k : ElementKind) : Nat := k.names.length

/-- The length that counts for how specific a pattern is: literal text counts fully, everything
else as one character. -/
def weight : ElementKind → Nat
  | literal text _ => text.length
  | singleChars text _ => text.length
  | mixed _ pieces _ => pieces.foldr (fun piece n => piece.weight + n) 0
  | _ => 1

/-- Whether the element matches one fixed separator or segment only. -/
def isLiteral : ElementKind → Bool
  | separator => true
  | literal .. => true
  | _ => false

/-- Whether the element matches everything that is left. -/
def isCatchAll : ElementKind → Bool
  | rest _ => true
  | captureRest .. => true
  | _ => false

/-- Whether the element is a separator. -/
def isSeparator : ElementKind → Bool
  | separator => true
  | _ => false

/-- The element as it stands in a pattern with the given separator. -/
def written (sep : Char) : ElementKind → List Char
  | separator => [sep]
  | literal text _ => text
  | singleChars text _ => text
  | wildcard => ['*']
  | capture name none => '{' :: name ++ ['}']
  | capture name (some (constraint, _)) => '{' :: name ++ ':' :: constraint ++ ['}']
  | mixed text _ _ => text
  | segments => ['*', '*']
  | rest s => [s, '*', '*']
  | captureRest name s => s.toList ++ ['{', '*'] ++ name ++ ['}']

/-- The element in words. -/
def describe (k : ElementKind) : String :=
  let inside (name : String) (text : List Char) := name ++ "(" ++ String.ofList text ++ ")"
  match k with
  | separator => "Separator"
  | literal text _ => inside "Literal" text
  | singleChars text _ => inside "SingleCharWildcarded" text
  | wildcard => "Wildcard(*)"
  | capture .. => inside "Capture" (k.written ' ')
  | mixed text _ _ => inside "Regex" text
  | segments => "MultiSegmentWildcard(**)"
  | rest _ => inside "WildcardTheRest" (k.written ' ')
  | captureRest .. => inside "CaptureTheRest" (k.written ' ')

/-- Whether two elements match the same for the same reason.  Regular expressions are compared by
their texts. -/
def same : ElementKind → ElementKind → Bool
  | separator, separator => true
  | literal a ca, literal b cb => a == b && ca == cb
  | singleChars a ca, singleChars b cb => a == b && ca == cb
  | wildcard, wildcard => true
  | capture a ra, capture b rb => a == b && ra.map (·.2.source) == rb.map (·.2.source)
  | mixed a _ ra, mixed b _ rb => a == b && ra.source == rb.source
  | segments, segments => true
  | rest a, rest b => a == b
  | captureRest a sa, captureRest b sb => a == b && sa == sb
  | _, _ => false

end ElementKind

/-- An element of a pattern. -/
structure PatternElement where
  /-- The number of characters before the element in the pattern. -/
  position : Nat
  /-- What it matches. -/
  kind : ElementKind
  deriving Repr

/-- Whether two elements are the same at the same place. -/
def PatternElement.same (a b : PatternElement) : Bool :=
  a.position == b.position && a.kind.same b.kind

end PathRouting
