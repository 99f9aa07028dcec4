import PathRouting.Error
import PathRouting.Json.Value
import PathRouting.Pattern.MatchInfo
import PathRouting.Pattern.Options

/-!
# Settings

Options and recorded matches as JSON, and which separators are acceptable.

## Main definitions

* `separatorFault?` — what is wrong with a separator.
* `PatternOptions.validate`, `PatternOptions.ofJson`, `PatternOptions.load` — pattern options
  checked, read, and both.
* `PathOptions.ofJson`, `MatchInfo.ofJson` — path options and recorded matches read.
-/

namespace PathRouting

open Text

/-- The characters that patterns and paths give a meaning of their own. -/
def reservedChars : List Char := ['{', '}', '*', '?', '%', ':', ';', '\\']

/-- What is wrong with a separator: it has a meaning of its own, or it is no punctuation. -/
def separatorFault? (c : Char) : Option ConfigFault :=
  if reservedChars.contains c then some (.reservedSeparator c)
  else if isWhiteSpace c || isAlphanumeric c then some (.notPunctuation c)
  else none

/-- A value read from JSON, all that is wrong being the same fault. -/
def readJson {α : Type} (read : Json → Option α) (text : List Char) : Except ConfigFault α :=
  match (Json.parse? text).bind read with
  | some a => .ok a
  | none => .error .malformed

namespace PatternOptions

/-- The options if their separator is acceptable. -/
def validate (o : PatternOptions) : Except ConfigFault PatternOptions :=
  match separatorFault? o.separator with
  | some fault => .error fault
  | none => .ok o

/-- Options from a record; a field that is absent has its default. -/
def ofFields (v : Json) : Option PatternOptions := do
  let fields ← v.fields? ["separator".toList, "case_sensitive".toList,
    "match_optional_trailing_separator".toList, "decode_segments".toList,
    "parse_matrix_variables".toList]
  match fields with
  | [separator, caseSensitive, trailing, decode, matrix] => do
    let read (v : Option Json) (otherwise : Bool) := match v with
      | some v => v.bool?
      | none => some otherwise
    let separator ← match separator with
      | some v => v.char?
      | none => some default.separator
    some {
      caseSensitive := ← read caseSensitive default.caseSensitive
      optionalTrailingSeparator := ← read trailing default.optionalTrailingSeparator
      path := {
        separator := separator
        decodeSegments := ← read decode default.path.decodeSegments
        parseMatrixVariables := ← read matrix default.path.parseMatrixVariables } }
  | _ => none

/-- The options that a JSON text holds, separators unchecked. -/
def ofJson (text : List Char) : Except ConfigFault PatternOptions := readJson ofFields text

/-- The options that a JSON text holds, checked. -/
def load (text : List Char) : Except ConfigFault PatternOptions := do validate (← ofJson text)

end PatternOptions

/-- Path options from a record; every field must be there. -/
def PathOptions.ofFields (v : Json) : Option PathOptions := do
  let fields ← v.fields? ["separator".toList, "decode_segments".toList,
    "parse_matrix_variables".toList]
  match fields with
  | [some separator, some decode, some matrix] =>
    some ⟨← separator.char?, ← decode.bool?, ← matrix.bool?⟩
  | _ => none

/-- The path options that a JSON text holds. -/
def PathOptions.ofJson (text : List Char) : Except ConfigFault PathOptions :=
  readJson PathOptions.ofFields text

/-- A recorded match from a record; every field must be there. -/
def MatchInfo.ofFields (v : Json) : Option MatchInfo := do
  let fields ← v.fields? ["uri_variables".toList, "matrix_variables".toList]
  match fields with
  | [some values, some matrices] =>
    some ⟨← values.map? Json.text?, ← matrices.map? (Json.map? Json.texts?)⟩
  | _ => none

/-- The recorded match that a JSON text holds. -/
def MatchInfo.ofJson (text : List Char) : Except ConfigFault MatchInfo :=
  readJson MatchInfo.ofFields text

end PathRouting
