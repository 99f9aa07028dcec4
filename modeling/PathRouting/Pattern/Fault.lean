/-!
# Faults in pattern texts

## Main definitions

* `PatternCause` — what can be wrong with the text of a pattern.
* `PatternFault` — a cause with the pattern and the place it was found at.
* `PatternFault.message`, `PatternFault.picture` — the fault in words, and with the place marked.
-/

namespace PathRouting

/-- What can be wrong with the text of a pattern. -/
inductive PatternCause
  /-- A capture is not closed. -/
  | missingClose
  /-- A closing brace closes nothing. -/
  | missingOpen
  /-- A capture stands in the name of another one. -/
  | nestedCapture
  /-- Two captures have nothing between them. -/
  | adjacentCaptures
  /-- A capture has no name. -/
  | emptyName
  /-- A name starts with a character that no name starts with. -/
  | illegalStart (c : Char)
  /-- A name holds a character that no name holds. -/
  | illegalChar (c : Char)
  /-- A colon is followed by no constraint. -/
  | missingConstraint
  /-- A name is given to two captures. -/
  | duplicateName (name : List Char)
  /-- A constraint is no regular expression. -/
  | malformedConstraint
  /-- A constraint in a mixed segment has groups of its own. -/
  | groupInConstraint (segment : List Char)
  /-- A capture of the rest shares its segment with something. -/
  | restNotAlone
  /-- A capture of the rest has no name. -/
  | restWithoutName
  /-- Something follows a capture of the rest. -/
  | afterRest
  deriving DecidableEq, Repr

/-- What is wrong with the text of a pattern, and where. -/
structure PatternFault where
  /-- The text of the pattern. -/
  pattern : List Char
  /-- The number of characters before the offending one. -/
  position : Nat
  /-- What is wrong. -/
  cause : PatternCause
  deriving DecidableEq, Repr

namespace PatternCause

/-- The cause in words. -/
def message : PatternCause → String
  | missingClose => "Expected close capture character after variable name '\x7d'"
  | missingOpen => "Missing preceding open capture character before variable name '\x7b'"
  | nestedCapture => "Not allowed to nest variable captures"
  | adjacentCaptures => "Adjacent captures are not allowed"
  | emptyName => "Capture must declare a variable name"
  | illegalStart _ => "Character is not allowed at start of capture descriptor"
  | illegalChar _ => "Character is not allowed in capture descriptor"
  | missingConstraint => "Missing regex constraint on capture"
  | duplicateName _ => "Not allowed to capture the same variable twice"
  | malformedConstraint => "Regex constraint does not compile"
  | groupInConstraint _ => "Regex constraint must not declare its own capture groups"
  | restNotAlone => "'\x7b*...\x7d' can only be preceded by a path separator"
  | restWithoutName =>
    "Expected form when capturing the rest of the path is simply '\x7b*...\x7d'"
  | afterRest => "No more pattern data allowed after \x7b*...\x7d or ** pattern element"

/-- The offending character, name or segment, where there is one to show. -/
def detail? : PatternCause → Option (List Char)
  | illegalStart c => some [c]
  | illegalChar c => some [c]
  | duplicateName name => some name
  | groupInConstraint segment => some segment
  | _ => none

end PatternCause

namespace PatternFault

/-- The fault in one line. -/
def message (f : PatternFault) : String :=
  f.cause.message ++ " (pattern: '" ++ String.ofList f.pattern ++ "', position: "
    ++ toString f.position ++ ")"
    ++ ((f.cause.detail?.map fun d => ": " ++ String.ofList d).getD "")

/-- The pattern, a caret under the offending character, and the fault in words. -/
def picture (f : PatternFault) : String :=
  String.ofList f.pattern ++ "\n" ++ String.ofList (List.replicate f.position ' ') ++ "^\n"
    ++ f.message

end PatternFault

end PathRouting
