import PathRouting.Path.Basic
import PathRouting.Pattern.Fault

/-!
# Errors

Everything that can go wrong, with the message for it and the status code with which a server
answers.

## Main definitions

* `ConfigFault` — what is wrong with a configuration.
* `Error` — an error of any kind.
* `Error.message`, `Error.source?` — the error in words, and the words of the fault below it.
* `Error.status`, `Error.isClientError` — whose fault it is.
-/

namespace PathRouting

/-- What is wrong with a configuration. -/
inductive ConfigFault
  /-- The text is no JSON, or no JSON of the right form. -/
  | malformed
  /-- The separator has a meaning in patterns. -/
  | reservedSeparator (c : Char)
  /-- The separator is a letter, a numeral or white space. -/
  | notPunctuation (c : Char)
  deriving DecidableEq, Repr

/-- The fault in words. -/
def ConfigFault.message : ConfigFault → String
  | malformed => "<json>"
  | reservedSeparator c => "Separator '" ++ c.toString ++ "' is reserved by pattern syntax"
  | notPunctuation c => "Separator '" ++ c.toString ++ "' is not a punctuation character"

/-- An error of any kind. -/
inductive Error
  /-- The text of a pattern is malformed. -/
  | pattern (fault : PatternFault)
  /-- A path cannot be decoded. -/
  | decode (fault : Percent.Fault)
  /-- A path has no such part. -/
  | subPath (fault : SubPathFault)
  /-- Two patterns insist on different file extensions. -/
  | combine (first second : List Char)
  /-- A pattern is in the table already. -/
  | duplicateRoute (pattern : List Char)
  /-- A configuration is not acceptable. -/
  | config (fault : ConfigFault)
  deriving DecidableEq, Repr

namespace Error

/-- What is wrong with an escaped text, in words. -/
def decodeContext : Percent.Cause → String
  | .malformedEscape => "Invalid percent-encoded sequence"
  | .invalidUtf8 => "Decoded bytes are not valid UTF-8"

/-- The error in words. -/
def message : Error → String
  | pattern f => "Pattern parse error: " ++ f.message
  | decode f =>
    "Decode error at " ++ toString f.position ++ " in '" ++ String.ofList f.piece ++ "': "
      ++ decodeContext f.cause
  | subPath f =>
    "Invalid sub path " ++ toString f.start ++ ".." ++ toString f.stop ++ " of "
      ++ toString f.length ++ " elements"
  | combine a b =>
    "Cannot combine patterns: " ++ String.ofList a ++ " and " ++ String.ofList b
  | duplicateRoute p => "Route already registered: " ++ String.ofList p
  | config f => "Configuration error: " ++ f.message

/-- The fault below the error in words, where there is one. -/
def source? : Error → Option String
  | pattern f => some f.message
  | _ => none

/-- The status code to answer with: only an undecodable path is the fault of the client. -/
def status : Error → Nat
  | decode _ => 400
  | _ => 500

/-- Whether the error lies with the request. -/
def isClientError (e : Error) : Bool := e.status < 500

end Error

end PathRouting
