/-!
# Log records

What tables and caches report while they work, as data.

## Main definitions

* `LogRecord` — what is reported.
* `LogRecord.message` — the report with its level.
-/

namespace PathRouting

/-- A report of a table or a cache. -/
inductive LogRecord
  /-- A pattern text was not in the cache. -/
  | cacheMiss (pattern : List Char)
  /-- A route was put into the table. -/
  | registered (pattern : List Char) (position : Nat)
  /-- A route was refused because its pattern is in the table. -/
  | duplicate (pattern : List Char)
  /-- Another route would have done as well as the chosen one. -/
  | tie (path chosen other : List Char)
  deriving DecidableEq, Repr

/-- Whether a record is a warning; the others are of use when looking for mistakes. -/
def LogRecord.isWarning : LogRecord → Bool
  | duplicate _ => true
  | _ => false

/-- A text in quotation marks. -/
def quoted (s : List Char) : String := "'" ++ String.ofList s ++ "'"

/-- The record with its level in one line. -/
def LogRecord.message (r : LogRecord) : String :=
  (if r.isWarning then "WARN " else "DEBUG ") ++
    match r with
    | cacheMiss p => "Pattern cache miss for " ++ quoted p
    | registered p n => "Registered route " ++ quoted p ++ " at position " ++ toString n
    | duplicate p => "Rejected duplicate route: " ++ quoted p
    | tie path chosen other =>
      "Path " ++ quoted path ++ " matches " ++ quoted chosen ++ " and " ++ quoted other
        ++ " equally; using " ++ quoted chosen

end PathRouting
