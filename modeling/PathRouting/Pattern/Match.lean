import PathRouting.Pattern.Search

/-!
# Matching paths

A pattern is matched with a whole path, or with the start of one.

## Main definitions

* `Pattern.query` — what is asked about a path.
* `Pattern.match?`, `Pattern.isMatch` — whether a path matches, and what is recorded.
* `StartMatch`, `Pattern.matchStart?` — the match of the start of a path.
-/

namespace PathRouting

namespace Pattern

/-- What is asked about a path. -/
def query (p : Pattern) (path : Path) (extract ofStart : Bool) : Query where
  elements := path.elements.toArray
  optionalTrailingSeparator := p.options.optionalTrailingSeparator
  extract := extract
  ofStart := ofStart

/-- The way to match a path, if there is one. -/
def run (p : Pattern) (path : Path) (extract ofStart : Bool) : Option Outcome :=
  (searchMemo (p.query path extract ofStart) p.elements 0 false ∅).1

/-- Whether the elements can match a path that has none: only those can that match whatever is
left, and a `**` that stands alone. -/
def canMatchEmpty (p : Pattern) : Bool :=
  match p.kinds with
  | k :: later => k.isCatchAll || (later.isEmpty && match k with | .segments => true | _ => false)
  | [] => false

/-- The match with a whole path, captures recorded on demand.  A pattern without elements matches
the empty path and, where a trailing separator is optional, the path of one separator. -/
def matchWith (p : Pattern) (path : Path) (extract : Bool) : Option MatchInfo :=
  if p.elements.isEmpty then
    if path.isEmpty || (p.options.optionalTrailingSeparator && path.isJustSeparator) then
      some .empty
    else none
  else if path.isEmpty && !p.canMatchEmpty then none
  else (p.run path extract false).map fun o => .ofBindings o.bindings

/-- Whether a path matches. -/
def isMatch (p : Pattern) (path : Path) : Bool := (p.matchWith path false).isSome

/-- What a path that matches records. -/
def match? (p : Pattern) (path : Path) : Option MatchInfo := p.matchWith path true

end Pattern

/-- The match of the start of a path. -/
structure StartMatch where
  /-- The start that matches. -/
  matched : Path
  /-- The rest of the path. -/
  remaining : Path
  /-- What was recorded. -/
  info : MatchInfo

/-- The match with the start of a path.  The rest is empty or starts with a separator.  A pattern
without elements takes nothing, and any other pattern does not match the empty path. -/
def Pattern.matchStart? (p : Pattern) (path : Path) : Option StartMatch :=
  if p.elements.isEmpty then
    some ⟨.empty path.options (path.generation + 1), path, .empty⟩
  else if path.isEmpty then none
  else do
    let o ← p.run path true true
    let index := o.restIndex.getD path.length
    let matched ← (path.subPath 0 index).toOption
    let remaining ← (path.subPathFrom index).toOption
    return ⟨matched, remaining, .ofBindings o.bindings⟩

end PathRouting
