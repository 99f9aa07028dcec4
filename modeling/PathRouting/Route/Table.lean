import PathRouting.Error
import PathRouting.Pattern.Match
import PathRouting.Pattern.Specificity
import PathRouting.Route.Record

/-!
# Route tables

A table keeps its routes from the most specific pattern to the least specific one; among equally
specific patterns the one that came first stays first.  The first route whose pattern matches a
path is the route of that path.

## Main definitions

* `Route`, `RouteTable` — a pattern with its handler, and a table of them.
* `RouteTable.add` — a table with one more route.
* `Found`, `RouteTable.find`, `RouteTable.findIn` — the route of a path.
* `RouteTable.ties` — the routes that would have done as well.
-/

namespace PathRouting

/-- A pattern with its handler. -/
structure Route (α : Type) where
  /-- The pattern. -/
  pattern : Pattern
  /-- What handles the paths it matches. -/
  handler : α

/-- A table of routes, most specific ones first. -/
structure RouteTable (α : Type) where
  /-- How patterns and paths are read. -/
  options : PatternOptions
  /-- The routes. -/
  routes : List (Route α)

/-- The route of a path. -/
structure Found (α : Type) where
  /-- The route. -/
  route : Route α
  /-- What its pattern has recorded. -/
  info : MatchInfo

namespace RouteTable

variable {α : Type}

/-- A table without routes. -/
def empty (options : PatternOptions) : RouteTable α := ⟨options, []⟩

/-- The number of routes. -/
def length (t : RouteTable α) : Nat := t.routes.length

/-- Whether there are no routes. -/
def isEmpty (t : RouteTable α) : Bool := t.routes.isEmpty

/-- The texts of the patterns in the order of the table. -/
def patternTexts (t : RouteTable α) : List (List Char) := t.routes.map (·.pattern.text)

/-- A route put before the first one that is less specific, with the number of routes before
it. -/
def insertRoute (r : Route α) : List (Route α) → List (Route α) × Nat
  | [] => ([r], 0)
  | first :: rest =>
    if first.pattern.specificity r.pattern = .gt then (r :: first :: rest, 0)
    else
      let (rest, n) := insertRoute r rest
      (first :: rest, n + 1)

/-- The table with one more route, and what there is to report.  The pattern must be well formed,
and no route may have it yet. -/
def add (t : RouteTable α) (text : List Char) (handler : α) :
    Except Error (RouteTable α) × List LogRecord :=
  match Pattern.parse t.options text with
  | .error fault => (.error (.pattern fault), [])
  | .ok pattern =>
    if t.patternTexts.contains text then (.error (.duplicateRoute text), [.duplicate text])
    else
      let (routes, position) := insertRoute ⟨pattern, handler⟩ t.routes
      (.ok { t with routes }, [.registered text position])

/-- The first route that matches a path, and the routes after it. -/
def firstMatch (path : Path) : List (Route α) → Option (Found α × List (Route α))
  | [] => none
  | r :: rest =>
    match r.pattern.match? path with
    | some info => some (⟨r, info⟩, rest)
    | none => firstMatch path rest

/-- The routes just after a chosen one that are as specific and match the path too. -/
def ties (path : Path) (chosen : Pattern) (later : List (Route α)) : List (Route α) :=
  (later.takeWhile fun r => chosen.specificity r.pattern = .eq).filter (·.pattern.isMatch path)

/-- The route of a path, and what there is to report. -/
def findIn (t : RouteTable α) (path : Path) : Option (Found α) × List LogRecord :=
  match firstMatch path t.routes with
  | none => (none, [])
  | some (found, later) =>
    let chosen := found.route.pattern
    (some found,
      (ties path chosen later).map fun r => .tie path.text chosen.text r.pattern.text)

/-- The route of the path that a text holds, and what there is to report. -/
def find (t : RouteTable α) (text : List Char) :
    Except Error (Option (Found α)) × List LogRecord :=
  match Path.parse text t.options.path with
  | .error fault => (.error (.decode fault), [])
  | .ok path =>
    let (found, log) := t.findIn path
    (.ok found, log)

end RouteTable

end PathRouting
