import PathRouting.Pattern.Combine
import PathRouting.Pattern.Specificity
import PathRouting.Route.Cache

/-!
# Route matchers

A matcher answers questions about routes and pattern texts.  It looks every pattern text up in a
cache, so that it is read once.

## Main definitions

* `RouteMatcher` — a matcher.
* `RouteMatcher.parseRoute` — a route as a path.
* `RouteMatcher.isPattern`, `combine`, `isMatch`, `match?` — questions about pattern texts.
* `compareResults`, `RouteMatcher.compare`, `RouteMatcher.sort` — which pattern is more specific.
-/

namespace PathRouting

/-- A matcher for routes. -/
structure RouteMatcher where
  /-- The patterns read so far. -/
  cache : PatternCache

/-- The order of two pattern texts by what came of them; those that are no patterns come last. -/
def compareResults : Except PatternFault Pattern → Except PatternFault Pattern → Ordering
  | .ok p, .ok q => p.specificity q
  | .ok _, .error _ => .lt
  | .error _, .ok _ => .gt
  | .error _, .error _ => .eq

namespace RouteMatcher

/-- A matcher that has read no pattern. -/
def empty (options : PatternOptions) : RouteMatcher := ⟨.empty options⟩

/-- A matcher for routes of messages. -/
def default : RouteMatcher := empty .message

/-- How patterns and routes are read. -/
def options (m : RouteMatcher) : PatternOptions := m.cache.options

/-- A route as a path. -/
def parseRoute (m : RouteMatcher) (route : List Char) : Except Error Path :=
  (Path.parse route m.options.path).mapError .decode

/-- What came of a pattern text. -/
def lookUp (m : RouteMatcher) (text : List Char) : Reply RouteMatcher (Except Error Pattern) :=
  let reply := m.cache.get text
  ⟨reply.answer.result.mapError .pattern, ⟨reply.state⟩, reply.log⟩

/-- Whether a text is a pattern of more than literal text. -/
def isPattern (m : RouteMatcher) (text : List Char) : Reply RouteMatcher Bool :=
  let reply := m.lookUp text
  ⟨match reply.answer with
    | .ok p => p.hasSyntax
    | .error _ => false, reply.state, reply.log⟩

/-- The text of the combination of two patterns.  The second one is not looked up when the first
one is malformed. -/
def combine (m : RouteMatcher) (first second : List Char) :
    Reply RouteMatcher (Except Error (List Char)) :=
  let a := m.lookUp first
  match a.answer with
  | .error e => ⟨.error e, a.state, a.log⟩
  | .ok p =>
    let b := a.state.lookUp second
    ⟨do
      let q ← b.answer
      let combined ← p.combine q
      return combined.text, b.state, a.log ++ b.log⟩

/-- Whether a route matches a pattern. -/
def isMatch (m : RouteMatcher) (pattern : List Char) (route : Path) :
    Reply RouteMatcher (Except Error Bool) :=
  let reply := m.lookUp pattern
  ⟨reply.answer.map (·.isMatch route), reply.state, reply.log⟩

/-- What a pattern records for a route. -/
def match? (m : RouteMatcher) (pattern : List Char) (route : Path) :
    Reply RouteMatcher (Except Error (Option MatchInfo)) :=
  let reply := m.lookUp pattern
  ⟨reply.answer.map (·.match? route), reply.state, reply.log⟩

/-- The order of two pattern texts, the more specific one first. -/
def compare (m : RouteMatcher) (first second : List Char) : Reply RouteMatcher Ordering :=
  let a := m.cache.get first
  let b := a.state.get second
  ⟨compareResults a.answer.result b.answer.result, ⟨b.state⟩, a.log ++ b.log⟩

/-- Pattern texts from the most specific to the least specific one, equally specific ones in the
order given.  A single text is not looked up. -/
def sort (m : RouteMatcher) (texts : List (List Char)) : Reply RouteMatcher (List (List Char)) :=
  if texts.length < 2 then ⟨texts, m, []⟩
  else
    let reply := m.cache.getAll texts
    let sorted := reply.answer.mergeSort fun a b => compareResults a.result b.result != .gt
    ⟨sorted.map (·.text), ⟨reply.state⟩, reply.log⟩

end RouteMatcher

end PathRouting
