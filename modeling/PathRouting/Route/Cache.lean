import PathRouting.Pattern.Basic
import PathRouting.Route.Record

/-!
# Pattern caches

A cache reads every pattern text once and keeps what came of it, a fault as well as a pattern.

## Main definitions

* `CacheEntry`, `PatternCache` — what came of a text, and all of it.
* `Reply` — an answer, the state after it, and what there is to report.
* `PatternCache.get`, `PatternCache.clear` — looking a text up, and forgetting everything.
-/

namespace PathRouting

/-- What came of reading a pattern text. -/
structure CacheEntry where
  /-- The text. -/
  text : List Char
  /-- The pattern, or the fault. -/
  result : Except PatternFault Pattern
  /-- The number of texts the cache had read before; it tells entries apart. -/
  serial : Nat

/-- A cache of patterns. -/
structure PatternCache where
  /-- How patterns are read. -/
  options : PatternOptions
  /-- The entries, latest first. -/
  entries : List CacheEntry
  /-- The number of texts read so far. -/
  readCount : Nat

/-- An answer, the state after it, and what there is to report. -/
structure Reply (σ α : Type) where
  /-- The answer. -/
  answer : α
  /-- The state afterwards. -/
  state : σ
  /-- The reports, in order. -/
  log : List LogRecord

namespace PatternCache

/-- A cache that has read nothing. -/
def empty (options : PatternOptions) : PatternCache := ⟨options, [], 0⟩

/-- The number of texts in the cache. -/
def length (c : PatternCache) : Nat := c.entries.length

/-- Whether the cache holds nothing. -/
def isEmpty (c : PatternCache) : Bool := c.entries.isEmpty

/-- The entry of a text. -/
def find? (c : PatternCache) (text : List Char) : Option CacheEntry :=
  c.entries.find? (·.text == text)

/-- The entry of a text, which is read if there is none. -/
def get (c : PatternCache) (text : List Char) : Reply PatternCache CacheEntry :=
  match c.find? text with
  | some entry => ⟨entry, c, []⟩
  | none =>
    let entry : CacheEntry := ⟨text, Pattern.parse c.options text, c.readCount⟩
    ⟨entry, { c with entries := entry :: c.entries, readCount := c.readCount + 1 },
      [.cacheMiss text]⟩

/-- The cache without its entries. -/
def clear (c : PatternCache) : PatternCache := { c with entries := [] }

/-- The entries for several texts, looked up in turn. -/
def getAll (c : PatternCache) : List (List Char) → Reply PatternCache (List CacheEntry)
  | [] => ⟨[], c, []⟩
  | text :: rest =>
    let first := c.get text
    let later := first.state.getAll rest
    ⟨first.answer :: later.answer, later.state, first.log ++ later.log⟩

end PatternCache

end PathRouting
