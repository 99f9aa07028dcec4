import PathRouting.Alternatives
import PathRouting.Regex.Task

/-!
# Searching with a regular expression

A search goes through the tasks that are left, prefers the first of two ways at every choice,
and never comes to the same tasks at the same place twice: what failed there once fails again,
and what is still being tried there would only go round in a circle.  So it ends, and the
match it finds is the one that the preferences single out.

## Main definitions

* `Slots`, `Slots.groupText?` — where groups opened and closed, and the text of a group.
* `Place`, `places` — a place in a text, and all of them.
* `Task.ways` — what a task leads to at a place.
* `explore` — the search from one place.
* `search` — the leftmost match in a text.
-/

namespace PathRouting.Regex

/-- The two ends of a group. -/
inductive GroupEnd
  /-- Where it opened. -/
  | opened
  /-- Where it closed. -/
  | closed
  deriving DecidableEq, Repr

/-- Ends of groups with the number of characters that were left there, latest first. -/
abbrev Slots := List ((Nat × GroupEnd) × Nat)

/-- The text of a group after a match within `input`, if the group took part. -/
def Slots.groupText? (slots : Slots) (input : List Char) (index : Nat) : Option (List Char) :=
  match slots.lookup (index, .opened), slots.lookup (index, .closed) with
  | some atOpen, some atClose =>
    some ((input.drop (input.length - atOpen)).take (atOpen - atClose))
  | _, _ => none

/-- A place in a text. -/
structure Place where
  /-- The character before it; there is none at the start of the text. -/
  before : Option Char
  /-- The characters ahead. -/
  rest : List Char
  /-- The number of characters ahead. -/
  left : Nat := rest.length
  /-- The count is that of the characters ahead. -/
  left_eq : left = rest.length := by rfl
  deriving DecidableEq, Repr

namespace Place

/-- The start of a text. -/
def start (input : List Char) : Place := ⟨none, input, input.length, rfl⟩

/-- The character after a place; there is none at the end of the text. -/
def after (place : Place) : Option Char := place.rest.head?

/-- The place after the next character, if there is one and it satisfies `p`. -/
def step? (p : Char → Bool) : Place → Option Place
  | ⟨_, [], _, _⟩ => none
  | ⟨_, c :: rest, left, h⟩ =>
    if p c then some { before := some c, rest, left := left - 1, left_eq := by simp [h] }
    else none

/-- The place after a text that lies ahead. -/
def skip? : List Char → Place → Option Place
  | [], place => some place
  | c :: text, place => (place.step? (· == c)).bind (skip? text)

/-- A place, and all places after it. -/
def onwards (before : Option Char) :
    (rest : List Char) → (left : Nat) → left = rest.length → List Place
  | [], left, h => [⟨before, [], left, h⟩]
  | c :: rest, left, h =>
    ⟨before, c :: rest, left, h⟩ :: onwards (some c) rest (left - 1) (by simp [h])

end Place

/-- All places of a text. -/
def places (input : List Char) : List Place := Place.onwards none input input.length rfl

/-- What replaces a task that neither consumes nor asserts anything, preferred ways first. -/
def Task.choices (k : List Task) : Task → List (List Task)
  | .close _ => [k]
  | .loop e greedy =>
    let again := .run e :: .loop e greedy :: k
    if greedy then [again, k] else [k, again]
  | .run e =>
    match e with
    | .group index body => [.run body :: .close index :: k]
    | .seq a b => [.run a :: .run b :: k]
    | .alt a b => [.run a :: k, .run b :: k]
    | .iter body (min + 1) max greedy =>
      match min, max with
      -- the last round that has to be made is followed by those that need not
      | 0, Option.none => [.run body :: .loop body greedy :: k]
      | _, _ => [.run body :: .run (.iter body min (max.map (· - 1)) greedy) :: k]
    | .iter body 0 max greedy =>
      let ways (once : List Task) := if greedy then [once, k] else [k, once]
      match max with
      | some 0 => [k]
      | some (m + 1) => ways (.run body :: .run (.iter body 0 (some m) greedy) :: k)
      | Option.none =>
        -- a body that can match nothing is entered once before the loop, so that an empty round
        -- ends the loop with the groups that the round recorded
        if body.consumes then [.loop body greedy :: k]
        else ways (.run body :: .loop body greedy :: k)
    | _ => [k]

/-- What a task leads to at a place: the tasks that are left after it and the place where they
are, preferred ways first. -/
def Task.ways (k : List Task) (place : Place) : Task → List (List Task × Place)
  | .run (.set s) => (place.step? s.contains).toList.map (k, ·)
  | .run (.literal t) => (place.skip? t).toList.map (k, ·)
  | .run (.look l) => if l.holds place.before place.after then [(k, place)] else []
  | task => (task.choices k).map (·, place)

/-- The slots after a task was taken up with `left` characters left. -/
def Task.record (slots : Slots) (left : Nat) : Task → Slots
  | .close index => ((index, .closed), left) :: slots
  | .run (.group index _) => ((index, .opened), left) :: slots
  | _ => slots

/-- The search for a way to do all tasks from a place on.  Every task counts against `fuel`; the
result comes with all that was met on the way. -/
def explore : Nat → List Task → Place → Slots → Seen → Option Slots × Seen
  | 0, _, _, _, seen => (none, seen)
  | _ + 1, [], _, slots, seen => (some slots, seen)
  | fuel + 1, task :: k, place, slots, seen =>
    -- what was met before has failed, or is still being tried and would come round to itself
    if seen.has place.left (task :: k) then (none, seen)
    else
      let seen := seen.add place.left (task :: k)
      let slots := task.record slots place.left
      firstWay (fun way => explore fuel way.1 way.2 slots) (task.ways k place) seen

/-- The tasks a search can meet in a text are fewer than this. -/
def fuelFor (e : Expr) (length : Nat) : Nat := (e.weight + 2) * (length + 1) + 1

/-- The leftmost match in a text: the earliest start wins.  What was met from a start without a
match leads to none from a later start either. -/
def search (e : Expr) (input : List Char) : Option Slots :=
  let fuel := fuelFor e input.length
  (firstWay (fun place => explore fuel [.run e] place []) (places input)
    (Seen.none input.length)).1

end PathRouting.Regex
