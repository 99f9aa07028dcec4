import PathRouting.Regex.Expr

/-!
# Expressions in their simplest form

The parts of an expression are put together so that what could be written more simply is written
so: rows and alternatives are flat, characters in a row are one literal, alternative characters
are one set, and what all alternatives start with stands in front of them.  How much room an
expression takes is counted on this form.

## Main definitions

* `Expr.ofSet`, `Expr.repeated` — one character of a set, and repetition.
* `Expr.parts`, `Expr.sequence` — expressions in a row.
* `Expr.branches`, `Expr.choice` — alternatives.
-/

namespace PathRouting.Regex.Expr

/-- One character of a set. -/
def ofSet (s : CharSet) : Expr :=
  match s.single? with
  | some c => literal [c]
  | none => set s

/-- Repetition.  What matches only the empty text need not be repeated, no repetition at all is
the empty text whatever the body holds, and exactly one is the body. -/
def repeated (e : Expr) (min : Nat) (max : Option Nat) (greedy : Bool) : Expr :=
  let once := e.isEmptyOnly
  let min := if once then Nat.min min 1 else min
  let max := if once then some ((max.map (Nat.min 1)).getD 1) else max
  if min = 0 ∧ max = some 0 then empty
  else if min = 1 ∧ max = some 1 then e
  else iter e min max greedy

/-! ### Rows -/

/-- The expressions that an expression is a row of. -/
def parts : Expr → List Expr
  | empty => []
  | seq a b => a.parts ++ b.parts
  | e => [e]

/-- Literals next to each other as one. -/
def mergeLiterals : List Expr → List Expr
  | [] => []
  | literal s :: rest =>
    match mergeLiterals rest with
    | literal t :: more => literal (s ++ t) :: more
    | merged => literal s :: merged
  | e :: rest => e :: mergeLiterals rest

/-- Expressions nested to the right. -/
def row : List Expr → Expr
  | [] => empty
  | [e] => e
  | e :: rest => seq e (row rest)

/-- One after the other, for any number of expressions. -/
def sequence (es : List Expr) : Expr := row (mergeLiterals (es.flatMap parts))

/-! ### Alternatives -/

/-- The expressions that an expression is a choice of. -/
def branches : Expr → List Expr
  | alt a b => a.branches ++ b.branches
  | e => [e]

/-- Alternatives nested to the right. -/
def oneOf : List Expr → Expr
  | [] => empty
  | [e] => e
  | e :: rest => alt e (oneOf rest)

/-- The character of a literal that has just one. -/
def char? : Expr → Option Char
  | literal [c] => some c
  | _ => none

/-- The set of an expression for one character of it. -/
def set? : Expr → Option CharSet
  | set s => some s
  | _ => none

/-- What two rows start with. -/
def common : List Expr → List Expr → List Expr
  | a :: as, b :: bs => if a = b then a :: common as bs else []
  | _, _ => []

/-- What several rows start with, all of them of more than one part. -/
def shared (rows : List (List Expr)) : List Expr :=
  match rows with
  | [] => []
  | first :: rest => if rows.all (1 < ·.length) then rest.foldl common first else []

/-- Alternatives, the first of them preferred; `fuel` bounds how often they are found to start
alike. -/
def choiceWithin : Nat → List Expr → Expr
  | 0, es => oneOf es
  | fuel + 1, es =>
    match es with
    | [e] => e
    | es =>
      match es.mapM char?, es.mapM set? with
      | some chars, _ => ofSet (CharSet.unions (chars.map .exactly))
      | none, some sets => ofSet (CharSet.unions sets)
      | none, none =>
        match shared (es.map parts) with
        | [] => oneOf es
        | front =>
          let ends := es.map fun e => sequence (e.parts.drop front.length)
          sequence (front ++ [choiceWithin fuel (ends.flatMap branches)])

/-- Alternatives, the first of them preferred. -/
def choice (es : List Expr) : Expr :=
  choiceWithin ((es.map weight).foldl (· + ·) 1) (es.flatMap branches)

/-! ### Lemmas -/

@[simp] theorem sequence_nil : sequence [] = empty := rfl

@[simp] theorem mergeLiterals_nil : mergeLiterals [] = [] := rfl

@[simp] theorem row_singleton (e : Expr) : row [e] = e := rfl

@[simp] theorem oneOf_singleton (e : Expr) : oneOf [e] = e := rfl

end PathRouting.Regex.Expr
