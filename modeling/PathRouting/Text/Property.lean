import PathRouting.Text.Category
import PathRouting.Text.Table.Property

/-!
# Classes of characters

The classes that names and blanks are made of, for all of Unicode.

## Main definitions

* `isAlphabetic`, `isNumeric`, `isAlphanumeric` — what names are made of.
* `isWhiteSpace`, `isBlank` — white space, and a text of nothing else.
* `isHexDigit`, `hexValue` — the digits of escapes, which are ASCII only.
-/

namespace PathRouting.Text

/-- Whether a character is alphabetic. -/
def isAlphabetic (c : Char) : Bool :=
  Category.anyContains (.letterNumber :: Category.letters) c
    || Spans.contains Table.otherAlphabetic c.toNat

/-- Whether a character is a numeral of any kind. -/
def isNumeric (c : Char) : Bool := Category.anyContains Category.numbers c

/-- Whether a character is alphabetic or a numeral. -/
def isAlphanumeric (c : Char) : Bool := isAlphabetic c || isNumeric c

/-- Whether a character is white space. -/
def isWhiteSpace (c : Char) : Bool := Spans.contains Table.whiteSpace c.toNat

/-- Whether a text holds nothing but white space. -/
def isBlank (s : List Char) : Bool := s.all isWhiteSpace

/-- The value of a hexadecimal digit. -/
def hexValue? (c : Char) : Option Nat :=
  if '0' ≤ c ∧ c ≤ '9' then some (c.toNat - '0'.toNat)
  else if 'a' ≤ c ∧ c ≤ 'f' then some (c.toNat - 'a'.toNat + 10)
  else if 'A' ≤ c ∧ c ≤ 'F' then some (c.toNat - 'A'.toNat + 10)
  else none

/-- Whether a character is a hexadecimal digit. -/
def isHexDigit (c : Char) : Bool := (hexValue? c).isSome

@[simp] theorem isBlank_nil : isBlank [] = true := rfl

@[simp] theorem isBlank_cons (c : Char) (s : List Char) :
    isBlank (c :: s) = (isWhiteSpace c && isBlank s) := rfl

end PathRouting.Text
