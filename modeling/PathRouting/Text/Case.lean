import PathRouting.Text.Table.Case

/-!
# Case

Comparing texts without case lowers every character, where one capital, the dotted `İ`, becomes
two characters.

## Main definitions

* `lowercase`, `lowercaseAll` — the full lowercase form of a character and of a text.
-/

namespace PathRouting.Text

/-- The character with a given number, as long as it is one. -/
def charOf (n : Nat) : Char := Char.ofNat n

/-- The lowercase form of a character. -/
def lowercase (c : Char) : List Char :=
  if c = 'İ' then ['i', '\u0307'] else [charOf (Shifts.apply Table.lowercase c.toNat)]

/-- The lowercase form of a text, character by character. -/
def lowercaseAll (s : List Char) : List Char := s.flatMap lowercase

@[simp] theorem charOf_toNat (c : Char) : charOf c.toNat = c := Char.ofNat_toNat c

@[simp] theorem lowercaseAll_nil : lowercaseAll [] = [] := rfl

@[simp] theorem lowercaseAll_cons (c : Char) (s : List Char) :
    lowercaseAll (c :: s) = lowercase c ++ lowercaseAll s := rfl

end PathRouting.Text
