import PathRouting.Regex.CharSet
import PathRouting.Text.Category
import PathRouting.Text.Table.Property

/-!
# Classes with a name

The sets of characters that expressions call by name: digits, white space and words, and the
classes of ASCII.  Expressions know the characters of Unicode 16, so what later versions have added
is in none of the classes.

## Main definitions

* `CharSet.categories`, `CharSet.alphabetic`, `CharSet.whiteSpace`, `CharSet.word` — classes of
  all scripts.
* `CharSet.asciiWord`, `CharSet.asciiSpace` — the same in ASCII.
* `CharSet.ofAsciiName?` — classes of ASCII by name.
-/

namespace PathRouting.Regex.CharSet

open Text

/-! ### Classes of all scripts -/

/-- The characters of a table that Unicode 16 has. -/
def known (spans : List Span) : CharSet := diff (ofSpans spans) (ofSpans Table.added)

/-- The characters of some general categories. -/
def categories (ks : List Category) : CharSet := unions (ks.map fun k => known k.spans)

/-- The alphabetic characters. -/
def alphabetic : CharSet :=
  union (categories (.letterNumber :: Category.letters)) (known Table.otherAlphabetic)

/-- White space. -/
def whiteSpace : CharSet := ofSpans Table.whiteSpace

/-- The characters of words: alphabetic ones, marks, decimal digits, connectors such as `_`, and
joiners. -/
def word : CharSet :=
  unions [alphabetic, categories (.decimalNumber :: .connectorPunctuation :: Category.marks),
    ofSpans Table.joinControl]

/-! ### Classes of ASCII -/

/-- The ASCII characters. -/
def ascii : CharSet := range '\x00' '\x7F'

/-- The ASCII letters, letters of one set and the other. -/
def asciiLetters : CharSet := union (range 'A' 'Z') (range 'a' 'z')

/-- The ASCII letters, digits and the underscore. -/
def asciiWord : CharSet := unions [asciiLetters, range '0' '9', exactly '_']

/-- The white space of ASCII. -/
def asciiSpace : CharSet := union (range '\t' '\r') (exactly ' ')

/-- The classes of ASCII that are written `[:name:]`. -/
def ofAsciiName? (name : List Char) : Option CharSet :=
  [("alnum", union asciiLetters (range '0' '9')), ("alpha", asciiLetters), ("ascii", ascii),
    ("blank", union (exactly '\t') (exactly ' ')),
    ("cntrl", union (range '\x00' '\x1F') (exactly '\x7F')), ("digit", range '0' '9'),
    ("graph", range '!' '~'), ("lower", range 'a' 'z'), ("print", range ' ' '~'),
    ("punct", unions [range '!' '/', range ':' '@', range '[' (Char.ofNat 0x60),
      range (Char.ofNat 0x7B) '~']),
    ("space", asciiSpace), ("upper", range 'A' 'Z'), ("word", asciiWord),
    ("xdigit", unions [range '0' '9', range 'A' 'F', range 'a' 'f'])].lookup
      (String.ofList name)

end PathRouting.Regex.CharSet
