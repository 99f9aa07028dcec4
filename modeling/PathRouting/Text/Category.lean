import PathRouting.Text.Table.Letter
import PathRouting.Text.Table.Mark
import PathRouting.Text.Table.Symbol

/-!
# General categories

Every character has one general category.  The characters that no table holds are the
unassigned ones.

## Main definitions

* `Category` — the categories, and `Category.contains` their members.
* `Category.letters`, `Category.numbers`, … — the unions that have a name of their own.
-/

namespace PathRouting.Text

/-- A general category of Unicode. -/
inductive Category
  /-- `Lu`: capital letters. -/
  | uppercaseLetter
  /-- `Ll`: small letters. -/
  | lowercaseLetter
  /-- `Lt`: titlecase letters. -/
  | titlecaseLetter
  /-- `Lm`: modifier letters. -/
  | modifierLetter
  /-- `Lo`: letters without case, such as ideographs. -/
  | otherLetter
  /-- `Mn`: marks that take no space of their own. -/
  | nonspacingMark
  /-- `Mc`: marks that take space. -/
  | spacingMark
  /-- `Me`: marks that enclose a character. -/
  | enclosingMark
  /-- `Nd`: decimal digits. -/
  | decimalNumber
  /-- `Nl`: letters used as numbers. -/
  | letterNumber
  /-- `No`: other numerals, such as fractions. -/
  | otherNumber
  /-- `Pc`: punctuation that joins words. -/
  | connectorPunctuation
  /-- `Pd`: dashes. -/
  | dashPunctuation
  /-- `Ps`: opening brackets. -/
  | openPunctuation
  /-- `Pe`: closing brackets. -/
  | closePunctuation
  /-- `Pi`: opening quotation marks. -/
  | initialPunctuation
  /-- `Pf`: closing quotation marks. -/
  | finalPunctuation
  /-- `Po`: other punctuation. -/
  | otherPunctuation
  /-- `Sm`: mathematical signs. -/
  | mathSymbol
  /-- `Sc`: currency signs. -/
  | currencySymbol
  /-- `Sk`: modifier signs. -/
  | modifierSymbol
  /-- `So`: other signs. -/
  | otherSymbol
  /-- `Zs`: spaces. -/
  | spaceSeparator
  /-- `Zl`: the line separator. -/
  | lineSeparator
  /-- `Zp`: the paragraph separator. -/
  | paragraphSeparator
  /-- `Cc`: control characters. -/
  | control
  /-- `Cf`: format characters. -/
  | format
  /-- `Co`: characters for private use. -/
  | privateUse
  deriving DecidableEq, Repr

namespace Category

/-- The code points of a category. -/
def spans : Category → List Span
  | .uppercaseLetter => Table.uppercaseLetter
  | .lowercaseLetter => Table.lowercaseLetter
  | .titlecaseLetter => Table.titlecaseLetter
  | .modifierLetter => Table.modifierLetter
  | .otherLetter => Table.otherLetter
  | .nonspacingMark => Table.nonspacingMark
  | .spacingMark => Table.spacingMark
  | .enclosingMark => Table.enclosingMark
  | .decimalNumber => Table.decimalNumber
  | .letterNumber => Table.letterNumber
  | .otherNumber => Table.otherNumber
  | .connectorPunctuation => Table.connectorPunctuation
  | .dashPunctuation => Table.dashPunctuation
  | .openPunctuation => Table.openPunctuation
  | .closePunctuation => Table.closePunctuation
  | .initialPunctuation => Table.initialPunctuation
  | .finalPunctuation => Table.finalPunctuation
  | .otherPunctuation => Table.otherPunctuation
  | .mathSymbol => Table.mathSymbol
  | .currencySymbol => Table.currencySymbol
  | .modifierSymbol => Table.modifierSymbol
  | .otherSymbol => Table.otherSymbol
  | .spaceSeparator => Table.spaceSeparator
  | .lineSeparator => Table.lineSeparator
  | .paragraphSeparator => Table.paragraphSeparator
  | .control => Table.control
  | .format => Table.format
  | .privateUse => Table.privateUse

/-- Whether a character belongs to the category. -/
def contains (k : Category) (c : Char) : Bool := Spans.contains k.spans c.toNat

/-- Whether a character belongs to one of the categories. -/
def anyContains (ks : List Category) (c : Char) : Bool := ks.any (·.contains c)

/-- The categories of letters. -/
def letters : List Category :=
  [.uppercaseLetter, .lowercaseLetter, .titlecaseLetter, .modifierLetter, .otherLetter]

/-- The categories of cased letters. -/
def casedLetters : List Category := [.uppercaseLetter, .lowercaseLetter, .titlecaseLetter]

/-- The categories of marks. -/
def marks : List Category := [.nonspacingMark, .spacingMark, .enclosingMark]

/-- The categories of numerals. -/
def numbers : List Category := [.decimalNumber, .letterNumber, .otherNumber]

/-- The categories of punctuation. -/
def punctuation : List Category :=
  [.connectorPunctuation, .dashPunctuation, .openPunctuation, .closePunctuation,
    .initialPunctuation, .finalPunctuation, .otherPunctuation]

/-- The categories of signs. -/
def symbols : List Category := [.mathSymbol, .currencySymbol, .modifierSymbol, .otherSymbol]

/-- The categories of separators. -/
def separators : List Category := [.spaceSeparator, .lineSeparator, .paragraphSeparator]

/-- The categories of assigned characters. -/
def assigned : List Category :=
  letters ++ marks ++ numbers ++ punctuation ++ symbols ++ separators
    ++ [.control, .format, .privateUse]

end Category

end PathRouting.Text
