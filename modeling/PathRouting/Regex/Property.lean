import PathRouting.Regex.ClassName
import PathRouting.Text.Table.Age
import PathRouting.Text.Table.Binary
import PathRouting.Text.Table.Break
import PathRouting.Text.Table.Cased
import PathRouting.Text.Table.Emoji
import PathRouting.Text.Table.Script

/-!
# Properties of characters by name

The properties of Unicode that expressions call by name, as in `\p{Greek}`.  A general category, a
script and a property that characters have or do not have go by their own names; these and the age
of a character, the scripts that use it, and where a text breaks around it can be named as the value
of a property, as in `\p{Script_Extensions=Greek}`.

Most properties follow from general categories, but for a few characters that are added or left
out.  So a property is given by categories and tables.

## Main definitions

* `CharSet.normaliseName` — a name without what makes no difference.
* `NamedSet` — a property by its names, categories and tables.
* `binaryProperties`, `clusterBreaks`, `wordBreaks`, `sentenceBreaks` — the properties.
* `CharSet.ofScript?`, `CharSet.ofScriptExtensions?`, `CharSet.ofAge?` — those that have tables of
  their own.
* `CharSet.ofProperty?`, `CharSet.ofPropertyValue?` — the set that a name stands for.
-/

namespace PathRouting.Regex

open Text

/-! ### General categories -/

namespace CharSet

/-- The names of the general categories and of their unions, normalised. -/
def categoryNames : List (List String × List Category) :=
  [(["l", "letter"], Category.letters), (["lc", "casedletter"], Category.casedLetters),
    (["lu", "uppercaseletter"], [.uppercaseLetter]),
    (["ll", "lowercaseletter"], [.lowercaseLetter]),
    (["lt", "titlecaseletter"], [.titlecaseLetter]),
    (["lm", "modifierletter"], [.modifierLetter]), (["lo", "otherletter"], [.otherLetter]),
    (["m", "mark", "combiningmark"], Category.marks),
    (["mn", "nonspacingmark"], [.nonspacingMark]), (["mc", "spacingmark"], [.spacingMark]),
    (["me", "enclosingmark"], [.enclosingMark]), (["n", "number"], Category.numbers),
    (["nd", "decimalnumber", "digit"], [.decimalNumber]),
    (["nl", "letternumber"], [.letterNumber]), (["no", "othernumber"], [.otherNumber]),
    (["p", "punctuation", "punct"], Category.punctuation),
    (["pc", "connectorpunctuation"], [.connectorPunctuation]),
    (["pd", "dashpunctuation"], [.dashPunctuation]),
    (["ps", "openpunctuation"], [.openPunctuation]),
    (["pe", "closepunctuation"], [.closePunctuation]),
    (["pi", "initialpunctuation"], [.initialPunctuation]),
    (["pf", "finalpunctuation"], [.finalPunctuation]),
    (["po", "otherpunctuation"], [.otherPunctuation]), (["s", "symbol"], Category.symbols),
    (["sm", "mathsymbol"], [.mathSymbol]), (["sc", "currencysymbol"], [.currencySymbol]),
    (["sk", "modifiersymbol"], [.modifierSymbol]), (["so", "othersymbol"], [.otherSymbol]),
    (["z", "separator"], Category.separators), (["zs", "spaceseparator"], [.spaceSeparator]),
    (["zl", "lineseparator"], [.lineSeparator]),
    (["zp", "paragraphseparator"], [.paragraphSeparator]), (["cc", "control", "cntrl"], [.control]),
    (["cf", "format"], [.format]), (["co", "privateuse"], [.privateUse])]

/-- The set of a general category or of a union of them. -/
def ofCategoryName? (name : String) : Option CharSet :=
  if name = "any" then some any
  else if name = "ascii" then some ascii
  else if name = "assigned" then some (categories Category.assigned)
  else if name = "cn" ∨ name = "unassigned" then some (compl (categories Category.assigned))
  else if name = "c" ∨ name = "other" then
    some (union (categories [.control, .format, .privateUse])
      (compl (categories Category.assigned)))
  else (categoryNames.find? (·.1.contains name)).map fun e => categories e.2

end CharSet

/-! ### Categories and tables -/

/-- A set of characters with a name: those of some general categories and of some tables, but not
those of some others. -/
structure NamedSet where
  /-- Its names, normalised. -/
  names : List String
  /-- The categories whose characters it has. -/
  categories : List Category
  /-- Tables of what it has besides. -/
  also : List (List Span)
  /-- Tables of what it does not have. -/
  except : List (List Span)

namespace NamedSet

/-- The characters of the set. -/
def members (s : NamedSet) : CharSet :=
  .diff (.union (.categories s.categories) (.unions (s.also.map .ofSpans)))
    (.unions (s.except.map .ofSpans))

/-- The set with one table only. -/
def ofTable (names : List String) (spans : List Span) : NamedSet := ⟨names, [], [spans], []⟩

/-- The characters of the set of the given name. -/
def find? (sets : List NamedSet) (name : String) : Option CharSet :=
  (sets.find? (·.names.contains name)).map members

end NamedSet

open NamedSet Table

/-- The marks that extend the character before them. -/
def extendingMarks : List Category := [.nonspacingMark, .enclosingMark]

/-- The categories of letters, with the letters used as numbers. -/
def letterLike : List Category := .letterNumber :: Category.letters

/-- The categories of what identifiers go on with. -/
def wordLike : List Category :=
  letterLike ++ [.nonspacingMark, .spacingMark, .decimalNumber, .connectorPunctuation]

/-- The categories of what is shown on its own. -/
def shownCategories : List Category :=
  Category.letters ++ Category.numbers ++ Category.punctuation ++ Category.symbols
    ++ [.spacingMark, .spaceSeparator]

/-- One character as a table. -/
def only (n : Nat) : List Span := [⟨n, n, 1⟩]

/-- The properties that characters have or do not have. -/
def binaryProperties : List NamedSet :=
  [ofTable ["ahex", "asciihexdigit"] asciiHexDigit,
   ⟨["alpha", "alphabetic"], letterLike, [otherAlphabetic], [added]⟩,
   ofTable ["bidic", "bidicontrol"] bidiControl,
   ofTable ["bidim", "bidimirrored"] bidiMirrored,
   ⟨["cased"], Category.casedLetters, [otherUppercase, otherLowercase], []⟩,
   ⟨["ci", "caseignorable"], extendingMarks ++ [.format, .modifierLetter, .modifierSymbol],
    [midLetter, midNumberLetter, only 0x27], []⟩,
   ⟨["cwcf", "changeswhencasefolded"], [], [changesWhenLowercased, foldedSmall],
    [unfoldedCapital]⟩,
   ⟨["cwcm", "changeswhencasemapped"], [], [changesWhenLowercased, changesWhenUppercased], []⟩,
   ofTable ["cwl", "changeswhenlowercased"] changesWhenLowercased,
   ⟨["cwt", "changeswhentitlecased"], [], [changesWhenUppercased, capitalPair],
    [titlecaseLetter, georgianSmall]⟩,
   ofTable ["cwu", "changeswhenuppercased"] changesWhenUppercased,
   ofTable ["dash"] dash,
   ⟨["di", "defaultignorablecodepoint"], [.format], [otherDefaultIgnorable, variationSelector],
    [prependedConcatenationMark, shownFormat]⟩,
   ofTable ["dep", "deprecated"] deprecated,
   ofTable ["dia", "diacritic"] diacritic,
   ofTable ["ebase", "emojimodifierbase"] emojiModifierBase,
   ofTable ["ecomp", "emojicomponent"] emojiComponent,
   ofTable ["emod", "emojimodifier"] emojiModifier,
   ofTable ["emoji"] emoji,
   ofTable ["epres", "emojipresentation"] emojiPresentation,
   ofTable ["ext", "extender"] extender,
   ofTable ["extpict", "extendedpictographic"] extendedPictographic,
   ⟨["grbase", "graphemebase"], shownCategories, [], [otherGraphemeExtend]⟩,
   ⟨["grext", "graphemeextend"], extendingMarks, [otherGraphemeExtend], []⟩,
   ofTable ["grlink", "graphemelink"] graphemeLink,
   ofTable ["hex", "hexdigit"] hexDigit,
   ofTable ["hyphen"] hyphen,
   ⟨["idc", "idcontinue"], wordLike, [otherIdStart, otherIdContinue],
    [patternSyntax, patternWhiteSpace]⟩,
   ofTable ["idcompatmathcontinue"] idCompatMathContinue,
   ofTable ["idcompatmathstart"] idCompatMathStart,
   ⟨["ids", "idstart"], letterLike, [otherIdStart], [patternSyntax, patternWhiteSpace]⟩,
   ofTable ["idsb", "idsbinaryoperator"] idsBinaryOperator,
   ofTable ["idst", "idstrinaryoperator"] idsTrinaryOperator,
   ofTable ["idsu", "idsunaryoperator"] idsUnaryOperator,
   ofTable ["ideo", "ideographic"] ideographic,
   ofTable ["joinc", "joincontrol"] joinControl,
   ofTable ["loe", "logicalorderexception"] logicalOrderException,
   ⟨["lower", "lowercase"], [.lowercaseLetter], [otherLowercase], []⟩,
   ⟨["math"], [.mathSymbol], [otherMath], []⟩,
   ofTable ["mcm", "modifiercombiningmark"] modifierCombiningMark,
   ofTable ["nchar", "noncharactercodepoint"] noncharacter,
   ⟨["oalpha", "otheralphabetic"], [], [otherAlphabetic], [added]⟩,
   ofTable ["odi", "otherdefaultignorablecodepoint"] otherDefaultIgnorable,
   ofTable ["ogrext", "othergraphemeextend"] otherGraphemeExtend,
   ofTable ["oidc", "otheridcontinue"] otherIdContinue,
   ofTable ["oids", "otheridstart"] otherIdStart,
   ofTable ["olower", "otherlowercase"] otherLowercase,
   ofTable ["omath", "othermath"] otherMath,
   ofTable ["oupper", "otheruppercase"] otherUppercase,
   ofTable ["patsyn", "patternsyntax"] patternSyntax,
   ofTable ["patws", "patternwhitespace"] patternWhiteSpace,
   ofTable ["pcm", "prependedconcatenationmark"] prependedConcatenationMark,
   ofTable ["qmark", "quotationmark"] quotationMark,
   ofTable ["radical"] radical,
   ofTable ["ri", "regionalindicator"] regionalIndicator,
   ofTable ["sd", "softdotted"] softDotted,
   ofTable ["space", "wspace", "whitespace"] Table.whiteSpace,
   ofTable ["sterm", "sentenceterminal"] sentenceTerminal,
   ofTable ["term", "terminalpunctuation"] terminalPunctuation,
   ofTable ["uideo", "unifiedideograph"] unifiedIdeograph,
   ⟨["upper", "uppercase"], [.uppercaseLetter], [otherUppercase], []⟩,
   ofTable ["vs", "variationselector"] variationSelector,
   ⟨["xidc", "xidcontinue"], wordLike, [otherIdStart, otherIdContinue],
    [patternSyntax, patternWhiteSpace, incompatible]⟩,
   ⟨["xids", "xidstart"], letterLike, [otherIdStart],
    [patternSyntax, patternWhiteSpace, incompatible, incompatibleStart]⟩]

/-- The kinds of characters by which a text falls into what a reader sees as characters. -/
def clusterBreaks : List NamedSet :=
  [⟨["cn", "control"], [.control, .format, .lineSeparator, .paragraphSeparator],
    [reservedIgnorable],
    [only 0xD, only 0xA, joinControl, otherGraphemeExtend, prependedConcatenationMark]⟩,
   ofTable ["cr"] (only 0xD),
   ⟨["ex", "extend"], extendingMarks, [otherGraphemeExtend, emojiModifier], []⟩,
   ofTable ["l"] hangulLead,
   ofTable ["lf"] (only 0xA),
   ofTable ["lv"] hangulOpenSyllable,
   ⟨["lvt"], [], [hangulSyllable], [hangulOpenSyllable]⟩,
   ⟨["pp", "prepend"], [], [prependedConcatenationMark, prependedLetter], []⟩,
   ofTable ["ri", "regionalindicator"] regionalIndicator,
   ⟨["sm", "spacingmark"], [.spacingMark], [spacingLetter], [otherGraphemeExtend, separateMark]⟩,
   ofTable ["t"] hangulTrail,
   ofTable ["v"] hangulVowel,
   ofTable ["zwj"] (only 0x200D)]

/-- The kinds of characters by which a text falls into words. -/
def wordBreaks : List NamedSet :=
  [⟨["le", "aletter"], letterLike, [otherWordLetter],
    [ideographic, katakana, hebrewLetter, unspacedLetter]⟩,
   ofTable ["cr"] (only 0xD),
   ofTable ["dq", "doublequote"] (only 0x22),
   ⟨["extend"], Category.marks, [otherGraphemeExtend, emojiModifier], []⟩,
   ⟨["ex", "extendnumlet"], [.connectorPunctuation], [only 0x202F], []⟩,
   ⟨["fo", "format"], [.format], [],
    [prependedConcatenationMark, otherGraphemeExtend, joinControl, only 0x200B]⟩,
   ofTable ["hl", "hebrewletter"] hebrewLetter,
   ofTable ["ka", "katakana"] katakana,
   ofTable ["lf"] (only 0xA),
   ofTable ["mb", "midnumlet"] midNumberLetter,
   ofTable ["ml", "midletter"] midLetter,
   ofTable ["mn", "midnum"] midNumber,
   ofTable ["nl", "newline"] wordNewline,
   ⟨["nu", "numeric"], [.decimalNumber], [numberSign, otherNumeric], []⟩,
   ofTable ["ri", "regionalindicator"] regionalIndicator,
   ofTable ["sq", "singlequote"] (only 0x27),
   ⟨["wsegspace"], [.spaceSeparator], [], [noBreakSpace]⟩,
   ofTable ["zwj"] (only 0x200D)]

/-- The kinds of characters by which a text falls into sentences. -/
def sentenceBreaks : List NamedSet :=
  [ofTable ["at", "aterm"] sentenceDot,
   ⟨["cl", "close"], [.openPunctuation, .closePunctuation, .initialPunctuation, .finalPunctuation],
    [otherClosing], []⟩,
   ofTable ["cr"] (only 0xD),
   ⟨["ex", "extend"], Category.marks, [otherGraphemeExtend, joinControl], []⟩,
   ⟨["fo", "format"], [.format], [], [numberSign, otherGraphemeExtend, joinControl]⟩,
   ⟨["le", "oletter"], [.modifierLetter, .otherLetter, .letterNumber],
    [georgianSmall, georgianCapital, only 0x5F3],
    [otherUppercase, otherLowercase, otherGraphemeExtend]⟩,
   ofTable ["lf"] (only 0xA),
   ⟨["lo", "lower"], [.lowercaseLetter], [otherLowercase], [georgianSmall, nonspacingMark]⟩,
   ⟨["nu", "numeric"], [.decimalNumber], [numberSign, otherNumeric, only 0x66C], []⟩,
   ofTable ["sc", "scontinue"] sentenceContinue,
   ofTable ["se", "sep"] paragraphEnd,
   ⟨["sp"], [], [Table.whiteSpace], [paragraphEnd, only 0xD, only 0xA]⟩,
   ⟨["st", "sterm"], [], [sentenceTerminal], [sentenceDot]⟩,
   ⟨["up", "upper"], [.uppercaseLetter, .titlecaseLetter], [otherUppercase], [georgianCapital]⟩]

/-! ### Scripts and ages -/

namespace CharSet

/-- The characters that a script uses.  A shared character that other scripts are known to use is
left to these. -/
def usedBy (s : Script) : CharSet :=
  let own := ofSpans s.spans
  if s.shared then diff own (unions (Script.all.map fun other => ofSpans other.borrowed))
  else union own (ofSpans s.borrowed)

/-- The script of the given name. -/
def script? (name : String) : Option Script := Script.all.find? (·.names.contains name)

/-- The characters that belong to the script of the given name. -/
def ofScript? (name : String) : Option CharSet := (script? name).map fun s => ofSpans s.spans

/-- The characters that the script of the given name uses. -/
def ofScriptExtensions? (name : String) : Option CharSet := (script? name).map usedBy

/-- The code points that were assigned in the version of the given name or before. -/
def ofAge? (name : String) : Option CharSet :=
  (ages.findIdx? (·.1.contains name)).map fun i =>
    unions ((ages.take (i + 1)).map fun age => ofSpans age.2)

/-! ### Names -/

/-- The name of a property without case, spaces, dashes, underscores and what is not ASCII, and
without a leading `is`, which is kept in `isc` only. -/
def normaliseName (name : List Char) : String :=
  let strip (s : List Char) : List Char :=
    (s.filter fun c => c.toNat < 0x80 && c != ' ' && c != '_' && c != '-').map Char.toLower
  match name with
  | i :: s :: rest =>
    if i.toLower = 'i' ∧ s.toLower = 's' then
      if strip rest = ['c'] then "isc" else String.ofList (strip rest)
    else String.ofList (strip name)
  | _ => String.ofList (strip name)

/-- The set of a property by its name, as in `\p{Lu}`. -/
def ofProperty? (name : List Char) : Option CharSet :=
  let n := normaliseName name
  (find? binaryProperties n).or ((ofCategoryName? n).or (ofScript? n))

/-- The set of a property by the name of the property and its value, as in `\p{gc=Lu}`. -/
def ofPropertyValue? (name value : List Char) : Option CharSet :=
  let n := normaliseName name
  let v := normaliseName value
  if n = "gc" ∨ n = "generalcategory" then ofCategoryName? v
  else if n = "sc" ∨ n = "script" then ofScript? v
  else if n = "scx" ∨ n = "scriptextensions" then ofScriptExtensions? v
  else if n = "age" then ofAge? v
  else if n = "gcb" ∨ n = "graphemeclusterbreak" then find? clusterBreaks v
  else if n = "wb" ∨ n = "wordbreak" then find? wordBreaks v
  else if n = "sb" ∨ n = "sentencebreak" then find? sentenceBreaks v
  else Option.none

end CharSet

end PathRouting.Regex
