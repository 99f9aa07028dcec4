import PathRouting.Regex.Bracket
import PathRouting.Regex.Footprint

/-!
# Reading regular expressions

The reader goes through the text once.  It keeps the alternatives and the items of the innermost
open group at hand and those of the groups around it on a stack; the modes that are on belong to
the innermost group and end with it.

## Main definitions

* `Item`, `Level`, `Reader` — what was read, an open group, and the state of the reader.
* `Move`, `readMove` — what one special character, or any other item, says to do.
* `Reader.apply`, `Reader.readAll` — the state after a move, and after all moves of a text.
* `read?` — what a text is read as.
* `parse?` — the expression that a text is.
-/

namespace PathRouting.Regex

open Text

/-- Something read: an expression, how deep its syntax tree is, and whether it can be repeated. -/
structure Item where
  /-- The expression. -/
  expr : Expr
  /-- The depth of the syntax tree as it was written. -/
  depth : Nat
  /-- Whether a repetition may follow; none may follow a change of modes. -/
  repeatable : Bool

/-- What stands before an open group, on hold until the group is closed. -/
structure Level where
  /-- The index of the group, if it records what it matches. -/
  capture : Option Nat
  /-- The modes outside the group. -/
  flags : Flags
  /-- The alternatives read before, latest first. -/
  branches : List Item
  /-- The items of the last alternative, latest first. -/
  items : List Item

/-- The state of the reader. -/
structure Reader where
  /-- The modes in force. -/
  flags : Flags
  /-- The finished alternatives of the innermost group, latest first. -/
  branches : List Item
  /-- The items of its last alternative, latest first. -/
  items : List Item
  /-- The groups around it, innermost first. -/
  outer : List Level
  /-- The number of recording groups opened so far. -/
  groups : Nat
  /-- The names of groups so far. -/
  names : List (List Char)

/-- What a special character, or any other item, does to the state of the reader. -/
inductive Move
  /-- A group opens that records what it matches. -/
  | openCapture
  /-- A group opens that records what it matches under a name. -/
  | openNamed (name : List Char)
  /-- A group opens that does not record, in the given modes. -/
  | openPlain (f : Flags)
  /-- The modes change up to the end of the group. -/
  | setFlags (f : Flags)
  /-- The innermost group closes. -/
  | close
  /-- The next alternative starts. -/
  | branch
  /-- An item comes. -/
  | item (i : Item)
  /-- The last item is repeated. -/
  | again (min : Nat) (max : Option Nat) (greedy : Bool)

namespace Item

/-- Items in a row as one item. -/
def row (items : List Item) : Item :=
  match items with
  | [] => ⟨.empty, 0, true⟩
  | [i] => i
  | _ => ⟨Expr.sequence (items.reverse.map (·.expr)),
      (items.map (·.depth)).foldl Nat.max 0 + 1, true⟩

/-- Alternatives as one item. -/
def choice (branches : List Item) : Item :=
  match branches with
  | [] => ⟨.empty, 0, true⟩
  | [i] => i
  | _ => ⟨Expr.choice (branches.reverse.map (·.expr)),
      (branches.map (·.depth)).foldl Nat.max 0 + 1, true⟩

end Item

/-- The modes written between `(?` and a colon or a closing parenthesis, whether it is a colon, and
the text after it.  A letter may come once and a dash once, with a letter after it. -/
def readFlags (f : Flags) (met : List Char) (on afterDash : Bool) :
    List Char → Option ((Flags × Bool) × List Char)
  | [] => none
  | c :: s =>
    if c = ':' then if afterDash then none else some ((f, true), s)
    else if c = ')' then if afterDash || met.isEmpty then none else some ((f, false), s)
    else if c = '-' then if on then readFlags f met false true s else none
    else if met.contains c then none
    else (f.set? c on).bind fun f => readFlags f (c :: met) on false s

/-- The number that is written, if any is, below 2³². -/
def countOf? (written : List Char) : Option (Option Nat) :=
  if written.isEmpty then some none
  else
    let n := written.foldl (fun n c => 10 * n + (c.toNat - '0'.toNat)) 0
    if n < UInt32.size then some (some n) else none

/-- A count in a repetition, with white space around it. -/
def readCount (f : Flags) (s : List Char) : Option (Option Nat × List Char) :=
  let s := s.dropWhile isWhiteSpace
  let (written, rest) := readRun f Char.isDigit (s.length + 1) s
  (countOf? written).map (·, skipBlank f (rest.dropWhile isWhiteSpace))

/-- The end of a repetition in braces with the counts that are given, if they are. -/
def readCountsEnd (counts : Option (Nat × Option Nat)) (s : List Char) :
    Option ((Nat × Option Nat) × List Char) :=
  match s with
  | '}' :: rest => counts.map (·, rest)
  | _ => none

/-- What follows the least count of a repetition in braces and a comma. -/
def readGreatest (f : Flags) (least : Nat) (s : List Char) :
    Option ((Nat × Option Nat) × List Char) :=
  match s with
  | '}' :: rest => some ((least, none), rest)
  | s => (readCount f s).bind fun (greatest, rest) =>
    readCountsEnd ((greatest.filter (least ≤ ·)).map fun m => (least, some m)) rest

/-- What follows the least count of a repetition in braces. -/
def readAfterLeast (f : Flags) (least : Nat) (s : List Char) :
    Option ((Nat × Option Nat) × List Char) :=
  match s with
  | ',' :: rest => readGreatest f least (skipBlank f rest)
  | s => readCountsEnd (some (least, some least)) s

/-- The least and the greatest count of a repetition in braces, and the text after them. -/
def readCounts (f : Flags) (s : List Char) : Option ((Nat × Option Nat) × List Char) :=
  (readCount f (skipBlank f s)).bind fun (least, rest) =>
    least.bind fun least => readAfterLeast f least rest

/-- Whether a character can stand in the name of a group, at its start or further on. -/
def isGroupNameChar (first : Bool) (c : Char) : Bool :=
  if first then c = '_' || isAlphabetic c
  else c = '_' || c = '.' || c = '[' || c = ']' || isAlphanumeric c

/-- A text as the name of a group, if it can be one. -/
def groupName? (name : List Char) : Option (List Char) :=
  match name with
  | c :: cs => if isGroupNameChar true c && cs.all (isGroupNameChar false) then some name else none
  | [] => none

/-- The name of a group up to its closing angle bracket. -/
def readName (s : List Char) : Option (Move × List Char) :=
  (cutAt '>' s).bind fun (name, rest) => ((groupName? name).map .openNamed).map (·, rest)

/-- The name of a group in angle brackets. -/
def readNamed (s : List Char) : Option (Move × List Char) :=
  match s with
  | '<' :: rest => readName rest
  | _ => none

namespace Reader

/-- The start of a text. -/
def start (f : Flags) : Reader := ⟨f, [], [], [], 0, []⟩

/-- One more item. -/
def push (r : Reader) (i : Item) : Reader := { r with items := i :: r.items }

/-- A group opened in the given modes. -/
def openGroup (r : Reader) (capture : Option Nat) (f : Flags) : Reader :=
  { r with
    flags := f
    branches := []
    items := []
    outer := ⟨capture, r.flags, r.branches, r.items⟩ :: r.outer }

/-- A recording group opened. -/
def openCapture (r : Reader) : Reader :=
  { r.openGroup (some (r.groups + 1)) r.flags with groups := r.groups + 1 }

/-- A named group opened; a name may be given once. -/
def openNamed (r : Reader) (name : List Char) : Option Reader :=
  if r.names.contains name then none else some { r.openCapture with names := name :: r.names }

/-- All that the innermost group holds. -/
def content (r : Reader) : Item := Item.choice (Item.row r.items :: r.branches)

/-- The innermost group closed. -/
def closeGroup (r : Reader) : Option Reader :=
  match r.outer with
  | [] => none
  | level :: outer =>
    let body := r.content
    let expr := match level.capture with
      | some index => Expr.group index body.expr
      | none => body.expr
    some { r with
      flags := level.flags
      branches := level.branches
      items := ⟨expr, body.depth + 1, true⟩ :: level.items
      outer := outer }

/-- The last item repeated, as often as possible or as rarely, the other way round where the modes
say so. -/
def repeatLast (r : Reader) (min : Nat) (max : Option Nat) (greedy : Bool) : Option Reader :=
  match r.items with
  | i :: items =>
    if !i.repeatable then none
    else
      let expr := i.expr.repeated min max (greedy != r.flags.swapGreed)
      some { r with items := ⟨expr, i.depth + 1, true⟩ :: items }
  | [] => none

/-- The state after a move. -/
def apply (r : Reader) : Move → Option Reader
  | .openCapture => some r.openCapture
  | .openNamed name => r.openNamed name
  | .openPlain f => some (r.openGroup none f)
  -- modes alone hold to the end of the group, and nothing can repeat them
  | .setFlags f => some ({ r with flags := f }.push ⟨.empty, 0, false⟩)
  | .close => r.closeGroup
  | .branch => some { r with branches := Item.row r.items :: r.branches, items := [] }
  | .item i => some (r.push i)
  | .again min max greedy => r.repeatLast min max greedy

end Reader

/-! ### The moves of a text -/

/-- What letters after `(?` start: a named group after `P`, or else modes, for a group or for what
follows. -/
def readLetters (f : Flags) (s : List Char) : Option (Move × List Char) :=
  match s with
  | 'P' :: rest => readNamed rest
  | _ => (readFlags f [] true false s).map fun ((f, isGroup), rest) =>
    (if isGroup then .openPlain f else .setFlags f, rest)

/-- What `(?` starts.  Looking ahead and looking behind are refused: `=` and `!` are no modes and
start no name. -/
def readKind (f : Flags) (s : List Char) : Option (Move × List Char) :=
  match s with
  | '<' :: rest => readName rest
  | _ => readLetters f s

/-- What an opening parenthesis starts: a group of some kind, or a change of modes. -/
def readGroup (f : Flags) (s : List Char) : Option (Move × List Char) :=
  match s with
  | '?' :: rest => readKind f rest
  | _ => some (.openCapture, s)

/-- A repetition, of as many rounds as possible unless a `?` follows. -/
def readAgain (min : Nat) (max : Option Nat) (s : List Char) : Option (Move × List Char) :=
  match s with
  | '?' :: rest => some (.again min max false, rest)
  | _ => some (.again min max true, s)

/-- An assertion about the start or the end of the text, or of a line. -/
def anchor (f : Flags) (c : Char) : Look :=
  if c = '^' then if f.multiLine then .lineStart f.crlf else .textStart
  else if f.multiLine then .lineEnd f.crlf else .textEnd

/-- The set of the dot; without the characters of all scripts there is none. -/
def dot? (f : Flags) : Option CharSet :=
  if !f.unicode then none
  else if f.dotAll then some .any
  else if f.crlf then some (CharSet.union (.exactly '\r') (.exactly '\n')).compl
  else some (CharSet.exactly '\n').compl

/-- The expression of an atom. -/
def atomExpr (f : Flags) : Atom → Expr
  | .char c => f.charExpr c
  | .set s => .ofSet s
  | .look l => .look l

/-- An expression as an item without depth. -/
def Move.ofExpr (e : Expr) : Move := .item ⟨e, 0, true⟩

/-- The move that the character `c` at the front makes, and the text left. -/
def readMove (f : Flags) (c : Char) (s : List Char) : Option (Move × List Char) :=
  match c with
  | '(' => readGroup f (skipBlank f s)
  | ')' => some (.close, s)
  | '|' => some (.branch, s)
  | '[' => (readClass f s).map fun (b, s) => (.item ⟨.ofSet b.set, b.depth, true⟩, s)
  | '?' => readAgain 0 (some 1) s
  | '*' => readAgain 0 none s
  | '+' => readAgain 1 none s
  | '{' => (readCounts f s).bind fun ((min, max), s) => readAgain min max (skipBlank f s)
  | '.' => (dot? f).map fun set => (.ofExpr (.ofSet set), s)
  | '^' => some (.ofExpr (.look (anchor f c)), s)
  | '$' => some (.ofExpr (.look (anchor f c)), s)
  | '\\' => (readEscape f s).map fun (a, s) => (.ofExpr (atomExpr f a), s)
  | c => some (.ofExpr (f.charExpr c), s)

namespace Reader

/-- All of a text read. -/
def readAll : Nat → Reader → List Char → Option Reader
  | 0, _, _ => none
  | fuel + 1, r, s =>
    match skipBlank r.flags s with
    | [] => some r
    | c :: s =>
      (readMove r.flags c s).bind fun (move, s) => (r.apply move).bind fun r => readAll fuel r s

end Reader

/-- The greatest depth a syntax tree may have. -/
def maxDepth : Nat := 250

/-- What a text is read as in the given modes.  All groups must be closed, and the depth must not be
excessive. -/
def read? (f : Flags) (s : List Char) : Option Item := do
  let r ← (Reader.start f).readAll (s.length + 1) s
  if r.outer.isEmpty && r.content.depth ≤ maxDepth then some r.content else none

/-- The expression that a text is, read in the given modes.  The room that the expression takes must
not be excessive either. -/
def parse? (f : Flags) (s : List Char) : Option Expr := do
  let item ← read? f s
  if item.expr.fits then some item.expr else none

end PathRouting.Regex
