import PathRouting.Text.Property

/-!
# JSON

JSON texts as far as settings need them.  Numbers are checked but not kept, as no setting is a
number.  A string may spell half of a surrogate pair; it is then no text, which matters only
where a text is wanted.

## Main definitions

* `Json`, `Json.parse?` — a value, and the value that a text holds.
* `Json.text?`, `Json.bool?`, `Json.char?`, `Json.texts?`, `Json.map?` — a value as what it is
  wanted as.
* `Json.fields?` — a value as a record with the given fields.
-/

namespace PathRouting

open Text

/-- A JSON value. -/
inductive Json
  /-- `null`. -/
  | null
  /-- A truth value. -/
  | bool (b : Bool)
  /-- A number. -/
  | number
  /-- A string, with its text if it has one. -/
  | string (text : Option (List Char))
  /-- An array. -/
  | array (items : List Json)
  /-- An object: names with values, in order, repeated names included. -/
  | object (members : List (Option (List Char) × Json))

namespace Json

/-! ### Tokens -/

/-- A token of a JSON text. -/
inductive Token
  /-- One of the characters for structure: braces, brackets, colon and comma. -/
  | mark (c : Char)
  /-- A value that is a token of its own. -/
  | scalar (v : Json)

/-- The number of four hexadecimal digits. -/
def hex4? (a b c d : Char) : Option Nat :=
  match hexValue? a, hexValue? b, hexValue? c, hexValue? d with
  | some a, some b, some c, some d => some (((16 * a + b) * 16 + c) * 16 + d)
  | _, _, _, _ => none

/-- The character that a backslash and a letter stand for. -/
def escaped? (c : Char) : Option Char :=
  match c with
  | '"' => some '"'
  | '\\' => some '\\'
  | '/' => some '/'
  | 'b' => some '\x08'
  | 'f' => some '\x0C'
  | 'n' => some '\n'
  | 'r' => some '\r'
  | 't' => some '\t'
  | _ => none

/-- The numbers of the characters, or halves of characters, of a string after its opening
quotation mark, and the text after the closing one. -/
def readUnits : List Char → Option (List Nat × List Char)
  | [] => none
  | c :: s =>
    if c = '"' then some ([], s)
    else if c.toNat < 0x20 then none
    else if c = '\\' then
      match s with
      | [] => none
      | e :: s =>
        if e = 'u' then
          match s with
          | a :: b :: c :: d :: s => do
            let n ← hex4? a b c d
            let (units, rest) ← readUnits s
            some (n :: units, rest)
          | _ => none
        else do
          let c ← escaped? e
          let (units, rest) ← readUnits s
          some (c.toNat :: units, rest)
    else (readUnits s).map fun (units, rest) => (c.toNat :: units, rest)

/-- The text of characters and halves of characters, if all halves are paired. -/
def unitsText? : List Nat → Option (List Char)
  | [] => some []
  | n :: units =>
    if 0xD800 ≤ n ∧ n ≤ 0xDBFF then
      match units with
      | m :: units =>
        if 0xDC00 ≤ m ∧ m ≤ 0xDFFF then
          (unitsText? units).map
            (Char.ofNat (0x10000 + (n - 0xD800) * 0x400 + (m - 0xDC00)) :: ·)
        else none
      | [] => none
    else if 0xDC00 ≤ n ∧ n ≤ 0xDFFF then none
    else (unitsText? units).map (Char.ofNat n :: ·)

/-- The text after at least one digit. -/
def skipDigits? (s : List Char) : Option (List Char) :=
  match s with
  | c :: rest => if c.isDigit then some (rest.dropWhile Char.isDigit) else none
  | [] => none

/-- The text after a number that starts with a digit or a minus sign. -/
def skipNumber? (s : List Char) : Option (List Char) := do
  let s := match s with
    | '-' :: s => s
    | s => s
  let s ← match s with
    | '0' :: s => match s with
      | c :: _ => if c.isDigit then none else some s
      | [] => some s
    | s => skipDigits? s
  let s ← match s with
    | '.' :: s => skipDigits? s
    | s => some s
  match s with
  | e :: s =>
    if e = 'e' ∨ e = 'E' then
      match s with
      | '+' :: s => skipDigits? s
      | '-' :: s => skipDigits? s
      | s => skipDigits? s
    else some (e :: s)
  | [] => some []

/-- Whether a character may stand between tokens. -/
def isSpace (c : Char) : Bool := c = ' ' || c = '\n' || c = '\t' || c = '\r'

/-- The token at the front of a text without space before it, and the text after it. -/
def readToken : List Char → Option (Token × List Char)
  | 'n' :: 'u' :: 'l' :: 'l' :: s => some (.scalar .null, s)
  | 't' :: 'r' :: 'u' :: 'e' :: s => some (.scalar (.bool true), s)
  | 'f' :: 'a' :: 'l' :: 's' :: 'e' :: s => some (.scalar (.bool false), s)
  | '"' :: s => do
    let (units, rest) ← readUnits s
    some (.scalar (.string (unitsText? units)), rest)
  | c :: s =>
    if ['{', '}', '[', ']', ':', ','].contains c then some (.mark c, s)
    else if c = '-' ∨ c.isDigit then (skipNumber? (c :: s)).map (.scalar .number, ·)
    else none
  | [] => none

/-- The tokens of a text; `fuel` exceeds the number of its characters. -/
def readTokens : Nat → List Char → Option (List Token)
  | 0, _ => none
  | fuel + 1, s =>
    match s.dropWhile isSpace with
    | [] => some []
    | s => do
      let (t, s) ← readToken s
      let ts ← readTokens fuel s
      some (t :: ts)

/-! ### Values -/

mutual

/-- The value at the front of tokens, and the tokens after it. -/
def readValue : Nat → List Token → Option (Json × List Token)
  | 0, _ => none
  | _ + 1, .scalar v :: ts => some (v, ts)
  | _ + 1, .mark '[' :: .mark ']' :: ts => some (.array [], ts)
  | fuel + 1, .mark '[' :: ts => do
    let (items, ts) ← readItems fuel ts
    some (.array items, ts)
  | _ + 1, .mark '{' :: .mark '}' :: ts => some (.object [], ts)
  | fuel + 1, .mark '{' :: ts => do
    let (members, ts) ← readMembers fuel ts
    some (.object members, ts)
  | _, _ => none

/-- The items of an array up to its closing bracket, at least one. -/
def readItems : Nat → List Token → Option (List Json × List Token)
  | 0, _ => none
  | fuel + 1, ts => do
    let (v, ts) ← readValue fuel ts
    match ts with
    | .mark ',' :: ts => do
      let (items, ts) ← readItems fuel ts
      some (v :: items, ts)
    | .mark ']' :: ts => some ([v], ts)
    | _ => none

/-- The members of an object up to its closing brace, at least one. -/
def readMembers : Nat → List Token → Option (List (Option (List Char) × Json) × List Token)
  | 0, _ => none
  | fuel + 1, .scalar (.string name) :: .mark ':' :: ts => do
    let (v, ts) ← readValue fuel ts
    match ts with
    | .mark ',' :: ts => do
      let (members, ts) ← readMembers fuel ts
      some ((name, v) :: members, ts)
    | .mark '}' :: ts => some ([(name, v)], ts)
    | _ => none
  | _ + 1, _ => none

end

/-- The value that a text holds, with nothing but space around it. -/
def parse? (s : List Char) : Option Json := do
  let ts ← readTokens (s.length + 1) s
  match ← readValue (2 * ts.length + 1) ts with
  | (v, []) => some v
  | _ => none

/-! ### Values as what they are wanted as -/

/-- A string as its text. -/
def text? : Json → Option (List Char)
  | string t => t
  | _ => none

/-- A truth value. -/
def bool? : Json → Option Bool
  | bool b => some b
  | _ => none

/-- A string of one character as that character. -/
def char? (v : Json) : Option Char :=
  match v.text? with
  | some [c] => some c
  | _ => none

/-- An array of strings as their texts. -/
def texts? : Json → Option (List (List Char))
  | array items => items.mapM text?
  | _ => none

/-- An object as names with values read by `item`; of repeated names the last one counts. -/
def map? {α : Type} (item : Json → Option α) : Json → Option (List (List Char × α))
  | object members => do
    let pairs ← members.mapM fun (name, v) => do some (← name, ← item v)
    some (pairs.foldl (fun m (name, a) => (m.filter (·.1 ≠ name)) ++ [(name, a)]) [])
  | _ => none

/-- The members of an object with the given name: none, or one. -/
def member? (members : List (Option (List Char) × Json)) (name : List Char) :
    Option (Option Json) :=
  match members.filter (·.1 == some name) with
  | [] => some none
  | [(_, v)] => some (some v)
  | _ => none

/-- A value as a record with the given fields, each of which may be absent.  An object may have
other members too, but every name must be a text and no field may be repeated; an array gives the
fields in order. -/
def fields? (names : List (List Char)) : Json → Option (List (Option Json))
  | object members =>
    if members.any (·.1.isNone) then none else names.mapM (member? members)
  | array items =>
    if items.length ≤ names.length then
      some (items.map some ++ List.replicate (names.length - items.length) none)
    else none
  | _ => none

end Json

end PathRouting
