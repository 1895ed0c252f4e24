import FormValidity.Json.Number
import FormValidity.Text.Hex
import FormValidity.Value.Basic

/-! # Reading JSON

`Json.read?` reads a text as one value. An object's repeated key keeps its first
place and its last value, and nesting deeper than `Json.depthLimit` is refused.
`Json.readOutline?` reads a record of known fields: the values of other fields
must be well formed but may nest without limit, hold numbers of any size and
half surrogate pairs.
-/

namespace FormValidity

namespace Json

/-- How deep arrays and objects may nest. -/
def depthLimit : Nat := 127

/-- Whether values are read for use or only passed over. -/
inductive Mode where
  | strict
  | skip
  deriving DecidableEq

/-- JSON white space. -/
def isBlank (c : Char) : Bool := c == ' ' || c == '\n' || c == '\t' || c == '\r'

/-- Drop white space. -/
def skipBlank (text : List Char) : List Char := text.dropWhile isBlank

/-- Whether a code unit is the first half of a surrogate pair. -/
def isHighSurrogate (code : Nat) : Bool := 0xD800 ≤ code && code ≤ 0xDBFF

/-- Whether a code unit is the second half of a surrogate pair. -/
def isLowSurrogate (code : Nat) : Bool := 0xDC00 ≤ code && code ≤ 0xDFFF

/-- The character of a surrogate pair. -/
def joinSurrogates (high low : Nat) : Char :=
  Char.ofNat (0x10000 + (high - 0xD800) * 0x400 + (low - 0xDC00))

/-- Read the rest of a `\u` escape. A high surrogate must be followed by the escape
of a low one; when a string is only passed over, any unit will do. -/
def readUnicodeEscape (mode : Mode) (text : List Char) : Option (Char × List Char) := do
  let (code, rest) ← Text.readHex 0 4 text
  if mode = .skip then some (' ', rest)
  else if isHighSurrogate code then
    match rest with
    | '\\' :: 'u' :: rest =>
        let (low, rest) ← Text.readHex 0 4 rest
        if isLowSurrogate low then some (joinSurrogates code low, rest) else none
    | _ => none
  else
    let c ← Text.charOfCode? code
    some (c, rest)

/-- The character that a one-letter escape stands for. -/
def simpleEscape? : Char → Option Char
  | '"' => some '"'
  | '\\' => some '\\'
  | '/' => some '/'
  | 'b' => some '\x08'
  | 'f' => some '\x0c'
  | 'n' => some '\n'
  | 'r' => some '\r'
  | 't' => some '\t'
  | _ => none

/-- Read the rest of a string after its opening quote; control characters must be
escaped. The fuel bounds the number of characters. -/
def readStringTail (mode : Mode) : Nat → List Char → Option (List Char × List Char)
  | 0, _ => none
  | _ + 1, [] => none
  | _ + 1, '"' :: rest => some ([], rest)
  | fuel + 1, '\\' :: 'u' :: rest => do
      let (c, rest) ← readUnicodeEscape mode rest
      let (more, rest) ← readStringTail mode fuel rest
      some (c :: more, rest)
  | fuel + 1, '\\' :: letter :: rest => do
      let c ← simpleEscape? letter
      let (more, rest) ← readStringTail mode fuel rest
      some (c :: more, rest)
  | fuel + 1, c :: rest =>
      if c.toNat < 0x20 ∨ c = '\\' then none
      else (readStringTail mode fuel rest).map fun (more, rest) => (c :: more, rest)

/-- Read a string that starts at its opening quote. -/
def readString (mode : Mode) : List Char → Option (String × List Char)
  | '"' :: rest =>
      (readStringTail mode (rest.length + 1) rest).map fun (chars, rest) =>
        (String.ofList chars, rest)
  | _ => none

/-- Read a fixed word. -/
def readWord (word : List Char) (value : Value) (text : List Char) : Option (Value × List Char) :=
  if word.isPrefixOf text then some (value, text.drop word.length) else none

/-- Read a number; one that is passed over may be out of range. -/
def readNumber (mode : Mode) (text : List Char) : Option (Value × List Char) := do
  let (number, rest) ← readNumberText text
  match number.value? with
  | some n => some (.num n, rest)
  | none => if mode = .skip then some (.null, rest) else none

/-- Read the items of an array after its first, up to the closing bracket. -/
def readMoreItems (item : List Char → Option (Value × List Char)) :
    Nat → List Char → Option (List Value × List Char)
  | 0, _ => none
  | fuel + 1, text =>
      match skipBlank text with
      | ']' :: rest => some ([], rest)
      | ',' :: rest => do
          let (value, rest) ← item rest
          let (values, rest) ← readMoreItems item fuel rest
          some (value :: values, rest)
      | _ => none

/-- Read the items of an array after the opening bracket. -/
def readItems (item : List Char → Option (Value × List Char)) (text : List Char) :
    Option (List Value × List Char) :=
  match skipBlank text with
  | ']' :: rest => some ([], rest)
  | text => do
      let (value, rest) ← item text
      let (values, rest) ← readMoreItems item (rest.length + 1) rest
      some (value :: values, rest)

/-- Read one entry of an object: a key, a colon and a value, whose reader may depend
on the key. -/
def readEntry (mode : Mode) (member : String → List Char → Option (Value × List Char))
    (text : List Char) : Option ((String × Value) × List Char) := do
  let (key, rest) ← readString mode (skipBlank text)
  match skipBlank rest with
  | ':' :: rest =>
      let (value, rest) ← member key rest
      some ((key, value), rest)
  | _ => none

/-- Read the entries of an object after its first, up to the closing brace. -/
def readMoreEntries (entry : List Char → Option ((String × Value) × List Char)) :
    Nat → List Char → Option (List (String × Value) × List Char)
  | 0, _ => none
  | fuel + 1, text =>
      match skipBlank text with
      | '}' :: rest => some ([], rest)
      | ',' :: rest => do
          let (first, rest) ← entry rest
          let (more, rest) ← readMoreEntries entry fuel rest
          some (first :: more, rest)
      | _ => none

/-- Read the entries of an object after the opening brace, repeated keys and all. -/
def readEntries (entry : List Char → Option ((String × Value) × List Char)) (text : List Char) :
    Option (List (String × Value) × List Char) :=
  match skipBlank text with
  | '}' :: rest => some ([], rest)
  | text => do
      let (first, rest) ← entry text
      let (more, rest) ← readMoreEntries entry (rest.length + 1) rest
      some (first :: more, rest)

/-- The object with the given entries, inserted one after the other. -/
def objectOf (entries : List (String × Value)) : Value :=
  .obj (OrderedMap.ofList entries).entries

/-- Read one value; containers may nest `depth` deep. -/
def readValue (mode : Mode) : Nat → List Char → Option (Value × List Char)
  | depth, text =>
      match skipBlank text with
      | 'n' :: rest => readWord ['n', 'u', 'l', 'l'] .null ('n' :: rest)
      | 't' :: rest => readWord ['t', 'r', 'u', 'e'] (.bool true) ('t' :: rest)
      | 'f' :: rest => readWord ['f', 'a', 'l', 's', 'e'] (.bool false) ('f' :: rest)
      | '"' :: rest => (readString mode ('"' :: rest)).map fun (s, rest) => (.str s, rest)
      | '[' :: rest =>
          match depth with
          | 0 => none
          | depth + 1 =>
              (readItems (readValue mode depth) rest).map fun (items, rest) => (.arr items, rest)
      | '{' :: rest =>
          match depth with
          | 0 => none
          | depth + 1 =>
              (readEntries (readEntry mode fun _ => readValue mode depth) rest).map
                fun (entries, rest) => (objectOf entries, rest)
      | text => readNumber mode text

/-- Require that nothing but white space is left. -/
def atEnd (result : α × List Char) : Option α :=
  if skipBlank result.2 = [] then some result.1 else none

/-- The value a text denotes. -/
def read? (text : String) : Option Value :=
  (readValue .strict depthLimit text.toList).bind atEnd

/-- A record as written: by fields, repeated ones and all, or by position. -/
inductive Outline where
  | fields (entries : List (String × Value))
  | positions (items : List Value)

/-- Read a record of known fields. The values of unknown fields are passed over and
left out. -/
def readOutline? (known : List String) (text : String) : Option Outline :=
  let chars := text.toList
  let member (key : String) (rest : List Char) : Option (Value × List Char) :=
    if key ∈ known then readValue .strict (depthLimit - 1) rest
    else readValue .skip chars.length rest
  match skipBlank chars with
  | '{' :: rest => do
      let entries ← (readEntries (readEntry .strict member) rest).bind atEnd
      some (.fields (entries.filter fun entry => entry.1 ∈ known))
  | '[' :: rest => do
      let items ← (readItems (readValue .strict (depthLimit - 1)) rest).bind atEnd
      some (.positions items)
  | _ => none

end Json

end FormValidity
