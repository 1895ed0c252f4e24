import FormValidity.Toml.Quoted
import FormValidity.Toml.Scalar
import FormValidity.Toml.Table

/-! # Reading TOML

`Toml.read?` gives the entries of a document's table, in the order of their first
mention.
-/

namespace FormValidity

namespace Toml

/-- Arrays and inline tables nest less deep than this, and a key has fewer parts. -/
def nestLimit : Nat := 80

/-- Go past blanks. -/
def skipBlanks (text : List Char) : List Char := text.dropWhile isBlank

/-- Go past a comment, if there is one. -/
def skipComment : List Char → List Char
  | '#' :: rest => rest.dropWhile Text.isInline
  | text => text

/-- Go past what may stand at the end of a line, and the end itself. -/
def readLineEnd (text : List Char) : Option (List Char) :=
  match skipComment (skipBlanks text) with
  | [] => some []
  | rest => readBreak rest

/-- Go past blanks, comments and line breaks. -/
def skipFiller : Nat → List Char → List Char
  | 0, text => text
  | fuel + 1, text =>
      match readBreak (skipComment (skipBlanks text)) with
      | some rest => skipFiller fuel rest
      | none => skipBlanks text

/-- The characters of unquoted keys. -/
def isKeyChar (c : Char) : Bool := c.isAlphanum || c == '-' || c == '_'

/-- Read one part of a key. -/
def readKeyPart (text : List Char) : Option (String × List Char) :=
  match readShortString text with
  | some (chars, rest) => some (String.ofList chars, rest)
  | none =>
      let word := text.takeWhile isKeyChar
      if word.isEmpty then none else some (String.ofList word, text.dropWhile isKeyChar)

/-- Read the parts of a key with the dots between them. -/
def readKeyParts : Nat → List Char → Option (List String × List Char)
  | 0, _ => none
  | fuel + 1, text => do
      let (part, rest) ← readKeyPart (skipBlanks text)
      match skipBlanks rest with
      | '.' :: rest => do
          let (parts, rest) ← readKeyParts fuel rest
          some (part :: parts, rest)
      | rest => some ([part], rest)

/-- Read a key and the blanks around it. -/
def readKey (text : List Char) : Option (Key × List Char) := do
  let (parts, rest) ← readKeyParts (nestLimit - 1) text
  let last ← parts.getLast?
  some (⟨parts.dropLast, last⟩, rest)

/-- Read a key, an equals sign and a value. -/
def readEntry (value : List Char → Option (Item × List Char)) (text : List Char) :
    Option ((Key × Item) × List Char) := do
  let (key, rest) ← readKey text
  let (item, rest) ← value (skipBlanks (← readMark '=' rest))
  some ((key, item), rest)

/-- Read the values of an array up to its closing bracket; a comma may follow the last. -/
def readItems (value : List Char → Option (Item × List Char)) :
    Nat → List Char → Option (List Char)
  | 0, _ => none
  | fuel + 1, text =>
      match skipFiller (text.length + 1) text with
      | ']' :: rest => some rest
      | text => do
          let (_, rest) ← value text
          match skipFiller (rest.length + 1) rest with
          | ',' :: rest => readItems value fuel rest
          | ']' :: rest => some rest
          | _ => none

/-- Read the entries of an inline table up to its closing brace. -/
def readInlineEntries (value : List Char → Option (Item × List Char)) :
    Nat → List Char → Option (List (Key × Item) × List Char)
  | 0, _ => none
  | fuel + 1, text => do
      let (entry, rest) ← readEntry value text
      match skipBlanks rest with
      | ',' :: rest => do
          let (entries, rest) ← readInlineEntries value fuel rest
          some (entry :: entries, rest)
      | '\x7d' :: rest => some ([entry], rest)
      | _ => none

/-- Read an inline table after its opening brace. -/
def readInlineTable (value : List Char → Option (Item × List Char)) (text : List Char) :
    Option (List Char) :=
  match skipBlanks text with
  | '\x7d' :: rest => some rest
  | text => do
      let (entries, rest) ← readInlineEntries value (text.length + 1) text
      if fitInline entries then some rest else none

/-- Read a value whose arrays and inline tables nest `depth` deep. -/
def readValue : Nat → List Char → Option (Item × List Char)
  | depth, text =>
      match text with
      | '[' :: rest =>
          match depth with
          | 0 => none
          | depth + 1 =>
              (readItems (readValue depth) (rest.length + 1) rest).map fun rest => (.closed, rest)
      | '\x7b' :: rest =>
          match depth with
          | 0 => none
          | depth + 1 => (readInlineTable (readValue depth) rest).map fun rest => (.closed, rest)
      | text =>
          match readString text with
          | some (chars, rest) => some (.text (String.ofList chars), rest)
          | none => (readScalar text).map fun rest => (.closed, rest)

/-- Read a statement up to the end of its line. -/
def readStatement (text : List Char) : Option (Statement × List Char) := do
  match text with
  | '[' :: '[' :: rest =>
      let (header, rest) ← readKey rest
      let rest ← readMark ']' (← readMark ']' rest)
      some (.element header, ← readLineEnd rest)
  | '[' :: rest =>
      let (header, rest) ← readKey rest
      let rest ← readMark ']' rest
      some (.table header, ← readLineEnd rest)
  | text =>
      let ((key, item), rest) ← readEntry (readValue (nestLimit - 1)) text
      some (.entry key item, ← readLineEnd rest)

/-- Read the statements of a document. -/
def readStatements : Nat → List Char → Option (List Statement)
  | 0, _ => none
  | fuel + 1, text =>
      match skipComment (skipFiller (text.length + 1) text) with
      | [] => some []
      | text => do
          let (statement, rest) ← readStatement text
          let statements ← readStatements fuel rest
          some (statement :: statements)

/-- The entries of the table a text describes. A byte order mark may stand before it. -/
def read? (text : String) : Option Entries :=
  let chars := match text.toList with
    | c :: rest => if c.toNat = 0xFEFF then rest else c :: rest
    | [] => []
  (readStatements (chars.length + 1) chars).bind tableOf?

end Toml

end FormValidity
