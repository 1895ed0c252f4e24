import FormValidity.Yaml.ScalarText

/-! # Tokens of YAML

`Token.ofText?` splits a text into tokens. Indentation becomes tokens that open and
close block collections. A key without its mark is only known by the colon after it, so
a place where one may begin is remembered (`SimpleKey`), and the tokens of the key are
put in when the colon comes.
-/

namespace FormValidity

namespace Yaml

/-- A token. -/
inductive Token where
  | version (major minor : Nat)
  | tagHandle (handle expansion : List Char)
  | documentStart
  | documentEnd
  | blockSequenceStart
  | blockMappingStart
  | blockEnd
  | flowSequenceStart
  | flowSequenceEnd
  | flowMappingStart
  | flowMappingEnd
  | blockEntry
  | flowEntry
  | key
  | value
  | alias (name : List Char)
  | anchor (name : List Char)
  | tag (handle suffix : List Char)
  | scalar (text : List Char) (plain : Bool)
  deriving DecidableEq, Repr

/-- A place where a key without a mark may begin: the number of its first token, where
it stands, and whether nothing else may stand there. -/
structure SimpleKey where
  required : Bool
  number : Nat
  line : Nat
  column : Nat
  index : Nat

/-- The state of splitting a text: the place, the tokens so far, the depth of flow
collections, the columns of open block collections with the innermost first, whether a
key may begin, and for each flow depth the key that may have begun. -/
structure Lexing where
  cursor : Cursor
  tokens : Array Token := #[]
  flowDepth : Nat := 0
  columns : List Nat := []
  keyAllowed : Bool := true
  keys : List (Option SimpleKey) := [none]

namespace Lexing

/-- Whether the place is inside a flow collection. -/
def inFlow (state : Lexing) : Bool := 0 < state.flowDepth

/-- Add a token. -/
def push (state : Lexing) (token : Token) : Lexing :=
  { state with tokens := state.tokens.push token }

/-- Go past some characters. -/
def skip (state : Lexing) (count : Nat) : Lexing :=
  { state with cursor := state.cursor.skip count }

/-- Say whether a key may begin. -/
def allowKey (state : Lexing) (allowed : Bool) : Lexing := { state with keyAllowed := allowed }

/-- Close the block collections that are indented more than a column. -/
def closeBlocks (column : Option Nat) : List Nat → Array Token → List Nat × Array Token
  | [], tokens => ([], tokens)
  | innermost :: outer, tokens =>
      if column.all (· < innermost) then closeBlocks column outer (tokens.push .blockEnd)
      else (innermost :: outer, tokens)

/-- Close the block collections that are indented more than a column, or all of them;
in a flow collection indentation does not count. -/
def unindent (state : Lexing) (column : Option Nat) : Lexing :=
  if state.inFlow then state
  else
    let (columns, tokens) := closeBlocks column state.columns state.tokens
    { state with columns, tokens }

/-- Open a block collection at a column that is indented more than the innermost one;
its token stands at `number`, or at the end. -/
def indent (state : Lexing) (column : Nat) (number : Option Nat) (token : Token) : Lexing :=
  if state.inFlow ∨ !(state.columns.head?.all (· < column)) then state
  else
    { state with
      columns := column :: state.columns
      tokens := match number with
        | some number => state.tokens.insertIdxIfInBounds number token
        | none => state.tokens.push token }

/-- Forget the key that may have begun; a required one is an error. -/
def dropKey (state : Lexing) : Option Lexing :=
  match state.keys with
  | some key :: outer => if key.required then none else some { state with keys := none :: outer }
  | _ => some state

/-- Note that a key may begin here, if one may. -/
def noteKey (state : Lexing) : Option Lexing :=
  if state.keyAllowed then do
    let state ← state.dropKey
    let cursor := state.cursor
    let key : SimpleKey :=
      { required := !state.inFlow && state.columns.head? == some cursor.column
        number := state.tokens.size
        line := cursor.line
        column := cursor.column
        index := cursor.index }
    some { state with keys := some key :: state.keys.drop 1 }
  else some state

/-- Forget keys that did not end on their line or within 1024 characters; a required
one is an error. -/
def dropStaleKeys (state : Lexing) : Option Lexing := do
  let keys ← state.keys.mapM fun key =>
    match key with
    | none => some none
    | some key =>
        if key.line < state.cursor.line ∨ key.index + 1024 < state.cursor.index then
          if key.required then none else some none
        else some (some key)
  some { state with keys }

/-- Go past blanks, comments and line breaks to the next token. A tab may not stand
where a key of a block may begin. -/
def toNextToken : Nat → Lexing → Lexing
  | 0, state => state
  | fuel + 1, state =>
      let cursor := state.cursor
      let cursor :=
        if cursor.column = 0 ∧ cursor.sees byteOrderMark then cursor.skip 1 else cursor
      let tabs := state.inFlow || !state.keyAllowed
      let cursor := cursor.skipWhile fun c => c == ' ' || (tabs && c == '\t')
      let cursor := if cursor.sees '#' then cursor.skipWhile (fun c => !isBreak c) else cursor
      if cursor.seesBreak then
        toNextToken fuel
          { state with
            cursor := cursor.takeBreak.2
            keyAllowed := state.keyAllowed || !state.inFlow }
      else { state with cursor }

/-- Read the name of an anchor or alias after its mark. -/
def readAnchorName (cursor : Cursor) : Option (List Char × Cursor) :=
  let (name, cursor) := cursor.takeWhile isWordChar
  let ends := cursor.seesGap ||
    (cursor.peek).any (['?', ':', ',', ']', '\x7d', '%', '@', '\x60'].contains ·)
  if name = [] ∨ !ends then none else some (name, cursor)

/-- How many bytes the encoding of a character has, by its first. -/
def encodedLength? (first : Nat) : Option Nat :=
  if first < 0x80 then some 1
  else if 0xC0 ≤ first ∧ first < 0xE0 then some 2
  else if 0xE0 ≤ first ∧ first < 0xF0 then some 3
  else if 0xF0 ≤ first ∧ first < 0xF8 then some 4
  else none

/-- Read one byte written after a percent sign. -/
def readTagByte (text : List Char) : Option (Nat × List Char) :=
  match text with
  | '%' :: rest => Text.readHex 0 2 rest
  | _ => none

/-- Read the other bytes of an escaped character. -/
def readTagBytes : Nat → Nat → List Char → Option (Nat × List Char)
  | 0, code, text => some (code, text)
  | count + 1, code, text => do
      let (byte, rest) ← readTagByte text
      if byte / 64 = 2 then readTagBytes count (64 * code + byte % 64) rest else none

/-- Read a character of a tag that is written as escaped bytes. -/
def readTagEscape (text : List Char) : Option (Char × List Char) := do
  let (first, rest) ← readTagByte text
  let length ← encodedLength? first
  let lead := if length = 1 then first else first % Nat.pow 2 (7 - length)
  let (code, rest) ← readTagBytes (length - 1) lead rest
  let c ← Text.charOfCode? code
  some (c, rest)

/-- Read the characters of a tag. -/
def readTagText (verbatim : Bool) : Nat → List Char → Cursor → Option (List Char × Cursor)
  | 0, _, _ => none
  | fuel + 1, text, cursor =>
      match cursor.peek with
      | none => some (text, cursor)
      | some c =>
          if c = '%' then do
            let (c, rest) ← readTagEscape cursor.rest
            readTagText verbatim fuel (text ++ [c])
              (cursor.skip (cursor.rest.length - rest.length))
          else if isTagChar verbatim c then
            readTagText verbatim fuel (text ++ [c]) (cursor.skip 1)
          else some (text, cursor)

/-- Read a tag handle, or what may be the beginning of a tag without one. -/
def readHandle (cursor : Cursor) : Option (List Char × Cursor) :=
  if cursor.sees '!' then
    let (word, cursor) := (cursor.skip 1).takeWhile isWordChar
    if cursor.sees '!' then some ('!' :: word ++ ['!'], cursor.skip 1)
    else some ('!' :: word, cursor)
  else none

/-- Read a tag that begins with an exclamation mark. -/
def readTag (inFlow : Bool) (cursor : Cursor) : Option (Token × Cursor) := do
  let fuel := cursor.rest.length + 1
  let (token, cursor) ←
    if cursor.sees '<' 1 then do
      let (text, cursor) ← readTagText true fuel [] (cursor.skip 2)
      if text ≠ [] ∧ cursor.sees '>' then some (Token.tag [] text, cursor.skip 1) else none
    else do
      let (handle, after) ← readHandle cursor
      if 1 < handle.length ∧ handle.getLast? = some '!' then
        let (suffix, cursor) ← readTagText false fuel [] after
        if suffix = [] then none else some (Token.tag handle suffix, cursor)
      else
        let (suffix, cursor) ← readTagText false fuel (handle.drop 1) after
        some (if suffix = [] then Token.tag [] ['!'] else Token.tag ['!'] suffix, cursor)
  if (inFlow && cursor.sees ',') || cursor.seesGap then some (token, cursor) else none

/-- Read a number of a version: one to nine digits. -/
def readVersionNumber (cursor : Cursor) : Option (Nat × Cursor) :=
  let (digits, cursor) := cursor.takeWhile Char.isDigit
  if digits = [] ∨ 9 < digits.length then none
  else some (digits.foldl (fun value c => 10 * value + (c.toNat - '0'.toNat)) 0, cursor)

/-- Read a directive after its percent sign, up to the end of the line. -/
def readDirective (cursor : Cursor) : Option (Token × Cursor) := do
  let (name, cursor) := cursor.takeWhile isWordChar
  let cursor ← if cursor.seesGap then some (cursor.skipWhile isBlank) else none
  let (token, cursor) ←
    if name = ['Y', 'A', 'M', 'L'] then do
      let (major, cursor) ← readVersionNumber cursor
      let cursor ← if cursor.sees '.' then some (cursor.skip 1) else none
      let (minor, cursor) ← readVersionNumber cursor
      some (Token.version major minor, cursor)
    else if name = ['T', 'A', 'G'] then do
      let (handle, cursor) ← readHandle cursor
      if handle ≠ ['!'] ∧ (handle.length = 1 ∨ handle.getLast? ≠ some '!') then none
      else
        let cursor ← if cursor.seesBlank then some (cursor.skipWhile isBlank) else none
        let (expansion, cursor) ← readTagText true (cursor.rest.length + 1) [] cursor
        if expansion ≠ [] ∧ cursor.seesGap then some (Token.tagHandle handle expansion, cursor)
        else none
    else none
  let cursor := cursor.skipToLineEnd
  if cursor.seesLineEnd then some (token, cursor.takeBreak.2) else none

/-- Take the colon of a key or of a value without key. -/
def takeValue (state : Lexing) : Option Lexing :=
  match state.keys with
  | some key :: outer =>
      let state := { state with
        keys := none :: outer
        tokens := state.tokens.insertIdxIfInBounds key.number .key }
      some ((((state.indent key.column (some key.number) .blockMappingStart).allowKey false).skip
        1).push .value)
  | _ =>
      if state.inFlow then some (((state.allowKey false).skip 1).push .value)
      else if state.keyAllowed then
        some ((((state.indent state.cursor.column none .blockMappingStart).allowKey true).skip
          1).push .value)
      else none

/-- Take a mark of a block: of an entry, or of a key. It may only stand where a key may
begin, and is not checked in a flow collection. -/
def takeBlockMark (state : Lexing) (opening mark : Token) : Option Lexing := do
  let state ←
    if state.inFlow then some state
    else if state.keyAllowed then some (state.indent state.cursor.column none opening)
    else none
  let state ← state.dropKey
  some ((state.skip 1).push mark)

/-- Take a token that may begin a key. -/
def takeContent (state : Lexing) (read : Cursor → Option (Token × Cursor)) : Option Lexing := do
  let state ← state.noteKey
  let (token, cursor) ← read state.cursor
  some ({ state with cursor, keyAllowed := false }.push token)

/-- Take a plain scalar. After it, a key may begin on a new line. -/
def takePlain (state : Lexing) : Option Lexing := do
  let state ← state.noteKey
  let (text, broken, cursor) ←
    readPlain state.inFlow ((state.columns.head?.map (· + 1)).getD 0)
      (state.cursor.rest.length + 2) [] {} state.cursor
  some ({ state with cursor, keyAllowed := broken }.push (.scalar text true))

/-- Take a block scalar after its mark. -/
def takeBlock (state : Lexing) (literal : Bool) : Option Lexing := do
  let state ← state.dropKey
  let (text, cursor) ← readBlock literal state.columns.head? (state.cursor.skip 1)
  some ({ state with cursor, keyAllowed := true }.push (.scalar text false))

/-- Take the opening bracket of a flow collection. -/
def openFlow (state : Lexing) (token : Token) : Option Lexing := do
  let state ← state.noteKey
  some (({ state with
    keys := none :: state.keys
    flowDepth := state.flowDepth + 1
    keyAllowed := true }.skip 1).push token)

/-- Take the closing bracket of a flow collection. -/
def closeFlow (state : Lexing) (token : Token) : Option Lexing := do
  let state ← state.dropKey
  some (({ state with
    keys := if state.inFlow then state.keys.drop 1 else state.keys
    flowDepth := state.flowDepth - 1
    keyAllowed := false }.skip 1).push token)

/-- Take a document boundary. -/
def takeBoundary (state : Lexing) (token : Token) : Option Lexing := do
  let state ← (state.unindent none).dropKey
  some (((state.allowKey false).skip 3).push token)

/-- Whether a plain scalar may begin with a character. -/
def beginsPlain (state : Lexing) (c : Char) : Bool :=
  let cursor := state.cursor
  if c = '-' then !cursor.seesBlank 1
  else if c = '?' || c = ':' then !state.inFlow && !cursor.seesGap 1
  else
    !([',', '[', ']', '\x7b', '\x7d', '#', '&', '*', '!', '|', '>', '\'', '"', '%', '@',
      '\x60'].contains c || isBlank c || isBreak c)

/-- Take the next token, which begins with `c`. -/
def takeToken (state : Lexing) (c : Char) : Option Lexing :=
  let cursor := state.cursor
  if cursor.column = 0 ∧ c = '%' then do
    let state ← (state.unindent none).dropKey
    let (token, cursor) ← readDirective (state.cursor.skip 1)
    some ({ state with cursor, keyAllowed := false }.push token)
  else if cursor.seesBoundary '-' then state.takeBoundary .documentStart
  else if cursor.seesBoundary '.' then state.takeBoundary .documentEnd
  else if c = '[' then state.openFlow .flowSequenceStart
  else if c = '\x7b' then state.openFlow .flowMappingStart
  else if c = ']' then state.closeFlow .flowSequenceEnd
  else if c = '\x7d' then state.closeFlow .flowMappingEnd
  else if c = ',' then
    (state.dropKey).map fun state => ((state.allowKey true).skip 1).push .flowEntry
  else if c = '-' && cursor.seesGap 1 then
    (state.takeBlockMark .blockSequenceStart .blockEntry).map (·.allowKey true)
  else if c = '?' && (state.inFlow || cursor.seesGap 1) then
    (state.takeBlockMark .blockMappingStart .key).map fun state => state.allowKey (!state.inFlow)
  else if c = ':' && (state.inFlow || cursor.seesGap 1) then state.takeValue
  else if c = '*' then
    state.takeContent fun cursor =>
      (readAnchorName (cursor.skip 1)).map fun (name, cursor) => (.alias name, cursor)
  else if c = '&' then
    state.takeContent fun cursor =>
      (readAnchorName (cursor.skip 1)).map fun (name, cursor) => (.anchor name, cursor)
  else if c = '!' then state.takeContent (readTag state.inFlow)
  else if c = '|' && !state.inFlow then state.takeBlock true
  else if c = '>' && !state.inFlow then state.takeBlock false
  else if c = '\'' || c = '"' then
    state.takeContent fun cursor =>
      (readQuoted (c = '\'') (cursor.rest.length + 1) [] (cursor.skip 1)).map
        fun (text, cursor) => (.scalar text false, cursor)
  else if state.beginsPlain c then state.takePlain
  else none

/-- Take all tokens. -/
def run : Nat → Lexing → Option (Array Token)
  | 0, _ => none
  | fuel + 1, state => do
      let state ← (toNextToken (state.cursor.rest.length + 1) state).dropStaleKeys
      let state := state.unindent (some state.cursor.column)
      match state.cursor.peek with
      | none =>
          let state ← (state.unindent none).dropKey
          some state.tokens
      | some c =>
          let state ← state.takeToken c
          run fuel state

end Lexing

/-- The tokens of a text. A byte order mark at the very beginning does not count. -/
def Token.ofText? (text : List Char) : Option (List Token) :=
  let text := match text with
    | c :: rest => if c = byteOrderMark then rest else text
    | [] => []
  if text.all isPrintable then
    (Lexing.run (text.length + 2) { cursor := { rest := text } }).map Array.toList
  else none

end Yaml

end FormValidity
