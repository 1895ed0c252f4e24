import FormValidity.Text.Hex
import FormValidity.Yaml.Cursor

/-! # Texts of YAML scalars

Reading the four notations of a scalar that are not trivial: quoted with one or two
quotes, plain, and in a block. Line breaks fold: a single one reads as a space, and of
several the first is dropped. A reader fails where the notation is violated.
-/

namespace FormValidity

namespace Yaml

/-- What two line breaks or more, or one, read as. -/
def foldBreaks (leading trailing : List Char) : List Char :=
  if leading = ['\n'] then (if trailing = [] then [' '] else trailing) else leading ++ trailing

/-- Blanks and line breaks between two words. -/
structure Gap where
  /-- The blanks before the first break. -/
  blanks : List Char := []
  /-- Whether there is a break. -/
  broken : Bool := false
  /-- The first break. -/
  leading : List Char := []
  /-- The other breaks. -/
  trailing : List Char := []

/-- What a gap reads as. -/
def Gap.text (gap : Gap) : List Char :=
  if gap.broken then foldBreaks gap.leading gap.trailing else gap.blanks

/-- Read blanks and breaks. On a continued line, a tab before the column `indent` is
refused. -/
def readGap (indent : Nat) : Nat → Gap → Cursor → Option (Gap × Cursor)
  | 0, gap, cursor => some (gap, cursor)
  | fuel + 1, gap, cursor =>
      match cursor.peek with
      | none => some (gap, cursor)
      | some c =>
          if isBlank c then
            if gap.broken then
              if c = '\t' ∧ cursor.column < indent then none
              else readGap indent fuel gap (cursor.skip 1)
            else readGap indent fuel { gap with blanks := gap.blanks ++ [c] } (cursor.skip 1)
          else if isBreak c then
            let (taken, cursor) := cursor.takeBreak
            if gap.broken then
              readGap indent fuel { gap with trailing := gap.trailing ++ taken } cursor
            else readGap indent fuel { broken := true, leading := taken } cursor
          else some (gap, cursor)

/-- The character of a one-letter escape. -/
def escape? : Char → Option Char
  | '0' => some '\x00'
  | 'a' => some '\x07'
  | 'b' => some '\x08'
  | 't' => some '\t'
  | '\t' => some '\t'
  | 'n' => some '\n'
  | 'v' => some '\x0b'
  | 'f' => some '\x0c'
  | 'r' => some '\r'
  | 'e' => some '\x1b'
  | ' ' => some ' '
  | '"' => some '"'
  | '/' => some '/'
  | '\\' => some '\\'
  | 'N' => some (Char.ofNat 0x85)
  | '_' => some (Char.ofNat 0xA0)
  | 'L' => some (Char.ofNat 0x2028)
  | 'P' => some (Char.ofNat 0x2029)
  | _ => none

/-- How many digits a numeric escape has. -/
def escapeDigits? : Char → Option Nat
  | 'x' => some 2
  | 'u' => some 4
  | 'U' => some 8
  | _ => none

/-- Read an escape that begins with a backslash. -/
def readEscape (cursor : Cursor) : Option (Char × Cursor) := do
  let letter ← cursor.peek 1
  match escapeDigits? letter with
  | some count =>
      let after := cursor.skip 2
      let (code, _) ← Text.readHex 0 count after.rest
      let c ← Text.charOfCode? code
      some (c, after.skip count)
  | none =>
      let c ← escape? letter
      some (c, cursor.skip 2)

/-- Read the characters of a quoted scalar up to a gap or the closing quote; tells
whether an escaped line break ended them. -/
def readQuotedWord (single : Bool) : Nat → List Char → Cursor → Option (List Char × Bool × Cursor)
  | 0, _, _ => none
  | fuel + 1, text, cursor =>
      match cursor.peek with
      | none => some (text, false, cursor)
      | some c =>
          if isBlank c || isBreak c then some (text, false, cursor)
          else if single then
            if c = '\'' then
              if cursor.sees '\'' 1 then readQuotedWord single fuel (text ++ ['\'']) (cursor.skip 2)
              else some (text, false, cursor)
            else readQuotedWord single fuel (text ++ [c]) (cursor.skip 1)
          else if c = '"' then some (text, false, cursor)
          else if c = '\\' then
            if cursor.seesBreak 1 then some (text, true, ((cursor.skip 1).takeBreak).2)
            else do
              let (c, cursor) ← readEscape cursor
              readQuotedWord single fuel (text ++ [c]) cursor
          else readQuotedWord single fuel (text ++ [c]) (cursor.skip 1)

/-- Read a quoted scalar after its opening quote, past the closing one. No document
boundary may stand in it. -/
def readQuoted (single : Bool) : Nat → List Char → Cursor → Option (List Char × Cursor)
  | 0, _, _ => none
  | fuel + 1, text, cursor =>
      if cursor.seesAnyBoundary ∨ cursor.peek = none then none
      else do
        let (text, escapedBreak, cursor) ←
          readQuotedWord single (cursor.rest.length + 1) text cursor
        if !escapedBreak && cursor.sees (if single then '\'' else '"') then
          some (text, cursor.skip 1)
        else
          let (gap, cursor) ←
            readGap 0 (cursor.rest.length + 1) { broken := escapedBreak } cursor
          readQuoted single fuel (text ++ gap.text) cursor

/-- Read a word of a plain scalar. A colon ends it before a gap; in a flow collection
so do the marks of the collection, and a colon before one of these is refused. -/
def readPlainWord (flow : Bool) : Nat → List Char → Cursor → Option (List Char × Cursor)
  | 0, _, _ => none
  | fuel + 1, word, cursor =>
      match cursor.peek with
      | none => some (word, cursor)
      | some c =>
          if isBlank c || isBreak c then some (word, cursor)
          else if flow && c == ':' &&
              (cursor.peek 1).any ([',', '?', '[', ']', '\x7b', '\x7d'].contains ·) then none
          else if (c == ':' && cursor.seesGap 1) ||
              (flow && [',', '[', ']', '\x7b', '\x7d'].contains c) then
            some (word, cursor)
          else readPlainWord flow fuel (word ++ [c]) (cursor.skip 1)

/-- Read a plain scalar from its text so far and the gap after that; tells whether the
scalar ended on a line after its last word. Outside flow collections a line that is not
indented to `indent` ends it. -/
def readPlain (flow : Bool) (indent : Nat) :
    Nat → List Char → Gap → Cursor → Option (List Char × Bool × Cursor)
  | 0, _, _, _ => none
  | fuel + 1, text, gap, cursor =>
      if cursor.seesAnyBoundary || cursor.sees '#' then some (text, gap.broken, cursor)
      else do
        let (word, cursor) ← readPlainWord flow (cursor.rest.length + 1) [] cursor
        let text := if word = [] then text else text ++ gap.text ++ word
        let gap := if word = [] then gap else {}
        if cursor.seesBlank || cursor.seesBreak then
          let (gap, cursor) ← readGap indent (cursor.rest.length + 1) gap cursor
          if !flow && cursor.column < indent then some (text, gap.broken, cursor)
          else readPlain flow indent fuel text gap cursor
        else some (text, gap.broken, cursor)

/-- What becomes of the line breaks at the end of a block scalar. -/
inductive Chomping where
  | strip
  | clip
  | keep
  deriving DecidableEq

/-- Read the indentation and the breaks of empty lines. `indent` is the indentation, or
zero if it is still to be found as the widest line seen, but at least `least`. -/
def readIndentation (least : Nat) : Nat → Nat → Nat → List Char → Cursor →
    Option (Nat × List Char × Cursor)
  | 0, _, _, _, _ => none
  | fuel + 1, indent, widest, breaks, cursor =>
      let spaces := (cursor.rest.takeWhile (· == ' ')).length
      let cursor := cursor.skip (if indent = 0 then spaces else min spaces (indent - cursor.column))
      let widest := max widest cursor.column
      if (indent = 0 ∨ cursor.column < indent) ∧ cursor.sees '\t' then none
      else if cursor.seesBreak then
        let (taken, cursor) := cursor.takeBreak
        readIndentation least fuel indent widest (breaks ++ taken) cursor
      else some (if indent = 0 then max widest (max least 1) else indent, breaks, cursor)

/-- Read the lines of a block scalar. A folded one joins lines that begin with no
blank. -/
def readBlockLines (literal : Bool) (chomping : Chomping) (least indent : Nat) :
    Nat → (text leading trailing : List Char) → (afterBlank : Bool) → Cursor →
    Option (List Char × Cursor)
  | 0, _, _, _, _, _ => none
  | fuel + 1, text, leading, trailing, afterBlank, cursor =>
      if cursor.column = indent ∧ cursor.peek ≠ none then do
        let blank := cursor.seesBlank
        let joint :=
          if !literal && leading == ['\n'] && !afterBlank && !blank then
            (if trailing = [] then [' '] else []) ++ trailing
          else leading ++ trailing
        let (line, cursor) := cursor.takeWhile fun c => !isBreak c
        let (leading, cursor) := cursor.takeBreak
        let (found, trailing, cursor) ←
          readIndentation least (cursor.rest.length + 1) indent 0 [] cursor
        if found = indent then
          readBlockLines literal chomping least indent fuel (text ++ joint ++ line) leading trailing
            blank cursor
        else none
      else
        some (text ++ (if chomping = .strip then [] else leading) ++
          (if chomping = .keep then trailing else []), cursor)

/-- The indicators after the mark of a block scalar: chomping and indentation, in
either order. -/
def readBlockHeader (cursor : Cursor) : Option (Chomping × Nat × Cursor) :=
  let chomp (cursor : Cursor) : Option Chomping × Cursor :=
    if cursor.sees '+' then (some .keep, cursor.skip 1)
    else if cursor.sees '-' then (some .strip, cursor.skip 1)
    else (none, cursor)
  let digit (cursor : Cursor) : Option (Nat × Cursor) :=
    match cursor.peek with
    | some c =>
        if c = '0' then none
        else if c.isDigit then some (c.toNat - '0'.toNat, cursor.skip 1)
        else some (0, cursor)
    | none => some (0, cursor)
  match chomp cursor with
  | (some chomping, cursor) => (digit cursor).map fun (width, cursor) => (chomping, width, cursor)
  | (none, cursor) =>
      (digit cursor).map fun (width, cursor) =>
        if width = 0 then (.clip, 0, cursor)
        else
          let (chomping, cursor) := chomp cursor
          (chomping.getD .clip, width, cursor)

/-- Read a block scalar after its mark. `parent` is the indentation of the collection
around it, none outside of all. -/
def readBlock (literal : Bool) (parent : Option Nat) (cursor : Cursor) :
    Option (List Char × Cursor) := do
  let (chomping, width, cursor) ← readBlockHeader cursor
  let cursor := cursor.skipToLineEnd
  if cursor.seesLineEnd then
    let cursor := cursor.takeBreak.2
    let given := if width = 0 then 0 else parent.getD 0 + width
    let least := (parent.map (· + 1)).getD 0
    let (indent, breaks, cursor) ←
      readIndentation least (cursor.rest.length + 1) given 0 [] cursor
    readBlockLines literal chomping least indent (cursor.rest.length + 1) [] [] breaks false cursor
  else none

end Yaml

end FormValidity
