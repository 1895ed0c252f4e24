/-! # Places in a YAML text

A cursor holds the characters that are left and counts lines, columns and characters.
Here are also the classes of characters that the notation of YAML 1.1 knows.
-/

namespace FormValidity

namespace Yaml

/-- Whether a character may stand in a document at all. -/
def isPrintable (c : Char) : Bool :=
  let n := c.toNat
  n == 0x9 || n == 0xA || n == 0xD || (0x20 ≤ n && n ≤ 0x7E) || n == 0x85 ||
    (0xA0 ≤ n && n ≤ 0xD7FF) || (0xE000 ≤ n && n ≤ 0xFFFD) || 0x10000 ≤ n

/-- A space or a tab. -/
def isBlank (c : Char) : Bool := c == ' ' || c == '\t'

/-- A line break. -/
def isBreak (c : Char) : Bool :=
  c == '\n' || c == '\r' || c.toNat == 0x85 || c.toNat == 0x2028 || c.toNat == 0x2029

/-- The byte order mark. -/
def byteOrderMark : Char := Char.ofNat 0xFEFF

/-- The characters of anchors, handles and directive names. -/
def isWordChar (c : Char) : Bool := c.isAlphanum || c == '-' || c == '_'

/-- The characters of tags, escapes apart. Verbatim tags may hold some brackets too. -/
def isTagChar (verbatim : Bool) (c : Char) : Bool :=
  isWordChar c ||
    [';', '/', '?', ':', '@', '&', '=', '+', '$', '.', '%', '!', '~', '*', '\'', '(',
      ')'].contains c ||
    (verbatim && [',', '[', ']'].contains c)

/-- A place in a text. -/
structure Cursor where
  rest : List Char
  line : Nat := 0
  column : Nat := 0
  index : Nat := 0

namespace Cursor

/-- Go past some characters of the line. -/
def skip (cursor : Cursor) (count : Nat) : Cursor :=
  { cursor with
    rest := cursor.rest.drop count
    column := cursor.column + count
    index := cursor.index + count }

/-- The character some places ahead. -/
def peek (cursor : Cursor) (ahead : Nat := 0) : Option Char := cursor.rest[ahead]?

/-- Whether the character some places ahead is a given one. -/
def sees (cursor : Cursor) (c : Char) (ahead : Nat := 0) : Bool := cursor.peek ahead == some c

/-- Whether there is a blank ahead. -/
def seesBlank (cursor : Cursor) (ahead : Nat := 0) : Bool := (cursor.peek ahead).any isBlank

/-- Whether there is a line break ahead. -/
def seesBreak (cursor : Cursor) (ahead : Nat := 0) : Bool := (cursor.peek ahead).any isBreak

/-- Whether there is a line break or the end ahead. -/
def seesLineEnd (cursor : Cursor) (ahead : Nat := 0) : Bool := (cursor.peek ahead).all isBreak

/-- Whether there is a blank, a line break or the end ahead. -/
def seesGap (cursor : Cursor) (ahead : Nat := 0) : Bool :=
  (cursor.peek ahead).all fun c => isBlank c || isBreak c

/-- Take the characters of the line that satisfy a condition. -/
def takeWhile (cursor : Cursor) (condition : Char → Bool) : List Char × Cursor :=
  let taken := cursor.rest.takeWhile condition
  (taken, cursor.skip taken.length)

/-- Go past the characters of the line that satisfy a condition. -/
def skipWhile (cursor : Cursor) (condition : Char → Bool) : Cursor :=
  (cursor.takeWhile condition).2

/-- The place after a line break of some characters. -/
def nextLine (cursor : Cursor) (count : Nat) : Cursor :=
  { rest := cursor.rest.drop count, line := cursor.line + 1, index := cursor.index + count }

/-- Take a line break, if there is one. All breaks but the two separators of Unicode
read as a newline. -/
def takeBreak (cursor : Cursor) : List Char × Cursor :=
  match cursor.rest with
  | '\r' :: '\n' :: _ => (['\n'], cursor.nextLine 2)
  | c :: _ =>
      if !isBreak c then ([], cursor)
      else
        (if c.toNat == 0x2028 || c.toNat == 0x2029 then [c] else ['\n'], cursor.nextLine 1)
  | [] => ([], cursor)

/-- Go past blanks and a comment up to the end of the line. -/
def skipToLineEnd (cursor : Cursor) : Cursor :=
  let cursor := cursor.skipWhile isBlank
  if cursor.sees '#' then cursor.skipWhile (fun c => !isBreak c) else cursor

/-- Whether three equal marks of a document boundary stand at the beginning of a line. -/
def seesBoundary (cursor : Cursor) (mark : Char) : Bool :=
  cursor.column == 0 && cursor.sees mark && cursor.sees mark 1 && cursor.sees mark 2 &&
    cursor.seesGap 3

/-- Whether a document boundary is ahead. -/
def seesAnyBoundary (cursor : Cursor) : Bool := cursor.seesBoundary '-' || cursor.seesBoundary '.'

end Cursor

end Yaml

end FormValidity
