import FormValidity.Text.Quoted

/-! # Strings of TOML

Strings stand between double quotes, with escapes, or between apostrophes, without.
Three marks on either side make a string that may go over lines; a line break right
after the opening marks does not count, and up to two marks may stand before the
closing ones.
-/

namespace FormValidity

namespace Toml

/-- A space or a tab. -/
def isBlank (c : Char) : Bool := c == ' ' || c == '\t'

/-- Go past a line break, if there is one. -/
def readBreak : List Char → Option (List Char)
  | '\n' :: rest => some rest
  | '\r' :: '\n' :: rest => some rest
  | _ => none

/-- Go past blanks and line breaks. -/
def skipBlankLines : List Char → List Char
  | [] => []
  | '\r' :: '\n' :: rest => skipBlankLines rest
  | c :: rest => if isBlank c || c == '\n' then skipBlankLines rest else c :: rest

/-- Read a string on one line up to its closing apostrophe. -/
def readLiteral : List Char → Option (List Char × List Char)
  | [] => none
  | c :: rest =>
      if c = '\'' then some ([], rest)
      else if Text.isInline c then
        (readLiteral rest).map fun (more, rest) => (c :: more, rest)
      else none

/-- What a backslash in a long string stands for: at the end of a line, nothing up to
the next character that is no blank, and elsewhere an escape. -/
def readLongEscape (text : List Char) : Option (List Char × List Char) :=
  match readBreak (text.dropWhile isBlank) with
  | some rest => some ([], skipBlankLines rest)
  | none => (Text.readEscape text).map fun (c, rest) => ([c], rest)

/-- Read a long string up to its closing marks. -/
def readLong (mark : Char) (escapes : Bool) : Nat → List Char → Option (List Char × List Char)
  | 0, _ => none
  | _ + 1, [] => none
  | fuel + 1, c :: rest =>
      let continueWith (front : List Char) (rest : List Char) : Option (List Char × List Char) :=
        (readLong mark escapes fuel rest).map fun (more, rest) => (front ++ more, rest)
      if c = mark then
        let marks := (c :: rest).takeWhile (· == mark)
        if marks.length < 3 then continueWith [mark] rest
        else
          let inside := min (marks.length - 3) 2
          some (List.replicate inside mark, (c :: rest).drop (inside + 3))
      else if escapes ∧ c = '\\' then do
        let (front, rest) ← readLongEscape rest
        continueWith front rest
      else
        match readBreak (c :: rest) with
        | some rest => continueWith ['\n'] rest
        | none => if Text.isInline c then continueWith [c] rest else none

/-- Leave out a line break at the beginning. -/
def dropBreak (text : List Char) : List Char := (readBreak text).getD text

/-- Read a string on one line. -/
def readShortString : List Char → Option (List Char × List Char)
  | '"' :: rest => Text.readQuoted rest
  | '\'' :: rest => readLiteral rest
  | _ => none

/-- Read a string. -/
def readString : List Char → Option (List Char × List Char)
  | '"' :: '"' :: '"' :: rest => readLong '"' true (rest.length + 1) (dropBreak rest)
  | '\'' :: '\'' :: '\'' :: rest => readLong '\'' false (rest.length + 1) (dropBreak rest)
  | text => readShortString text

end Toml

end FormValidity
