import FormValidity.Text.Hex

/-! # Quoted strings

Strings on one line between double quotes, and what may follow a backslash in them, as
configuration texts have them.
-/

namespace FormValidity

namespace Text

/-- Read an escape after its backslash: a letter or mark, or `u` and `U` with four and
eight hexadecimal digits. -/
def readEscape : List Char → Option (Char × List Char)
  | '"' :: rest => some ('"', rest)
  | '\\' :: rest => some ('\\', rest)
  | 'b' :: rest => some ('\x08', rest)
  | 't' :: rest => some ('\t', rest)
  | 'n' :: rest => some ('\n', rest)
  | 'f' :: rest => some ('\x0c', rest)
  | 'r' :: rest => some ('\r', rest)
  | 'u' :: rest => (readHex 0 4 rest).bind fun (code, rest) => (charOfCode? code).map (·, rest)
  | 'U' :: rest => (readHex 0 8 rest).bind fun (code, rest) => (charOfCode? code).map (·, rest)
  | _ => none

/-- Whether a character may stand in a line of text: all but the control characters of
ASCII, of which only the tab may. -/
def isInline (c : Char) : Bool := c == '\t' || (0x20 ≤ c.toNat && c.toNat ≠ 0x7F)

/-- Read a string up to its closing double quote. The fuel bounds the number of
characters. -/
def readQuotedTail : Nat → List Char → Option (List Char × List Char)
  | 0, _ => none
  | _ + 1, [] => none
  | _ + 1, '"' :: rest => some ([], rest)
  | fuel + 1, '\\' :: rest => do
      let (c, rest) ← readEscape rest
      let (more, rest) ← readQuotedTail fuel rest
      some (c :: more, rest)
  | fuel + 1, c :: rest =>
      if isInline c then (readQuotedTail fuel rest).map fun (more, rest) => (c :: more, rest)
      else none

/-- Read a string after its opening double quote. -/
def readQuoted (text : List Char) : Option (List Char × List Char) :=
  readQuotedTail (text.length + 1) text

end Text

end FormValidity
