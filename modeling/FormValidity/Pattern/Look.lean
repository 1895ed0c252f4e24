import FormValidity.Unicode.Property

/-! # Conditions on positions

A condition looks at the characters on both sides of a position and consumes none. -/

namespace FormValidity

/-- Conditions on a position of the text. Words consist of word characters, or of
those of ASCII. -/
inductive Look where
  | textStart
  | textEnd
  | lineStart (crlf : Bool)
  | lineEnd (crlf : Bool)
  | boundary (ascii : Bool)
  | notBoundary (ascii : Bool)
  | wordStart (ascii : Bool)
  | wordEnd (ascii : Bool)
  | wordStartHalf (ascii : Bool)
  | wordEndHalf (ascii : Bool)
  deriving DecidableEq, Repr

/-- Whether a character of ASCII belongs to a word. -/
def isAsciiWordCharacter (c : Char) : Bool := c.isAlphanum || c == '_'

namespace Look

/-- Whether there is a word character. -/
def onWord (ascii : Bool) : Option Char → Bool
  | some c => if ascii then isAsciiWordCharacter c else Unicode.isWordCharacter c
  | none => false

/-- Whether a condition holds between the character before a position, if any, and
the one after it. -/
def holds : Look → Option Char → Option Char → Bool
  | .textStart, before, _ => before.isNone
  | .textEnd, _, after => after.isNone
  | .lineStart false, before, _ => before.isNone || before == some '\n'
  | .lineStart true, before, after =>
      before.isNone || before == some '\n' || (before == some '\r' && after != some '\n')
  | .lineEnd false, _, after => after.isNone || after == some '\n'
  | .lineEnd true, before, after =>
      after.isNone || after == some '\r' || (after == some '\n' && before != some '\r')
  | .boundary ascii, before, after => onWord ascii before != onWord ascii after
  | .notBoundary ascii, before, after => onWord ascii before == onWord ascii after
  | .wordStart ascii, before, after => !onWord ascii before && onWord ascii after
  | .wordEnd ascii, before, after => onWord ascii before && !onWord ascii after
  | .wordStartHalf ascii, before, _ => !onWord ascii before
  | .wordEndHalf ascii, _, after => !onWord ascii after

end Look

end FormValidity
