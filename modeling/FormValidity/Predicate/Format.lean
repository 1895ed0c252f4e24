import FormValidity.Pattern.Matching

/-! # Formats

The expressions behind the built-in formats and the numerals. Each is anchored at
both ends, so it matches whole texts only. Digits are the decimal digits of any
script.
-/

namespace FormValidity

namespace Format

open Regular

/-- A decimal digit. -/
def digit : Expression := .oneOf (.property .decimalDigit)

/-- One character. -/
def char (c : Char) : Expression := .oneOf (.single c)

/-- One or more, as many as possible. -/
def some (e : Expression) : Expression := .plus true e

/-- One or none. -/
def maybe (e : Expression) : Expression := .optional true e

/-- The whole text. -/
def whole (e : Expression) : Expression := .seq (.look .textStart) (.seq e (.look .textEnd))

/-- The letters of ASCII. -/
def letters : CharClass := .ranges [('A', 'Z'), ('a', 'z')]

/-- The characters before the at sign of an address. -/
def mailboxChars : CharClass :=
  .union (.ranges [('A', 'Z'), ('a', 'z'), ('0', '9')])
    (.unions (['.', '_', '%', '+', '-'].map .single))

/-- The characters of a domain. -/
def domainChars : CharClass :=
  .union (.ranges [('A', 'Z'), ('a', 'z'), ('0', '9')]) (.unions (['.', '-'].map .single))

/-- An address: a mailbox, an at sign, a domain, a dot and two to six letters. -/
def email : Expression :=
  whole (sequence [some (.oneOf mailboxChars), char '@', some (.oneOf domainChars), char '.',
    repeated true 2 (.some 6) (.oneOf letters)])

/-- A postal code: five digits, or five and four with an optional hyphen between. -/
def zip : Expression :=
  .alt (whole (.times 5 digit))
    (whole (sequence [.times 5 digit, maybe (char '-'), .times 4 digit]))

/-- An optional sign. -/
def sign : Expression := maybe (.oneOf (.unions (['+', '-'].map .single)))

/-- A decimal numeral: an optional sign, then digits with an optional fraction, or a
fraction alone. -/
def number : Expression :=
  whole (.seq sign (.alt (.seq (some digit) (maybe (.seq (char '.') (some digit))))
    (.seq (char '.') (some digit))))

/-- A numeral without fraction. -/
def integer : Expression := whole (.seq sign (some digit))

end Format

end FormValidity
