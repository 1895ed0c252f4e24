import FormValidity.Binary64.Shortest

/-! # Reading a double from text

The decimal grammar of a double: an optional sign, then `inf`, `infinity` or `nan`
in any case, or digits with an optional point and an optional exponent, where at
least one digit stands beside the point. The value is the double nearest the
decimal. Digits are the ten of ASCII.
-/

namespace FormValidity

namespace Binary64

/-- The value of a run of decimal digits. -/
def digitsValue (digits : List Char) : Nat :=
  digits.foldl (fun value c => 10 * value + (c.toNat - '0'.toNat)) 0

/-- The double nearest `± digits * 10 ^ exponent`. Magnitudes from `1e310` are
infinite and those below `1e-400` are zero without being computed. -/
def ofDecimal (negative : Bool) (digits : Nat) (exponent : Int) : Binary64 :=
  let place : Int := decimalLength digits + exponent
  if digits = 0 then zero negative
  else if 311 < place then .infinite negative
  else if place < -400 then zero negative
  else ofRatio negative (digits * Nat.pow 10 exponent.toNat) (Nat.pow 10 (-exponent).toNat)

/-- Take an optional sign off; `true` is minus. -/
def takeSign : List Char → Bool × List Char
  | '-' :: rest => (true, rest)
  | '+' :: rest => (false, rest)
  | rest => (false, rest)

/-- The exponent part of a decimal: nothing, or a mark, an optional sign and at
least one digit up to the end. -/
def readExponent? : List Char → Option Int
  | [] => some 0
  | mark :: rest =>
      let (negative, digits) := takeSign rest
      if (mark = 'e' ∨ mark = 'E') ∧ digits ≠ [] ∧ digits.all Char.isDigit then
        some (if negative then -digitsValue digits else digitsValue digits)
      else none

/-- The value of an unsigned decimal. -/
def readUnsigned? (negative : Bool) (text : List Char) : Option Binary64 :=
  let whole := text.takeWhile Char.isDigit
  let rest := text.dropWhile Char.isDigit
  let (fraction, rest) := match rest with
    | '.' :: after => (after.takeWhile Char.isDigit, after.dropWhile Char.isDigit)
    | _ => ([], rest)
  if whole = [] ∧ fraction = [] then none
  else
    (readExponent? rest).map fun exponent =>
      ofDecimal negative (digitsValue (whole ++ fraction)) (exponent - fraction.length)

/-- The double a text denotes, if it denotes one. -/
def read? (text : List Char) : Option Binary64 :=
  let (negative, body) := takeSign text
  let word := body.map Char.toLower
  if word = ['i', 'n', 'f'] ∨ word = ['i', 'n', 'f', 'i', 'n', 'i', 't', 'y'] then
    some (.infinite negative)
  else if word = ['n', 'a', 'n'] then some .nan
  else readUnsigned? negative body

end Binary64

end FormValidity
