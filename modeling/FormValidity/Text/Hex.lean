/-! # Hexadecimal escapes

Reading a fixed number of hexadecimal digits, and the character of a code point.
-/

namespace FormValidity

namespace Text

/-- The value of a hexadecimal digit. -/
def hexDigit? (c : Char) : Option Nat :=
  let n := c.toNat
  if '0'.toNat ≤ n ∧ n ≤ '9'.toNat then some (n - '0'.toNat)
  else if 'a'.toNat ≤ n ∧ n ≤ 'f'.toNat then some (n - 'a'.toNat + 10)
  else if 'A'.toNat ≤ n ∧ n ≤ 'F'.toNat then some (n - 'A'.toNat + 10)
  else none

/-- Read exactly `count` hexadecimal digits onto `value`. -/
def readHex (value : Nat) : Nat → List Char → Option (Nat × List Char)
  | 0, rest => some (value, rest)
  | count + 1, c :: rest =>
      match hexDigit? c with
      | some digit => readHex (16 * value + digit) count rest
      | none => none
  | _ + 1, [] => none

/-- The character of a code point, if there is one. -/
def charOfCode? (code : Nat) : Option Char :=
  if code.isValidChar then some (Char.ofNat code) else none

end Text

end FormValidity
