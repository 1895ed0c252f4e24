import FormValidity.Binary64.Reading
import FormValidity.Number

/-! # Numbers of a JSON text

A number without fraction and exponent that fits 64 bits, signed or unsigned, is an
integer. Any other number is a double, found from the first digits that fit 64 bits
(`Significand`) and a power of ten with one rounding each, so a long number may
differ in the last place from the nearest double. A magnitude past the largest
double is an error.
-/

namespace FormValidity

namespace Json

/-- The first integer that 64 bits cannot hold. -/
def unsignedLimit : Nat := Nat.pow 2 64

/-- The first integer past the signed ones. -/
def signedLimit : Nat := Nat.pow 2 63

/-- The greatest exponent that is counted. -/
def exponentLimit : Nat := Nat.pow 2 31 - 1

/-- The digits of a number read so far, as far as 64 bits hold them, and the power
of ten they are to be scaled by. -/
structure Significand where
  value : Nat
  exponent : Int

/-- Whether one more digit would not fit. -/
def Significand.full (s : Significand) (digit : Char) : Bool :=
  unsignedLimit ≤ 10 * s.value + Binary64.digitsValue [digit]

/-- Take in digits of the integer part: past the limit each only raises the exponent. -/
def Significand.whole (s : Significand) : List Char → Significand
  | [] => s
  | digit :: rest =>
      if s.full digit then ⟨s.value, s.exponent + (rest.length + 1)⟩
      else whole ⟨10 * s.value + Binary64.digitsValue [digit], s.exponent⟩ rest

/-- Take in digits of the fraction: past the limit they are dropped. -/
def Significand.fraction (s : Significand) : List Char → Significand
  | [] => s
  | digit :: rest =>
      if s.full digit then s
      else fraction ⟨10 * s.value + Binary64.digitsValue [digit], s.exponent - 1⟩ rest

/-- The power of ten as a double; `exponent` is at most 308. -/
def powerOfTen (exponent : Nat) : Binary64 := .ofRatio false (Nat.pow 10 exponent) 1

/-- Combine two magnitudes by an operation that rounds once. -/
def combine (operation : Nat → Nat → Binary64) : Binary64 → Binary64 → Binary64
  | .finite _ m, .finite _ n => operation m n
  | _, _ => .nan

/-- Divide by `1e308` until the exponent is one that a power of ten can make good,
or nothing is left. -/
def scaleDown : Nat → Binary64 → Nat → Binary64
  | 0, x, _ => x
  | fuel + 1, x, exponent =>
      if exponent ≤ 308 then combine .divUnits x (powerOfTen exponent)
      else if x.isZero then x
      else scaleDown fuel (combine .divUnits x (powerOfTen 308)) (exponent - 308)

/-- The magnitude `value * 10 ^ exponent`, rounded after each step; none if it
overflows. -/
def scale? (value : Nat) (exponent : Int) : Option Binary64 :=
  let x := Binary64.ofInt value
  if exponent < 0 then some (scaleDown 5 x exponent.natAbs)
  else if exponent ≤ 308 then
    let product := combine .mulUnits x (powerOfTen exponent.toNat)
    if product.isFinite then some product else none
  else if x.isZero then some x
  else none

/-- Give a magnitude its sign. -/
def signed (negative : Bool) (x : Binary64) : Binary64 := if negative then x.neg else x

/-- The double of a significand with a written exponent. An exponent that is not
counted makes zero or an error. -/
def double? (negative : Bool) (s : Significand) (written : Option (Bool × List Char)) :
    Option Number :=
  match written with
  | none => (scale? s.value s.exponent).map fun x => .double (signed negative x)
  | some (down, digits) =>
      let power := Binary64.digitsValue digits
      if exponentLimit < power then
        if s.value ≠ 0 ∧ down = false then none else some (.double (.zero negative))
      else
        (scale? s.value (if down then s.exponent - power else s.exponent + power)).map fun x =>
          .double (signed negative x)

/-- The number of digits without fraction and exponent. -/
def whole? (negative : Bool) (digits : List Char) : Option Number :=
  let value := Binary64.digitsValue digits
  if negative then
    if 0 < value ∧ value ≤ signedLimit then some (.integer (-value))
    else double? true (Significand.whole ⟨0, 0⟩ digits) none
  else if value < unsignedLimit then some (.integer value)
  else double? false (Significand.whole ⟨0, 0⟩ digits) none

/-- The parts of a number as written. -/
structure NumberText where
  negative : Bool
  whole : List Char
  /-- The digits after the point, if there is a point. -/
  fraction : Option (List Char)
  /-- Whether the exponent is negative, and its digits, if there is one. -/
  exponent : Option (Bool × List Char)

/-- Read the digits after an exponent mark. -/
def readExponent (rest : List Char) : Option ((Bool × List Char) × List Char) :=
  let (down, rest) := Binary64.takeSign rest
  let digits := rest.takeWhile Char.isDigit
  if digits = [] then none else some ((down, digits), rest.dropWhile Char.isDigit)

/-- Read a number: a leading zero stands alone, and a point and an exponent mark
are followed by digits. -/
def readNumberText (text : List Char) : Option (NumberText × List Char) := do
  let (negative, rest) := match text with
    | '-' :: rest => (true, rest)
    | rest => (false, rest)
  let whole := rest.takeWhile Char.isDigit
  let rest := rest.dropWhile Char.isDigit
  if whole = [] ∨ (whole.head? = some '0' ∧ 1 < whole.length) then none
  else
    let (fraction, rest) ← match rest with
      | '.' :: after =>
          let digits := after.takeWhile Char.isDigit
          if digits = [] then none else some (some digits, after.dropWhile Char.isDigit)
      | rest => some (none, rest)
    let (exponent, rest) ← match rest with
      | mark :: after =>
          if mark = 'e' ∨ mark = 'E' then
            (readExponent after).map fun (exponent, rest) => (some exponent, rest)
          else some (none, rest)
      | [] => some (none, [])
    some (⟨negative, whole, fraction, exponent⟩, rest)

/-- The number that a text stands for; none if it is out of range. -/
def NumberText.value? (n : NumberText) : Option Number :=
  match n.fraction, n.exponent with
  | none, none => whole? n.negative n.whole
  | fraction, exponent =>
      double? n.negative ((Significand.whole ⟨0, 0⟩ n.whole).fraction (fraction.getD [])) exponent

end Json

end FormValidity
