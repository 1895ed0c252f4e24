import FormValidity.Binary64.Basic

/-! # The shortest decimal that reads back

Among the decimals `digits * 10 ^ exponent` that round to a given magnitude, the
text of a double uses one with the fewest digits, and of those the nearest
(`Binary64.shortest`). The search goes down the decimal grids: the first grid
with a point inside the rounding interval gives the fewest digits, and if a grid
has such a point then one of the two neighbours of the magnitude on it is one.
-/

namespace FormValidity

/-- The decimal `digits * 10 ^ exponent`. -/
structure Decimal where
  digits : Nat
  exponent : Int
  deriving DecidableEq, Repr

namespace Binary64

/-- How many decimal digits a number has. -/
def decimalLength (n : Nat) : Nat := (Nat.toDigits 10 n).length

/-- Whether `4 * num / den` units lies among the reals that round to `units`: from
halfway below to halfway above, both ends included when the significand is even.
Below a power of two the spacing is half as wide. -/
def roundsTo (units num den : Nat) : Bool :=
  let step := spacing units
  let below := if units = step * Nat.pow 2 52 ∧ 1 < step then step else 2 * step
  let low := (4 * units - below) * den
  let high := (4 * units + 2 * step) * den
  if units / step % 2 = 0 then low ≤ 4 * num && 4 * num ≤ high
  else low < 4 * num && 4 * num < high

/-- The neighbour of `units` on the grid of multiples of `10 ^ exponent` that reads
back as `units`; of two, the nearer, and of two equally near the even one. -/
def onGrid? (units : Nat) (exponent : Int) : Option Nat :=
  let num := unitsPerOne * Nat.pow 10 exponent.toNat
  let den := Nat.pow 10 (-exponent).toNat
  let floor := units * den / num
  let low := 0 < floor && roundsTo units (floor * num) den
  let high := roundsTo units ((floor + 1) * num) den
  match low, high with
  | true, true => some (roundHalfEven (units * den) num)
  | true, false => some floor
  | false, true => some (floor + 1)
  | false, false => none

/-- Search the grids from `exponent` downwards. -/
def searchGrids (units : Nat) : Nat → Int → Decimal
  | 0, exponent => ⟨0, exponent⟩
  | fuel + 1, exponent =>
      match onGrid? units exponent with
      | some digits => ⟨digits, exponent⟩
      | none => searchGrids units fuel (exponent - 1)

/-- A power of ten that is at least a tenth of the magnitude and less than ten
times it. -/
def leadingExponent (units : Nat) : Int :=
  if unitsPerOne ≤ units then decimalLength (units / unitsPerOne)
  else 2 - decimalLength (unitsPerOne / units)

/-- Move trailing zeros of the digits into the exponent. -/
def stripZeros : Nat → Decimal → Decimal
  | 0, d => d
  | fuel + 1, d =>
      if d.digits ≠ 0 ∧ d.digits % 10 = 0 then stripZeros fuel ⟨d.digits / 10, d.exponent + 1⟩
      else d

/-- The shortest decimal that reads back as a positive magnitude: seventeen digits
always suffice. -/
def shortest (units : Nat) : Decimal :=
  stripZeros 20 (searchGrids units 20 (leadingExponent units))

end Binary64

end FormValidity
