import FormValidity.Binary64.Shortest

/-! # Numbers of a document

A number is an integer of 64 bits, signed or unsigned, or a double. The two kinds
differ as stored values, so `5` and `5.0` are two numbers with two texts.
-/

namespace FormValidity

/-- A number as a document stores it. -/
inductive Number where
  | integer (n : Int)
  | double (x : Binary64)
  deriving DecidableEq, Repr

/-- How the text of a double is laid out: a positional text is used while the
decimal point stands between two places, counted from the first digit. -/
structure DoubleLayout where
  /-- Least place of the point for a positional text. -/
  leastPoint : Int
  /-- Greatest place of the point for a positional text. -/
  greatestPoint : Int

namespace Number

/-- Doubles from `1e-5` up to, not including, `1e16` are written positionally with
at least one decimal; others with a signed exponent. -/
def layout : DoubleLayout := ⟨-4, 16⟩

/-- A run of zeros. -/
def zeros (count : Nat) : List Char := List.replicate count '0'

/-- The text of a positive decimal. -/
def decimalText (d : Decimal) : List Char :=
  let digits := Nat.toDigits 10 d.digits
  let point : Int := digits.length + d.exponent
  if layout.leastPoint ≤ point ∧ point ≤ layout.greatestPoint then
    if 0 ≤ d.exponent then digits ++ zeros d.exponent.toNat ++ ['.', '0']
    else if 0 < point then digits.take point.toNat ++ '.' :: digits.drop point.toNat
    else '0' :: '.' :: zeros (-point).toNat ++ digits
  else
    let fraction := if digits.length = 1 then [] else '.' :: digits.drop 1
    let exponent := point - 1
    digits.take 1 ++ fraction ++ 'e' :: (if exponent < 0 then '-' else '+') ::
      Nat.toDigits 10 exponent.natAbs

/-- The text of a double. -/
def doubleText : Binary64 → List Char
  | .nan => ['N', 'a', 'N']
  | .infinite negative => (if negative then ['-'] else []) ++ ['i', 'n', 'f']
  | .finite negative units =>
      (if negative then ['-'] else []) ++
        (if units = 0 then ['0', '.', '0'] else decimalText (Binary64.shortest units))

/-- The text of an integer. -/
def integerText (n : Int) : List Char :=
  (if n < 0 then ['-'] else []) ++ Nat.toDigits 10 n.natAbs

/-- The text of a number. -/
def text : Number → String
  | .integer n => String.ofList (integerText n)
  | .double x => String.ofList (doubleText x)

/-- The double a number stands for: an integer is rounded. -/
def toBinary64 : Number → Binary64
  | .integer n => .ofInt n
  | .double x => x

/-- Whether the number is stored as an integer. -/
def isInteger : Number → Bool
  | .integer _ => true
  | .double _ => false

/-- Equality of stored numbers: an integer is never equal to a double. -/
def equal : Number → Number → Bool
  | .integer m, .integer n => m == n
  | .double x, .double y => x.numEq y
  | _, _ => false

/-- Whether a number is a zero of either kind, or no number at all. -/
def isZeroOrNaN (n : Number) : Bool := n.toBinary64.isZero || n.toBinary64.isNaN

end Number

end FormValidity
