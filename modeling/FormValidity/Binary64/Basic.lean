/-! # Binary floating point of 64 bits

A finite double is a whole number of units of `2 ^ -1074`, the smallest positive
double, with a sign; only the zero has two signs. So comparison is comparison of
natural numbers, and every operation is an exact ratio followed by one rounding
(`roundUnits`): to the nearest magnitude with at most 53 significant bits, a tie
going to the even one.
-/

namespace FormValidity

/-- A double. The magnitude of `finite negative units` is `units * 2 ^ -1074`;
`Binary64.ofRatio` builds only those magnitudes that have 53 significant bits. -/
inductive Binary64 where
  | nan
  | infinite (negative : Bool)
  | finite (negative : Bool) (units : Nat)
  deriving DecidableEq, Repr

namespace Binary64

/-- How many units make one. -/
def unitsPerOne : Nat := Nat.pow 2 1074

/-- The first magnitude, in units, that is no finite double: `2 ^ 1024`. -/
def overflowUnits : Nat := Nat.pow 2 2098

/-- The whole number nearest `num / den`, a half going to the even one. -/
def roundHalfEven (num den : Nat) : Nat :=
  let floor := num / den
  let rest := 2 * (num % den)
  if rest < den then floor
  else if den < rest then floor + 1
  else if floor % 2 = 0 then floor else floor + 1

/-- The spacing of doubles around a magnitude of `units`. -/
def spacing (units : Nat) : Nat := Nat.pow 2 (Nat.log2 units - 52)

/-- The magnitude nearest `num / den` units, a tie going to the even one. -/
def roundUnits (num den : Nat) : Nat :=
  let step := spacing (num / den)
  roundHalfEven num (den * step) * step

/-- The double nearest `± num / den`; infinite from halfway past the largest one. -/
def ofRatio (negative : Bool) (num den : Nat) : Binary64 :=
  let units := roundUnits (num * unitsPerOne) den
  if units < overflowUnits then .finite negative units else .infinite negative

/-- The double nearest an integer. -/
def ofInt (n : Int) : Binary64 := ofRatio (n < 0) n.natAbs 1

/-- Zero with a sign. -/
def zero (negative : Bool) : Binary64 := .finite negative 0

/-- One. -/
def one : Binary64 := .finite false unitsPerOne

/-- Equality of numbers: nothing equals a NaN, and the two zeros are equal. -/
def numEq : Binary64 → Binary64 → Bool
  | .finite s m, .finite t n => m == n && (s == t || m == 0)
  | .infinite s, .infinite t => s == t
  | _, _ => false

/-- Whether the double is one of the zeros. -/
def isZero : Binary64 → Bool
  | .finite _ units => units == 0
  | _ => false

/-- Whether the double is no number. -/
def isNaN : Binary64 → Bool
  | .nan => true
  | _ => false

/-- Whether the double is a number and not infinite. -/
def isFinite : Binary64 → Bool
  | .finite _ _ => true
  | _ => false

/-- The other sign. -/
def neg : Binary64 → Binary64
  | .nan => .nan
  | .infinite s => .infinite !s
  | .finite s units => .finite (!s) units

/-- The product of two nonnegative finite magnitudes, rounded once. -/
def mulUnits (m n : Nat) : Binary64 := ofRatio false (m * n) (unitsPerOne * unitsPerOne)

/-- The quotient of two nonnegative finite magnitudes, rounded once. -/
def divUnits (m n : Nat) : Binary64 := ofRatio false m n

/-- Finite numbers are equal exactly if they have one magnitude and one sign, or are both zero. -/
@[simp] theorem numEq_finite_iff {s t : Bool} {m n : Nat} :
    (finite s m).numEq (finite t n) = true ↔ m = n ∧ (s = t ∨ m = 0) := by
  simp [numEq]

private theorem numEq_symm {x y : Binary64} (same : x.numEq y = true) : y.numEq x = true := by
  cases x with
  | nan => cases same
  | infinite s => cases y <;> simp_all [numEq]
  | finite s m =>
      cases y with
      | nan => cases same
      | infinite t => cases same
      | finite t n =>
          obtain ⟨rfl, signs⟩ := numEq_finite_iff.mp same
          exact numEq_finite_iff.mpr ⟨rfl, signs.imp_left Eq.symm⟩

/-- Equality of numbers is symmetric. -/
theorem numEq_comm (x y : Binary64) : x.numEq y = y.numEq x :=
  Bool.eq_iff_iff.mpr ⟨numEq_symm, numEq_symm⟩

/-- A finite or infinite double equals itself. -/
theorem numEq_self {x : Binary64} (number : x.isNaN = false) : x.numEq x = true := by
  cases x <;> simp_all [numEq, isNaN]

/-- Equality of numbers is transitive. -/
theorem numEq_trans {x y z : Binary64} (left : x.numEq y = true) (right : y.numEq z = true) :
    x.numEq z = true := by
  cases y with
  | nan => cases right
  | infinite t => cases x <;> cases z <;> simp_all [numEq]
  | finite t n =>
      cases x with
      | nan => cases left
      | infinite s => cases left
      | finite s m =>
          cases z with
          | nan => cases right
          | infinite u => cases right
          | finite u k =>
              obtain ⟨rfl, outer⟩ := numEq_finite_iff.mp left
              obtain ⟨rfl, inner⟩ := numEq_finite_iff.mp right
              -- Either all three signs agree, or the magnitude is zero.
              refine numEq_finite_iff.mpr ⟨rfl, ?_⟩
              rcases outer with rfl | zero
              · exact inner
              · exact Or.inr zero

end Binary64

end FormValidity
