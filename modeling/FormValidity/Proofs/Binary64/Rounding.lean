import FormValidity.Binary64.Basic
import Mathlib.Algebra.Group.Nat.Defs

/-! # Integers as doubles

A whole number is rounded to the nearest multiple of its spacing, which is one up to `2 ^ 53` and
doubles with every further bit (`Binary64.nearest`). So integers up to `2 ^ 53` are doubles as they
stand (`Binary64.nearest_eq_iff`), and a greater one is off by half its spacing at most
(`Binary64.two_mul_nearest_le`, `Binary64.two_mul_le_nearest`). An integer of 64 bits never becomes
infinite, and its double is that of its nearest one (`Binary64.ofInt_of_lt`).
-/

namespace FormValidity

namespace Binary64

/-- The whole number nearest to another one that has 53 significant bits. -/
def nearest (n : Nat) : Nat := roundHalfEven n (spacing n) * spacing n

private theorem spacing_eq (units : Nat) : spacing units = 2 ^ (units.log2 - 52) := rfl

private theorem spacing_pos (units : Nat) : 0 < spacing units := Nat.two_pow_pos _

theorem unitsPerOne_pos : 0 < unitsPerOne := by decide +kernel

/-- The exponent is left open: elaboration must not compute the power. -/
theorem unitsPerOne_eq_two_pow : ∃ exponent, unitsPerOne = 2 ^ exponent :=
  ⟨1074, by decide +kernel⟩

private theorem mul_unitsPerOne_lt {n : Nat} (bounded : n < 2 ^ 65) :
    n * unitsPerOne < overflowUnits := by
  have room : 2 ^ 65 * unitsPerOne ≤ overflowUnits := by decide +kernel
  exact Nat.lt_of_lt_of_le (Nat.mul_lt_mul_of_pos_right bounded unitsPerOne_pos) room

section Halves

variable {num den : Nat}

/-- The nearest multiple is at most half a step away. -/
theorem roundHalfEven_bounds (positive : 0 < den) :
    2 * (roundHalfEven num den * den) ≤ 2 * num + den ∧
      2 * num ≤ 2 * (roundHalfEven num den * den) + den ∧
      num / den ≤ roundHalfEven num den := by
  have split : num / den * den + num % den = num := Nat.div_add_mod' num den
  have next : (num / den + 1) * den = num / den * den + den := Nat.succ_mul _ _
  have below : num % den < den := Nat.mod_lt num positive
  have nearest_cases : roundHalfEven num den = num / den ∧ 2 * (num % den) ≤ den ∨
      roundHalfEven num den = num / den + 1 ∧ den ≤ 2 * (num % den) := by
    rw [roundHalfEven]
    split
    · omega
    · split
      · omega
      · split <;> omega
  rcases nearest_cases with ⟨rounded, near⟩ | ⟨rounded, near⟩
  · rw [rounded]
    omega
  · rw [rounded, next]
    omega

private theorem roundHalfEven_mul_right {factor : Nat} (positive : 0 < factor) :
    roundHalfEven (num * factor) (den * factor) = roundHalfEven num den := by
  have below : 2 * (num % den * factor) < den * factor ↔ 2 * (num % den) < den := by
    rw [← Nat.mul_assoc, Nat.mul_lt_mul_right positive]
  have above : den * factor < 2 * (num % den * factor) ↔ den < 2 * (num % den) := by
    rw [← Nat.mul_assoc, Nat.mul_lt_mul_right positive]
  simp only [roundHalfEven, Nat.mul_div_mul_right _ _ positive, Nat.mul_mod_mul_right, below, above]

private theorem roundHalfEven_of_dvd (positive : 0 < den) (multiple : den ∣ num) :
    roundHalfEven num den = num / den := by
  rw [roundHalfEven, Nat.mod_eq_zero_of_dvd multiple]
  exact if_pos positive

end Halves

section Whole

variable {n : Nat}

/-- Rounding goes up by half of the spacing at most. -/
theorem two_mul_nearest_le (n : Nat) : 2 * nearest n ≤ 2 * n + spacing n :=
  (roundHalfEven_bounds (spacing_pos n)).1

/-- Rounding goes down by half of the spacing at most. -/
theorem two_mul_le_nearest (n : Nat) : 2 * n ≤ 2 * nearest n + spacing n :=
  (roundHalfEven_bounds (spacing_pos n)).2.1

/-- A whole number is a double exactly if it is a multiple of its spacing. -/
theorem nearest_eq_iff : nearest n = n ↔ spacing n ∣ n := by
  constructor
  · intro same
    exact ⟨roundHalfEven n (spacing n), (Nat.mul_comm _ _).trans same |>.symm⟩
  · intro multiple
    rw [nearest, roundHalfEven_of_dvd (spacing_pos n) multiple, Nat.div_mul_cancel multiple]

/-- Numbers below a power of two are spaced by fifty-three bits less at most. -/
theorem spacing_le {bits : Nat} (bounded : n < 2 ^ (bits + 53)) : spacing n ≤ 2 ^ bits := by
  have length : n.log2 - 52 ≤ bits := by
    by_cases zero : n = 0
    · rw [zero, Nat.log2_zero]
      omega
    · have below := (Nat.log2_lt zero).mpr bounded
      omega
  exact Nat.pow_le_pow_right (by decide) length

private theorem spacing_dvd_of_le (small : n ≤ 2 ^ 53) : spacing n ∣ n := by
  rcases Nat.lt_or_eq_of_le small with below | rfl
  · have least : spacing n ≤ 1 := spacing_le below
    rw [Nat.le_antisymm least (spacing_pos n)]
    exact Nat.one_dvd n
  · exact ⟨2 ^ 52, by decide⟩

/-- Numbers up to two to the fifty-third are not rounded. -/
theorem nearest_of_le (small : n ≤ 2 ^ 53) : nearest n = n :=
  nearest_eq_iff.mpr (spacing_dvd_of_le small)

/-- No number from `2 ^ 53` on is rounded to one below. -/
theorem le_nearest (large : 2 ^ 53 ≤ n) : 2 ^ 53 ≤ nearest n := by
  have positive : n ≠ 0 := Nat.ne_of_gt (Nat.lt_of_lt_of_le (by decide) large)
  have length : 53 ≤ n.log2 := (Nat.le_log2 positive).mpr large
  have whole : 2 ^ 52 * spacing n ≤ n := by
    rw [spacing_eq, ← Nat.pow_add, Nat.add_sub_cancel' (Nat.le_of_lt length)]
    exact Nat.log2_self_le positive
  have floor : 2 ^ 52 ≤ roundHalfEven n (spacing n) :=
    Nat.le_trans ((Nat.le_div_iff_mul_le (spacing_pos n)).mpr whole)
      (roundHalfEven_bounds (spacing_pos n)).2.2
  have step : 2 ^ 1 ≤ spacing n := Nat.pow_le_pow_right (by decide) (by omega)
  calc
    2 ^ 53 = 2 ^ 52 * 2 ^ 1 := by decide
    _ ≤ nearest n := Nat.mul_le_mul floor step

private theorem log2_mul_two_pow (positive : n ≠ 0) (exponent : Nat) :
    (n * 2 ^ exponent).log2 = n.log2 + exponent := by
  induction exponent with
  | zero => rw [Nat.pow_zero, Nat.mul_one, Nat.add_zero]
  | succ exponent ih =>
      rw [Nat.pow_succ', ← Nat.mul_assoc, Nat.mul_comm n 2, Nat.mul_assoc,
        Nat.log2_two_mul (Nat.mul_ne_zero positive (Nat.ne_of_gt (Nat.two_pow_pos exponent))), ih,
        Nat.add_assoc]

/-- Rounding does not depend on the unit. -/
theorem roundUnits_mul_two_pow (n exponent : Nat) :
    roundUnits (n * 2 ^ exponent) 1 = nearest n * 2 ^ exponent := by
  by_cases zero : n = 0
  · subst zero
    rw [nearest_of_le (Nat.zero_le _), Nat.zero_mul]
    rfl
  · have length := log2_mul_two_pow zero exponent
    rw [roundUnits, Nat.div_one, Nat.one_mul]
    by_cases short : n.log2 < 53
    · have exactly : spacing (n * 2 ^ exponent) ∣ n * 2 ^ exponent := by
        rw [spacing_eq, length]
        exact Nat.dvd_mul_left_of_dvd (Nat.pow_dvd_pow 2 (by omega)) n
      rw [nearest_of_le (Nat.le_of_lt ((Nat.log2_lt zero).mp short)),
        roundHalfEven_of_dvd (spacing_pos _) exactly, Nat.div_mul_cancel exactly]
    · have step : spacing (n * 2 ^ exponent) = spacing n * 2 ^ exponent := by
        rw [spacing_eq, length, spacing_eq, ← Nat.pow_add]
        congr 1
        omega
      rw [step, roundHalfEven_mul_right (Nat.two_pow_pos exponent), nearest, Nat.mul_assoc]

end Whole

/-- An integer of 64 bits is the double of the nearest whole number. -/
theorem ofInt_of_lt {n : Int} (bounded : n.natAbs < 2 ^ 64) :
    ofInt n = .finite (n < 0) (nearest n.natAbs * unitsPerOne) := by
  have rounded : roundUnits (n.natAbs * unitsPerOne) 1 = nearest n.natAbs * unitsPerOne := by
    obtain ⟨exponent, power⟩ := unitsPerOne_eq_two_pow
    rw [power, roundUnits_mul_two_pow]
  have near := two_mul_nearest_le n.natAbs
  have step : spacing n.natAbs ≤ 2 ^ 11 := spacing_le bounded
  have small : nearest n.natAbs < 2 ^ 65 := by omega
  rw [ofInt, ofRatio, rounded]
  exact if_pos (mul_unitsPerOne_lt small)

end Binary64

end FormValidity
