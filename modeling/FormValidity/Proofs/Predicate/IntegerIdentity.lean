import FormValidity.Proofs.Binary64.Rounding
import FormValidity.Proofs.Predicate.Uniqueness
import FormValidity.Proofs.Value.LooseEq
import Mathlib.Algebra.Group.Int.Defs

/-! # Integers under loose equality

Loose equality compares numbers as doubles, so two integers of 64 bits are loosely equal exactly if
they are rounded to the same one (`Value.looseEq_integer_iff`). Below `2 ^ 53` an integer is told
apart from every other one, and so the constraints that compare values decide by identity
(`Predicate.integers_told_apart`). From there on neighbours meet: an identifier is reported as taken
that no record holds, and is found in a set that lacks it (`Predicate.mistaken_neighbour`).
-/

namespace FormValidity

/-- An integer of 64 bits, signed or unsigned. -/
def Number.Fits (n : Int) : Prop := -2 ^ 63 ≤ n ∧ n < 2 ^ 64

private theorem Number.Fits.natAbs_lt {n : Int} (fits : Fits n) : n.natAbs < 2 ^ 64 := by
  unfold Fits at fits
  omega

namespace Binary64

/-- The integer nearest to another one that has 53 significant bits. -/
def nearestInt (n : Int) : Int := if n < 0 then -nearest n.natAbs else nearest n.natAbs

/-- Rounding keeps numbers below two to the fifty-third, and takes none of the others below it. -/
theorem nearest_cases (n : Nat) : n < 2 ^ 53 ∧ nearest n = n ∨ 2 ^ 53 ≤ n ∧ 2 ^ 53 ≤ nearest n := by
  rcases Nat.lt_or_ge n (2 ^ 53) with small | large
  · exact Or.inl ⟨small, nearest_of_le (Nat.le_of_lt small)⟩
  · exact Or.inr ⟨large, le_nearest large⟩

private theorem nearest_eq_zero_iff (n : Nat) : nearest n = 0 ↔ n = 0 := by
  have cases' := nearest_cases n
  omega

/-- An integer below `2 ^ 53` is not the nearest one of any other. -/
theorem nearestInt_eq_iff_of_lt {m n : Int} (small : n.natAbs < 2 ^ 53) :
    nearestInt m = nearestInt n ↔ m = n := by
  have first := nearest_cases m.natAbs
  have second := nearest_cases n.natAbs
  unfold nearestInt
  split <;> split <;> omega

/-- Integers of 64 bits with one nearest integer are close to each other. -/
theorem natAbs_sub_le_of_nearestInt_eq {m n : Int} (fits : Number.Fits m) (other : Number.Fits n)
    (same : nearestInt m = nearestInt n) : (m - n).natAbs ≤ 2 ^ 11 := by
  have step : spacing m.natAbs ≤ 2 ^ 11 := spacing_le fits.natAbs_lt
  have otherStep : spacing n.natAbs ≤ 2 ^ 11 := spacing_le other.natAbs_lt
  have above := two_mul_nearest_le m.natAbs
  have below := two_mul_le_nearest m.natAbs
  have otherAbove := two_mul_nearest_le n.natAbs
  have otherBelow := two_mul_le_nearest n.natAbs
  unfold nearestInt at same
  split at same <;> split at same <;> omega

/-- The doubles of two integers are equal exactly if their nearest integers are. -/
theorem numEq_ofInt_iff {m n : Int} (fits : Number.Fits m) (other : Number.Fits n) :
    (ofInt m).numEq (ofInt n) ↔ nearestInt m = nearestInt n := by
  have zero := nearest_eq_zero_iff m.natAbs
  have otherZero := nearest_eq_zero_iff n.natAbs
  rw [ofInt_of_lt fits.natAbs_lt, ofInt_of_lt other.natAbs_lt, numEq_finite_iff,
    Nat.mul_right_cancel_iff unitsPerOne_pos, Nat.mul_eq_zero,
    or_iff_left (Nat.ne_of_gt unitsPerOne_pos), decide_eq_decide]
  unfold nearestInt
  split <;> split <;> omega

end Binary64

namespace Value

/-- An integer as a value. -/
abbrev integer (n : Int) : Value := .num (.integer n)

/-- **Integers are compared by their nearest doubles.** Two integers of 64 bits are loosely equal
exactly if the nearest integers with 53 significant bits are the same. This is equality if one of
the two is below `2 ^ 53`, and in any case they differ by `2 ^ 11` at most. -/
theorem looseEq_integer_iff {m n : Int} (fits : Number.Fits m) (other : Number.Fits n) :
    ((integer m).looseEq (integer n) ↔ Binary64.nearestInt m = Binary64.nearestInt n) ∧
    (n.natAbs < 2 ^ 53 → ((integer m).looseEq (integer n) ↔ m = n)) ∧
    ((integer m).looseEq (integer n) → (m - n).natAbs ≤ 2 ^ 11) := by
  have compared : (integer m).looseEq (integer n) ↔
      Binary64.nearestInt m = Binary64.nearestInt n := by
    simp only [looseEq, Number.toBinary64]
    exact Binary64.numEq_ofInt_iff fits other
  refine ⟨compared, fun small => ?_, fun same => ?_⟩
  · rw [compared, Binary64.nearestInt_eq_iff_of_lt small]
  · exact Binary64.natAbs_sub_le_of_nearestInt_eq fits other (compared.mp same)

end Value

namespace Predicate

open Number (Fits)

private theorem isFalsy_integer {n : Int} (fits : Fits n) (nonzero : n ≠ 0) :
    (Value.integer n).isFalsy = false := by
  have rounded := Binary64.nearest_eq_zero_iff n.natAbs
  have present : Binary64.nearest n.natAbs * Binary64.unitsPerOne ≠ 0 :=
    Nat.mul_ne_zero (by omega) (Nat.ne_of_gt Binary64.unitsPerOne_pos)
  have zero : (Binary64.ofInt n).isZero = false := by
    rw [Binary64.ofInt_of_lt fits.natAbs_lt, Binary64.isZero, beq_eq_false_iff_ne]
    exact present
  simp only [Value.isFalsy, Number.isZeroOrNaN, Number.toBinary64, zero, Value.isNaN_ofInt,
    Bool.or_self]

section Identity

variable {n : Int} (fits : Fits n) (small : n.natAbs < 2 ^ 53)
include fits small

private theorem any_looseEq_integer {members : List Int} (all : ∀ m ∈ members, Fits m) :
    (members.map Value.integer).any (·.looseEq (.integer n)) = decide (n ∈ members) := by
  rw [Bool.eq_iff_iff, decide_eq_true_eq, List.any_eq_true]
  constructor
  · rintro ⟨_, listed, same⟩
    obtain ⟨m, member, rfl⟩ := List.mem_map.mp listed
    have equal := ((Value.looseEq_integer_iff (all m member) fits).2.1 small).mp same
    exact equal ▸ member
  · intro member
    exact ⟨_, List.mem_map_of_mem member,
      ((Value.looseEq_integer_iff fits fits).2.1 small).mpr rfl⟩

/-- Among integers a value is taken exactly if it is held itself. -/
theorem taken_integer_iff {site : Site}
    (integers : ∀ held, HeldAt site held → ∃ m, Fits m ∧ held = .integer m) :
    Taken (.integer n) site ↔ HeldAt site (.integer n) := by
  constructor
  · rintro ⟨held, stored, same⟩
    obtain ⟨m, other, rfl⟩ := integers held stored
    have equal := ((Value.looseEq_integer_iff other fits).2.1 small).mp same
    exact equal ▸ stored
  · intro stored
    exact ⟨_, stored, ((Value.looseEq_integer_iff fits fits).2.1 small).mpr rfl⟩

/-- An integer confirms itself only. -/
theorem confirmation_integer_iff {suffix : String} {site : Site} {m : Int} (other : Fits m)
    (found : site.sibling? (site.field.confirmationName suffix) = some (.integer m)) :
    confirmation suffix (.integer n) site = .verdict true ↔ m = n := by
  have symmetric :
      (Value.integer n).looseEq (.integer m) = (Value.integer m).looseEq (.integer n) :=
    Value.looseEq_comm (.num rfl) (.num rfl)
  rw [confirmation_of_sibling found, Outcome.verdict.injEq, Value.isBlank, Bool.false_and,
    Bool.false_or, symmetric]
  exact (Value.looseEq_integer_iff other fits).2.1 small

/-- **Integers below `2 ^ 53` are compared by identity.** Such an integer is in a set of integers,
is held by records of integers, or is confirmed by an integer exactly if it is that very one. -/
theorem integers_told_apart (nonzero : n ≠ 0) (site : Site) :
    (∀ members : List Int, (∀ m ∈ members, Fits m) →
      inclusion (members.map Value.integer) (.integer n) site = .verdict (decide (n ∈ members)) ∧
      exclusion (members.map Value.integer) (.integer n) site = .verdict (decide (n ∉ members))) ∧
    ((∀ held, HeldAt site held → ∃ m, Fits m ∧ held = .integer m) →
      (uniqueness (.integer n) site = .verdict false ↔ HeldAt site (.integer n))) ∧
    ∀ suffix m, Fits m →
      site.sibling? (site.field.confirmationName suffix) = some (.integer m) →
      (confirmation suffix (.integer n) site = .verdict true ↔ m = n) := by
  have present := isFalsy_integer fits nonzero
  refine ⟨fun members all => ?_, fun integers => ?_, fun suffix m other found => ?_⟩
  · have member := any_looseEq_integer fits small all
    rw [inclusion, exclusion, ofOptional, ofOptional, ofTest, ofTest, present, member,
      Bool.false_or, Bool.false_or, decide_not]
    exact ⟨rfl, rfl⟩
  · rw [uniqueness_eq_false_iff present, taken_integer_iff fits small integers]
  · exact confirmation_integer_iff fits small other found

end Identity

/-- The record of a user and the field that tells users apart. -/
def identifierSite (identifier : Value) : Site where
  field := .parse "user.id"
  form := ⟨fun _ => some identifier, fun _ => [.obj [("id", identifier)]]⟩

/-- An identifier that no record holds is refused since a record holds its neighbour, which confirms
it and is found in its place. In a list the two are told apart. -/
theorem mistaken_neighbour :
    let held := Value.integer 9007199254740992
    let given := Value.integer 9007199254740993
    let site := identifierSite held
    held.looseEq given ∧ ¬ HeldAt site given ∧ uniqueness given site = .verdict false ∧
      inclusion [held] given site = .verdict true ∧
      confirmation "Confirmation" given site = .verdict true ∧
      (Value.arr [held]).looseEq (.arr [given]) = false := by
  intro held given site
  have meets : held.looseEq given := by decide +kernel
  have met : given.looseEq held := by decide +kernel
  have present : given.isFalsy = false := by decide +kernel
  have stored : HeldAt site held := ⟨_, List.mem_singleton_self _, attributeOf?_of_member rfl⟩
  have absent : ¬ HeldAt site given := by
    rintro ⟨record, listed, found⟩
    cases List.mem_singleton.mp listed
    have same : held = given := Option.some.inj ((attributeOf?_of_member rfl).symm.trans found)
    exact absurd (Number.integer.inj (Value.num.inj same)) (by decide)
  refine ⟨meets, absent, (uniqueness_eq_false_iff present site).mpr ⟨held, stored, meets⟩, ?_, ?_,
    by decide +kernel⟩
  · rw [inclusion, ofOptional, ofTest, List.any_cons, meets, Bool.true_or, Bool.or_true]
  · rw [confirmation_of_sibling rfl, met, Bool.or_true]

end Predicate

end FormValidity
