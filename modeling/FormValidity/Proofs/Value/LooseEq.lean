import FormValidity.Predicate.Builtin
import FormValidity.Proofs.Value.Equality

/-! # Loose equality

Booleans, numbers and texts are scalars. Two scalars that are not both texts are loosely equal if
their numeric readings are, and all other pairs of values if they are structurally equal
(`Value.looseEq_eq`). So loose equality is reflexive and symmetric on the values of documents. It
is transitive unless a number stands between two texts that write it differently: among three
values with one text at most it is (`Value.looseEq_trans`). A field and its confirming sibling can
therefore change places, and a value confirms itself (`Predicate.confirmation_coheres`).
-/

namespace FormValidity

namespace Value

/-- Whether a value has a text or a number of its own, and is not null. -/
def isScalar : Value → Bool
  | .bool _ | .num _ | .str _ => true
  | _ => false

/-- Whether a value is a text. -/
def isText : Value → Bool
  | .str _ => true
  | _ => false

/-- Two scalars that are not both texts are compared as numbers, all else as it is stored. -/
theorem looseEq_eq (first second : Value) :
    first.looseEq second =
      if first.isScalar && second.isScalar && !(first.isText && second.isText) then
        sameNumber first second
      else equal first second := by
  cases first with
  | bool x =>
      cases second with
      | bool y => cases x <;> cases y <;> decide +kernel
      | _ => rfl
  | _ => cases second <;> rfl

private theorem isScalar_of_equal {first second : Value} (same : equal first second) :
    first.isScalar = second.isScalar := by
  cases first <;> cases second <;> first | rfl | cases same

/-- Two values are the same number exactly if they are read as numbers that are equal. -/
theorem sameNumber_iff (first second : Value) :
    sameNumber first second ↔
      ∃ x y, first.number? = some x ∧ second.number? = some y ∧ x.numEq y := by
  rw [sameNumber]
  cases first.number? <;> cases second.number? <;>
    simp only [Bool.false_eq_true, reduceCtorEq, false_and, and_false, exists_false,
      Option.some.injEq, exists_and_left, exists_eq_left']

private theorem sameNumber_symm {first second : Value} (same : sameNumber first second) :
    sameNumber second first := by
  obtain ⟨x, y, left, right, agree⟩ := (sameNumber_iff first second).mp same
  exact (sameNumber_iff second first).mpr
    ⟨y, x, right, left, (Binary64.numEq_comm y x).trans agree⟩

private theorem sameNumber_trans {first second third : Value} (left : sameNumber first second)
    (right : sameNumber second third) : sameNumber first third := by
  obtain ⟨x, y, isFirst, isSecond, same⟩ := (sameNumber_iff first second).mp left
  obtain ⟨_, z, again, isThird, other⟩ := (sameNumber_iff second third).mp right
  cases isSecond.symm.trans again
  exact (sameNumber_iff first third).mpr ⟨x, z, isFirst, isThird, Binary64.numEq_trans same other⟩

/-- An integer is rounded to a double that is a number. -/
theorem isNaN_ofInt (n : Int) : (Binary64.ofInt n).isNaN = false := by
  unfold Binary64.ofInt Binary64.ofRatio
  dsimp only
  split <;> rfl

/-- A boolean or a finite number equals itself as a number. -/
theorem sameNumber_self {value : Value} (formed : value.WellFormed)
    (scalar : value.isScalar) (noText : value.isText = false) : sameNumber value value := by
  cases formed with
  | bool b => cases b <;> decide +kernel
  | @num n finite =>
      refine Binary64.numEq_self ?_
      cases n with
      | integer n => exact isNaN_ofInt n
      | double x =>
          cases x with
          | finite negative units => rfl
          | infinite negative => rfl
          | nan => cases finite
  | str s => cases noText
  | _ => cases scalar

/-- A value of a document is loosely equal to itself. -/
theorem looseEq_self {value : Value} (formed : value.WellFormed) : value.looseEq value := by
  rw [looseEq_eq]
  split
  · next numeric =>
      rw [Bool.and_self, Bool.and_self, Bool.and_eq_true, Bool.not_eq_true'] at numeric
      exact sameNumber_self formed numeric.1 numeric.2
  · exact equal_self formed

/-- Loose equality is symmetric on well-formed values. -/
theorem looseEq_comm {first second : Value} (formed : first.WellFormed)
    (other : second.WellFormed) : first.looseEq second = second.looseEq first := by
  rw [looseEq_eq, looseEq_eq, Bool.and_comm second.isScalar, Bool.and_comm second.isText]
  split
  · exact Bool.eq_iff_iff.mpr ⟨sameNumber_symm, sameNumber_symm⟩
  · exact equal_comm formed other

/-- A scalar is loosely equal to scalars only, and to those of other shapes as a number. -/
theorem looseEq_cases {first second : Value} (same : first.looseEq second) :
    first.isScalar = second.isScalar ∧
      (first.isScalar → (first.isText && second.isText) = false → sameNumber first second) ∧
      (first.isScalar = false → equal first second) := by
  rw [looseEq_eq] at same
  split at same
  · next numeric =>
      simp only [Bool.and_eq_true] at numeric
      obtain ⟨⟨left, right⟩, _⟩ := numeric
      exact ⟨left.trans right.symm, fun _ _ => same, fun scalar => by
        rw [left] at scalar
        cases scalar⟩
  · next stored =>
      have alike := isScalar_of_equal same
      refine ⟨alike, fun scalar apart => ?_, fun _ => same⟩
      rw [← alike, scalar, apart] at stored
      exact (stored rfl).elim

private theorem apart_of_countP {first second third : Value}
    (texts : [first, second, third].countP isText ≤ 1) :
    (first.isText && second.isText) = false ∧ (second.isText && third.isText) = false ∧
      (first.isText && third.isText) = false := by
  rw [List.countP_cons, List.countP_cons, List.countP_cons, List.countP_nil] at texts
  revert texts
  cases first.isText <;> cases second.isText <;> cases third.isText <;> decide

/-- Loose equality is transitive on three values of which one at most is a text. -/
theorem looseEq_trans {first second third : Value} (formed : first.WellFormed)
    (middle : second.WellFormed) (last : third.WellFormed)
    (texts : [first, second, third].countP isText ≤ 1) (left : first.looseEq second)
    (right : second.looseEq third) : first.looseEq third := by
  obtain ⟨alike, leftNumber, leftEqual⟩ := looseEq_cases left
  obtain ⟨again, rightNumber, rightEqual⟩ := looseEq_cases right
  obtain ⟨leftApart, rightApart, endsApart⟩ := apart_of_countP texts
  rw [looseEq_eq, ← again, ← alike, endsApart]
  cases scalar : first.isScalar with
  | true =>
      exact sameNumber_trans (leftNumber scalar leftApart) (rightNumber (alike ▸ scalar) rightApart)
  | false => exact equal_trans formed middle last (leftEqual scalar) (rightEqual (alike ▸ scalar))

end Value

namespace Predicate

/-- Where a field has a confirming sibling, the two values are compared loosely. -/
theorem confirmation_of_sibling {suffix : String} {value sibling : Value} {site : Site}
    (found : site.sibling? (site.field.confirmationName suffix) = some sibling) :
    confirmation suffix value site =
      .verdict (value.isBlank && sibling.isBlank || value.looseEq sibling) := by
  rw [confirmation, found]

/-- **Loose equality holds together, and confirmation with it.** On the values of documents loose
equality is reflexive and symmetric, and transitive among three values with one text at most. A
value confirms itself, and the verdict stays the same when a field and its confirming sibling
change places, also when the places belong to different forms or suffixes. -/
theorem confirmation_coheres (first second third : Value) (formed : first.WellFormed)
    (middle : second.WellFormed) (last : third.WellFormed) :
    first.looseEq first ∧
    first.looseEq second = second.looseEq first ∧
    ([first, second, third].countP Value.isText ≤ 1 →
      first.looseEq second → second.looseEq third → first.looseEq third) ∧
    (∀ suffix site, site.sibling? (site.field.confirmationName suffix) = some first →
      confirmation suffix first site = .verdict true) ∧
    ∀ suffix otherSuffix site otherSite,
      site.sibling? (site.field.confirmationName suffix) = some second →
      otherSite.sibling? (otherSite.field.confirmationName otherSuffix) = some first →
      confirmation suffix first site = confirmation otherSuffix second otherSite := by
  refine ⟨Value.looseEq_self formed, Value.looseEq_comm formed middle,
    Value.looseEq_trans formed middle last, fun suffix site found => ?_,
    fun suffix otherSuffix site otherSite found mirrored => ?_⟩
  · rw [confirmation_of_sibling found, Value.looseEq_self formed, Bool.or_true]
  · rw [confirmation_of_sibling found, confirmation_of_sibling mirrored,
      Value.looseEq_comm formed middle, Bool.and_comm]

/-- A text with blanks around it, the number it denotes and a ticked box are all loosely equal. -/
theorem confirmation_coheres_tickedBox :
    let written := Value.str " 1 "
    let counted := Value.num (.integer 1)
    let ticked := Value.bool true
    (written.WellFormed ∧ counted.WellFormed ∧ ticked.WellFormed) ∧
      written.looseEq counted ∧ counted.looseEq ticked ∧ written.looseEq ticked ∧
      ∀ suffix site, site.sibling? (site.field.confirmationName suffix) = some written →
        confirmation suffix written site = .verdict true := by
  intro written counted ticked
  have formed : written.WellFormed := .str " 1 "
  have middle : counted.WellFormed := .num rfl
  have last : ticked.WellFormed := .bool true
  have left : written.looseEq counted := by decide +kernel
  have right : counted.looseEq ticked := by decide +kernel
  obtain ⟨_, _, chain, confirms, _⟩ :=
    confirmation_coheres written counted ticked formed middle last
  exact ⟨⟨formed, middle, last⟩, left, right, chain (by decide) left right, confirms⟩

/-- Two texts for one number are loosely equal to it, but not to each other. -/
example :
    (Value.str "1").looseEq (.num (.integer 1)) ∧ (Value.num (.integer 1)).looseEq (.str "1.0") ∧
      (Value.str "1").looseEq (.str "1.0") = false := by decide +kernel

end Predicate

end FormValidity
