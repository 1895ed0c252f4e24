import FormValidity.Context
import FormValidity.Rule.Error

/-! # Predicates

A predicate looks at a value where it stands and gives a verdict, fails to decide, or
breaks off. Only a positive verdict makes a constraint hold (`Outcome.accepts`).
-/

namespace FormValidity

/-- How the evaluation of a predicate ends. -/
inductive Outcome where
  | verdict (holds : Bool)
  | failed (cause : RuleError)
  | crashed
  deriving DecidableEq, Repr

/-- Whether the outcome is a positive verdict. -/
def Outcome.accepts : Outcome → Bool
  | .verdict holds => holds
  | .failed _ => false
  | .crashed => false

/-- A test of a value at a field of a form. -/
abbrev Predicate := Value → Site → Outcome

namespace Predicate

/-- A test that always decides and looks at the value alone. -/
def ofTest (test : Value → Bool) : Predicate := fun value _ => .verdict (test value)

/-- The conjunction of predicates: the first outcome that is no positive verdict, and
a positive verdict if there is none. -/
def all : List Predicate → Predicate
  | [], _, _ => .verdict true
  | part :: rest, value, site =>
      match part value site with
      | .verdict true => all rest value site
      | outcome => outcome

/-- A conjunction accepts exactly what all its parts accept. -/
theorem accepts_all (parts : List Predicate) (value : Value) (site : Site) :
    (all parts value site).accepts = parts.all fun part => (part value site).accepts := by
  induction parts with
  | nil => rfl
  | cons part rest ih =>
      simp only [all, List.all_cons]
      cases outcome : part value site with
      | verdict holds =>
          cases holds with
          | false => rfl
          | true => exact ih.trans (Bool.true_and _).symm
      | failed cause => rfl
      | crashed => rfl

end Predicate

end FormValidity
