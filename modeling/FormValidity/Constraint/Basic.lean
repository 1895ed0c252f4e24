import FormValidity.Pattern.Reading
import FormValidity.Predicate.Basic

/-! # Constraints

A constraint of a field, once decoded: a switch for a built-in predicate, a predicate
of the host, or parameters that select or build a predicate.
-/

namespace FormValidity

/-- The lengths a `length` constraint admits. -/
inductive LengthRule where
  /-- From `min` to `max`, both included. -/
  | range (min max : Nat)
  /-- At least `min` and at most `max`, as far as given. -/
  | bounds (min max : Option Nat)
  /-- Exactly this length. -/
  | exact (length : Nat)
  deriving DecidableEq, Repr

/-- Whether a rule admits a length. -/
def LengthRule.accepts : LengthRule → Nat → Bool
  | .range min max, length => min ≤ length && length ≤ max
  | .bounds min max, length =>
      (min.all fun bound => bound ≤ length) && (max.all fun bound => length ≤ bound)
  | .exact expected, length => length == expected

/-- The parameters of a `numericality` constraint. -/
structure NumericRule where
  /-- What to take out of a text before reading it. -/
  ignore : Option Pattern := none
  /-- Whether a fraction is refused. -/
  onlyInteger : Bool := false

/-- The parameters of an object constraint. -/
inductive Modifier where
  /-- The text must match a pattern. -/
  | format (pattern : Pattern)
  /-- The value must be a member of a set. -/
  | inclusion (set : List Value)
  /-- The value must not be a member of a set. -/
  | exclusion (set : List Value)
  /-- The length must be admitted. -/
  | length (rule : LengthRule)
  /-- The value must be a number. -/
  | numericality (rule : NumericRule)
  /-- The built-in predicates of these sub-kinds must hold. -/
  | builtin (keys : List String)

/-- A decoded constraint. -/
inductive Constraint where
  /-- The built-in predicate of the kind is on or off. -/
  | flag (enabled : Bool)
  /-- A predicate of the host, with its message. -/
  | custom (predicate : Predicate) (message : Option String)
  /-- Parameters, with a message. -/
  | modifier (modifier : Modifier) (message : Option String)

end FormValidity
