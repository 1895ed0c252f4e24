import FormValidity.Rule.Error

/-! # Errors of forms

Why a form refuses a control or a value, or cannot be set up, and the text that tells
it.
-/

namespace FormValidity

/-- An error of a form. -/
inductive FormError where
  /-- A control asks for the name that forms reserve. -/
  | reservedName (name : String)
  /-- A value arrived for a control the form does not hold. -/
  | unknownField (name : String)
  /-- A model document names no model. -/
  | missingModel
  /-- An error of the rules. -/
  | rule (cause : RuleError)
  /-- The sources of a configuration cannot be read or do not fit together. -/
  | badConfig
  /-- A file cannot be read as text. -/
  | unreadable
  deriving DecidableEq, Repr

/-- The wording of an error. -/
def FormError.message : FormError → String
  | .reservedName name => s!"{name} is not a valid field name"
  | .unknownField name => s!"field not found: {name}"
  | .missingModel => "model schema has no model name"
  | .rule cause => cause.message
  | .badConfig => "failed to load configuration"
  | .unreadable => "failed to read file"

end FormValidity
