import FormValidity.Registry

/-! # Configuration of forms

The names and texts that a form uses where its host has given none.
-/

namespace FormValidity

/-- The configuration of a form. -/
structure FormConfig where
  /-- Appended to a model's name to name its form. -/
  formSuffix : String
  /-- The name of a control that has neither a name nor a model path. -/
  unnamedField : String
  /-- Appended to a field's name to find its confirming sibling. -/
  confirmationSuffix : String
  /-- Begins the class of a constraint that holds. -/
  validClass : String
  /-- Begins the class of a constraint that fails. -/
  invalidClass : String
  /-- Stands between the constraint names of a control. -/
  attributeSeparator : String
  deriving DecidableEq, Repr

/-- The configuration of a form whose host configures nothing. -/
def FormConfig.standard : FormConfig where
  formSuffix := "Form"
  unnamedField := "unnamedInput"
  confirmationSuffix := Registry.defaultSuffix
  validClass := "ng-valid-"
  invalidClass := "ng-invalid-"
  attributeSeparator := ","

end FormValidity
