import FormValidity.Form.Error
import FormValidity.Schema

/-! # Models

A model has a name and declares rules for attributes. The rules stay raw until a form
decodes them with its registry.
-/

namespace FormValidity

/-- A model: its name and the raw rules of its attributes, in declaration order. -/
structure Model where
  name : String
  rules : OrderedMap String Value

namespace Model

/-- A model without rules. -/
def new (name : String) : Model := ⟨name, .empty⟩

/-- Declare the rules of an attribute. -/
def declare (model : Model) (attributeName : String) (rules : Value) : Model :=
  { model with rules := model.rules.insert attributeName rules }

/-- The raw rules of an attribute. -/
def rules? (model : Model) (attributeName : String) : Option Value :=
  model.rules.get? attributeName

/-- The attributes with rules, in declaration order. -/
def attributes (model : Model) : List String := model.rules.keys

/-- The schema of an attribute; without rules it is empty. -/
def schema (model : Model) (registry : Registry) (attributeName : String) :
    Except RuleError Schema :=
  match model.rules? attributeName with
  | some raw => Schema.ofValue registry raw
  | none => .ok Schema.empty

/-- A model whose name is not blank. -/
def checked (model : Model) : Except FormError Model :=
  if Unicode.trim model.name.toList = [] then .error .missingModel else .ok model

end Model

end FormValidity
