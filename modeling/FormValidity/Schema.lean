import FormValidity.Constraint.Decoding

/-! # Field schemas

The constraints declared for one field, by kind, in declaration order.
-/

namespace FormValidity

/-- The constraints of a field. -/
structure Schema where
  constraints : OrderedMap String Constraint

namespace Schema

/-- The schema without constraints. -/
def empty : Schema := ⟨.empty⟩

/-- Declare a constraint; a kind declared again is replaced in place. -/
def declare (schema : Schema) (kind : String) (constraint : Constraint) : Schema :=
  ⟨schema.constraints.insert kind constraint⟩

/-- The declared kinds, in order. -/
def kinds (schema : Schema) : List String := schema.constraints.keys

/-- Decode entries one by one; those that cannot be decoded are left out. -/
def ofEntries (registry : Registry) (entries : List (String × Value)) : Schema :=
  entries.foldl (fun schema entry =>
    match Constraint.decode registry entry.1 entry.2 with
    | .ok constraint => schema.declare entry.1 constraint
    | .error _ => schema) empty

/-- Decode the raw rules of a field, which must be an object. -/
def ofValue (registry : Registry) (raw : Value) : Except RuleError Schema :=
  match raw with
  | .obj entries => .ok (ofEntries registry entries)
  | _ => .error (.schemaNotMapping raw.shape)

end Schema

end FormValidity
