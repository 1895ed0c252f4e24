import FormValidity.Field.Descriptor
import FormValidity.Field.Verdicts

/-! # Compiled fields

A field's path with its descriptors. Every descriptor is evaluated, whatever the
others say; an error or a crash counts against its own constraint only.
-/

namespace FormValidity

/-- A field that can be evaluated. -/
structure CompiledField where
  path : FieldPath
  descriptors : List Descriptor

namespace CompiledField

/-- Compile a schema for the field at a path. -/
def compile (registry : Registry) (path : FieldPath) (schema : Schema) : CompiledField :=
  ⟨path, Descriptor.ofSchema registry schema⟩

/-- The kinds of the descriptors, in order. -/
def constraintNames (field : CompiledField) : List String := field.descriptors.map Descriptor.kind

/-- Whether some descriptor has a kind. -/
def hasConstraint (field : CompiledField) (kind : String) : Bool :=
  field.descriptors.any fun descriptor => descriptor.kind == kind

/-- The verdicts of all descriptors on a value. -/
def evaluate (field : CompiledField) (value : Value) (context : Context) : Verdicts :=
  field.descriptors.foldl (fun verdicts descriptor =>
    verdicts.record descriptor.kind (descriptor.test value ⟨field.path, context⟩).accepts) .empty

end CompiledField

end FormValidity
