import FormValidity.Field.Compiled

/-! # The validity engine

The engine holds compiled fields under names and the verdicts of the latest evaluation
of each. Registering a name again replaces its field in place and forgets the verdicts
of the old one.
-/

namespace FormValidity

/-- A field under observation. -/
structure TrackedField where
  compiled : CompiledField
  /-- The verdicts of the latest evaluation, if there has been one. -/
  verdicts : Option Verdicts

/-- The fields under observation, and the registry they are compiled with. -/
structure Engine where
  registry : Registry
  fields : OrderedMap String TrackedField

namespace Engine

/-- An engine without fields. -/
def new (registry : Registry) : Engine := ⟨registry, .empty⟩

/-- Observe a compiled field under a name. -/
def insert (engine : Engine) (name : String) (compiled : CompiledField) : Engine :=
  { engine with fields := engine.fields.insert name ⟨compiled, none⟩ }

/-- Compile a schema and observe the field under a name. -/
def register (engine : Engine) (name : String) (path : FieldPath) (schema : Schema) : Engine :=
  engine.insert name (.compile engine.registry path schema)

/-- Evaluate a field on a new value and keep the verdicts. -/
def change (engine : Engine) (name : String) (value : Value) (context : Context) :
    Engine × Except RuleError Verdicts :=
  match engine.fields.get? name with
  | some tracked =>
      let verdicts := tracked.compiled.evaluate value context
      ({ engine with fields := engine.fields.insert name ⟨tracked.compiled, some verdicts⟩ },
        .ok verdicts)
  | none => (engine, .error (.fieldNotRegistered name))

/-- The compiled field of a name. -/
def compiled? (engine : Engine) (name : String) : Option CompiledField :=
  (engine.fields.get? name).map TrackedField.compiled

/-- The verdicts of the latest evaluation of a name. -/
def verdicts? (engine : Engine) (name : String) : Option Verdicts :=
  (engine.fields.get? name).bind TrackedField.verdicts

/-- Whether a name was valid when last evaluated. -/
def isValid? (engine : Engine) (name : String) : Option Bool :=
  (engine.verdicts? name).map Verdicts.isValid

/-- The kinds of the constraints of a name. -/
def constraintNames? (engine : Engine) (name : String) : Option (List String) :=
  (engine.compiled? name).map CompiledField.constraintNames

/-- Whether a name is registered. -/
def contains (engine : Engine) (name : String) : Bool := engine.fields.contains name

/-- The registered names, in order of first registration. -/
def names (engine : Engine) : List String := engine.fields.keys

end Engine

end FormValidity
