import FormValidity.Engine
import FormValidity.Form.Config
import FormValidity.Model.Basic

/-! # Forms

A form binds controls to the attributes of a model. It holds the committed values,
keyed by field path, and the records of models, and drives the engine: committing a
value evaluates its control and then every control whose confirmation depends on it
(`Form.setValue`). Each operation gives the form it leaves behind together with its
answer, so an operation that fails also says what has become of the form.
-/

namespace FormValidity

/-- How a control attaches to a form. -/
structure Binding where
  /-- The model path the control edits. -/
  modelPath : Option String := none
  /-- The name the control asks for. -/
  name : Option String := none
  deriving DecidableEq, Repr

namespace Binding

/-- The name of the control: the one asked for, else the model path, else the
configured one. Empty names do not count. -/
def controlName (binding : Binding) (config : FormConfig) : String :=
  (([binding.name, binding.modelPath].filterMap id).find? (· ≠ "")).getD config.unnamedField

/-- The field path the control edits. -/
def path (binding : Binding) (config : FormConfig) : FieldPath :=
  match binding.modelPath with
  | some modelPath => .parse modelPath
  | none => .make none (binding.controlName config)

end Binding

/-- A form. -/
structure Form where
  name : String
  model : Model
  config : FormConfig
  engine : Engine
  /-- The controls with their field paths, in order of registration. -/
  fields : OrderedMap String FieldPath
  /-- The committed values, by displayed field path. -/
  values : OrderedMap String Value
  /-- The records of models. -/
  records : OrderedMap String (List Value)

namespace Form

/-- The name no control may take. -/
def reservedName : String := "hasOwnProperty"

/-- A form whose rules are decoded with a registry. It is named after its model,
unless the model has no name. -/
def withRegistry (model : Model) (config : FormConfig) (registry : Registry) : Form where
  name := if model.name = "" then "" else model.name ++ config.formSuffix
  model := model
  config := config
  engine := .new registry
  fields := .empty
  values := .empty
  records := .empty

/-- A form with the standard predicates, whose confirmation follows the
configuration. -/
def withConfig (model : Model) (config : FormConfig) : Form :=
  withRegistry model config (Registry.builtin.withConfirmationSuffix config.confirmationSuffix)

/-- A form with the standard configuration and predicates. -/
def new (model : Model) : Form := withConfig model .standard

/-- Give a form a name. -/
def named (form : Form) (name : String) : Form := { form with name }

/-- What the form shows to predicates. -/
def context (form : Form) : Context := .ofMaps form.values form.records

/-- Register a control with a schema. -/
def insertField (form : Form) (binding : Binding) (schema : Schema) :
    Form × Except FormError String :=
  let name := binding.controlName form.config
  let path := binding.path form.config
  if name = reservedName then (form, .error (.reservedName name))
  else
    ({ form with
        engine := form.engine.register name path schema
        fields := form.fields.insert name path },
      .ok name)

/-- Register a control with an explicit schema, whatever the model declares. -/
def addFieldWith (form : Form) (binding : Binding) (schema : Schema) :
    Form × Except FormError String :=
  form.insertField binding schema

/-- Register a control with the rules its model declares for it. -/
def addField (form : Form) (binding : Binding) : Form × Except FormError String :=
  match form.model.schema form.engine.registry (binding.path form.config).attributeName with
  | .ok schema => form.insertField binding schema
  | .error cause => (form, .error (.rule cause))

/-- The committed value of a control. -/
def value? (form : Form) (name : String) : Option Value :=
  (form.fields.get? name).bind fun path => form.values.get? path.display

/-- The controls with a `confirmation` constraint whose sibling is `key` and that hold
a committed value, the control `name` itself apart. -/
def dependents (form : Form) (name key : String) : List String :=
  (form.fields.entries.filter fun entry =>
    entry.1 ≠ name &&
    entry.2.confirmationName form.engine.registry.confirmationSuffix == key &&
    form.values.contains entry.2.display &&
    (form.engine.compiled? entry.1).any (·.hasConstraint "confirmation")).map Prod.fst

/-- Evaluate controls on the values they hold, up to the first error. -/
def reevaluate : Form → List String → Form × Except FormError Unit
  | form, [] => (form, .ok ())
  | form, name :: rest =>
      match form.value? name with
      | none => reevaluate form rest
      | some value =>
          match form.engine.change name value form.context with
          | (engine, .ok _) => reevaluate { form with engine } rest
          | (engine, .error cause) => ({ form with engine }, .error (.rule cause))

/-- Commit a value, evaluate its control, then evaluate the controls whose
confirmation depends on it. -/
def setValue (form : Form) (name : String) (value : Value) : Form × Except FormError Verdicts :=
  match form.fields.get? name with
  | none => (form, .error (.unknownField name))
  | some path =>
      let committed := { form with values := form.values.insert path.display value }
      match committed.engine.change name value committed.context with
      | (engine, .error cause) => ({ committed with engine }, .error (.rule cause))
      | (engine, .ok _) =>
          let evaluated := { committed with engine }
          match evaluated.reevaluate (evaluated.dependents name path.display) with
          | (final, .error cause) => (final, .error cause)
          | (final, .ok ()) =>
              match final.engine.verdicts? name with
              | some verdicts => (final, .ok verdicts)
              | none => (final, .error (.unknownField name))

/-- Replace the records of a model. The next evaluation sees them. -/
def setRecords (form : Form) (model : String) (records : List Value) : Form :=
  { form with records := form.records.insert model records }

/-- The verdicts of a control's latest evaluation. -/
def verdicts? (form : Form) (name : String) : Option Verdicts := form.engine.verdicts? name

/-- Whether a control was valid when last evaluated. -/
def isValid? (form : Form) (name : String) : Option Bool := form.engine.isValid? name

/-- Whether every control that has been evaluated is valid. -/
def isFormValid (form : Form) : Bool := (form.fields.keys.filterMap form.isValid?).all id

/-- The constraint names of a control, as one text. -/
def validatesAttribute? (form : Form) (name : String) : Option String :=
  (form.engine.constraintNames? name).map (form.config.attributeSeparator.intercalate ·)

/-- One class per verdict of a control. -/
def stateClasses (form : Form) (name : String) : List String :=
  match form.verdicts? name with
  | none => []
  | some verdicts =>
      verdicts.toList.map fun (kind, holds) =>
        (if holds then form.config.validClass else form.config.invalidClass) ++ kind

/-- The rules the model declares for a control's attribute, as written. -/
def declaredRules? (form : Form) (name : String) : Option Value :=
  (form.fields.get? name).bind fun path => form.model.rules? path.attributeName

/-- Whether the form holds a control. -/
def contains (form : Form) (name : String) : Bool := form.fields.contains name

/-- The controls, in order of registration. -/
def fieldNames (form : Form) : List String := form.fields.keys

end Form

end FormValidity
