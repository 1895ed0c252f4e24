import FormValidity.Proofs.Form.Run
import Mathlib.Data.List.Induction

/-! # The controls of a form are those of its history

Model, configuration and registry of a form never change (`Form.setup_step`), so what an operation
registers can be read off the operation alone (`Setup.registered?`). After any run a name has the
path and the compiled field of the control registered last under it, whatever was refused,
committed or registered in between (`Setup.compiled?_run`, `Setup.path?_run`).
-/

namespace FormValidity

/-- A control as a host registers it. -/
structure Control where
  binding : Binding
  schema : Schema

/-- What a form is set up with, once and for all. -/
structure Setup where
  model : Model
  config : FormConfig
  registry : Registry

namespace Setup

variable (setup : Setup)

/-- The form before the first operation. -/
def form : Form := .withRegistry setup.model setup.config setup.registry

def name (control : Control) : String := control.binding.controlName setup.config

def path (control : Control) : FieldPath := control.binding.path setup.config

def compile (control : Control) : CompiledField :=
  .compile setup.registry (setup.path control) control.schema

/-- A control, unless its name is reserved. -/
def admit? (control : Control) : Option Control :=
  if setup.name control = Form.reservedName then none else some control

/-- The control that an operation registers, if it registers one. -/
def registered? : Operation → Option Control
  | .addField binding =>
      match setup.model.schema setup.registry (binding.path setup.config).attributeName with
      | .ok schema => setup.admit? ⟨binding, schema⟩
      | .error _ => none
  | .addFieldWith binding schema => setup.admit? ⟨binding, schema⟩
  | .setValue _ _ => none
  | .setRecords _ _ => none

/-- The control that a history registers last under a name. -/
def latestControl? (name : String) (history : List Operation) : Option Control :=
  (history.filterMap setup.registered?).reverse.find? fun control => setup.name control = name

private theorem latestControl?_concat (name : String) (history : List Operation)
    (operation : Operation) :
    setup.latestControl? name (history ++ [operation]) =
      ((setup.registered? operation).filter fun control => setup.name control = name).or
        (setup.latestControl? name history) := by
  rw [latestControl?, List.filterMap_append, List.reverse_append, List.find?_append]
  congr 1
  cases found : setup.registered? operation with
  | none => rw [List.filterMap_cons_none found]; rfl
  | some control =>
      rw [List.filterMap_cons_some found, List.filterMap_nil, List.reverse_singleton,
        List.find?_singleton, Option.filter_some]

private theorem admit?_eq_some_iff (control admitted : Control) :
    setup.admit? control = some admitted ↔
      control = admitted ∧ setup.name control ≠ Form.reservedName := by
  unfold admit?
  split
  · next reserved => simp only [reserved, reduceCtorEq, ne_eq, not_true_eq_false, and_false]
  · next free => simp only [Option.some.injEq, ne_eq, free, not_false_eq_true, and_true]

end Setup

namespace Form

def setup (form : Form) : Setup := ⟨form.model, form.config, form.engine.registry⟩

variable {form : Form} {operation : Operation}

/-- An operation that registers a control puts it under its name and does nothing else. -/
theorem step_of_registered? {control : Control}
    (found : form.setup.registered? operation = some control) :
    form.step operation =
      form.register (form.setup.name control) (form.setup.path control) control.schema := by
  cases operation with
  | addField binding =>
      simp only [Setup.registered?] at found
      split at found
      · next schema decoded =>
          obtain ⟨rfl, free⟩ := (form.setup.admit?_eq_some_iff _ _).mp found
          have decoded : form.model.schema form.engine.registry
            (binding.path form.config).attributeName = .ok schema := decoded
          have inserted := insertField_of_ne free schema
          rw [step, addField, decoded]
          exact congrArg Prod.fst inserted
      · cases found
  | addFieldWith binding schema =>
      obtain ⟨rfl, free⟩ := (form.setup.admit?_eq_some_iff _ _).mp found
      have inserted := insertField_of_ne free schema
      exact congrArg Prod.fst inserted
  | setValue name value => cases found
  | setRecords model records => cases found

/-- An operation that registers no control leaves all controls as they are. -/
theorem sameFields_step_of_silent (inStep : form.InStep)
    (silent : form.setup.registered? operation = none) :
    form.engine.SameFields (form.step operation).engine := by
  have reserved : ∀ binding schema, form.setup.admit? ⟨binding, schema⟩ = none →
      (form.insertField binding schema).1 = form := by
    intro binding schema refused
    unfold Setup.admit? at refused
    split at refused
    · next taken => exact congrArg Prod.fst (insertField_of_reserved taken schema)
    · cases refused
  cases operation with
  | addField binding =>
      have kept : form.step (.addField binding) = form := by
        simp only [Setup.registered?] at silent
        rw [step, addField]
        split at silent
        · next schema decoded =>
            have decoded : form.model.schema form.engine.registry
              (binding.path form.config).attributeName = .ok schema := decoded
            rw [decoded]
            exact reserved binding schema silent
        · next cause refused =>
            have refused : form.model.schema form.engine.registry
              (binding.path form.config).attributeName = .error cause := refused
            rw [refused]
      rw [kept]
      exact .refl form.engine
  | addFieldWith binding schema =>
      have kept : form.step (.addFieldWith binding schema) = form := reserved binding schema silent
      rw [kept]
      exact .refl form.engine
  | setValue name value =>
      cases found : form.fields.get? name with
      | none =>
          rw [step, setValue_of_unregistered found]
          exact .refl form.engine
      | some path =>
          obtain ⟨engine, _, committed, same, _⟩ := setValue_of_registered found inStep value
          rw [step, committed]
          exact same
  | setRecords model records => exact .refl form.engine

/-- No operation changes the setup. -/
theorem setup_step (inStep : form.InStep) (operation : Operation) :
    (form.step operation).setup = form.setup := by
  rcases form.step_cases operation with same | ⟨binding, schema, _, _, same⟩ |
    ⟨name, value, path, _, found, same⟩ | ⟨model, records, _, same⟩
  · rw [same]
  · rw [same]
    rfl
  · obtain ⟨engine, _, committed, kept, _⟩ := setValue_of_registered found inStep value
    rw [same, committed]
    exact congrArg (Setup.mk form.model form.config) kept.registry
  · rw [same]
    rfl

/-- No run changes the setup. -/
theorem setup_run (inStep : form.InStep) (operations : List Operation) :
    (form.run operations).setup = form.setup := by
  induction operations generalizing form with
  | nil => rfl
  | cons operation rest ih => exact (ih (inStep.step operation)).trans (setup_step inStep operation)

end Form

namespace Setup

variable (setup : Setup)

/-- A new form is in step. -/
theorem inStep_form : setup.form.InStep := .withRegistry setup.model setup.config setup.registry

/-- A form is in step after any history. -/
theorem inStep_run (history : List Operation) : (setup.form.run history).InStep :=
  setup.inStep_form.run history

/-- The setup of a form is the one that it has been made from. -/
theorem setup_run (history : List Operation) : (setup.form.run history).setup = setup :=
  Form.setup_run setup.inStep_form history

/-- Under each name stands the field of the control registered last. The induction is on the
history from its end, as the last registration is. -/
theorem compiled?_run (history : List Operation) (name : String) :
    (setup.form.run history).engine.compiled? name =
      (setup.latestControl? name history).map setup.compile := by
  induction history using List.reverseRecOn with
  | nil => rfl
  | append_singleton earlier operation ih =>
      have inStep := setup.inStep_run earlier
      have same := setup.setup_run earlier
      rw [latestControl?_concat]
      have ran : setup.form.run (earlier ++ [operation]) =
          (setup.form.run earlier).step operation := by
        rw [Form.run, List.foldl_append]
        rfl
      rw [ran]
      cases found : setup.registered? operation with
      | none =>
          have silent : (setup.form.run earlier).setup.registered? operation = none := by
            rw [same, found]
          rw [(Form.sameFields_step_of_silent inStep silent).compiled? name, ih]
          rfl
      | some control =>
          have registers : (setup.form.run earlier).setup.registered? operation =
              some control := by rw [same, found]
          rw [Form.step_of_registered? registers, same, Option.filter_some]
          have registry : (setup.form.run earlier).engine.registry = setup.registry :=
            congrArg Setup.registry same
          change ((setup.form.run earlier).engine.insert (setup.name control) _).compiled? name = _
          rw [Engine.compiled?_insert, registry, ih]
          by_cases named : setup.name control = name
          · simp only [named, ↓reduceIte, decide_true, Option.some_or, Option.map_some]
            rfl
          · simp only [named, ↓reduceIte, decide_false, Bool.false_eq_true, Option.none_or]

/-- The path of a name is that of its latest control. -/
theorem path?_run (history : List Operation) (name : String) :
    (setup.form.run history).fields.get? name =
      (setup.latestControl? name history).map setup.path := by
  rw [(setup.inStep_run history).path, compiled?_run, Option.map_map]
  rfl

/-- A form has the controls that its history has registered. -/
theorem contains_run_iff (history : List Operation) (name : String) :
    (setup.form.run history).contains name ↔
      ∃ control, setup.latestControl? name history = some control := by
  rw [Form.contains_iff, path?_run]
  simp only [Option.map_eq_some_iff, exists_comm, exists_eq_right']

end Setup

end FormValidity
