import FormValidity.Proofs.Form.Commit

/-! # Runs of a form

A host works on a form by a run of operations (`Form.run`). Along every run the form stays
in step with its engine (`Form.InStep.run`). So an operation is refused only for the
reasons that `Form.Refusal` lists, and a refused operation leaves the form as it was
(`Form.run_inStep_and_refusals`).
-/

namespace FormValidity

/-- What a host asks of a form. -/
inductive Operation where
  /-- Register a control with the rules its model declares for it. -/
  | addField (binding : Binding)
  /-- Register a control with an explicit schema. -/
  | addFieldWith (binding : Binding) (schema : Schema)
  /-- Commit a value. -/
  | setValue (name : String) (value : Value)
  /-- Replace the records of a model. -/
  | setRecords (model : String) (records : List Value)

namespace Form

/-- The form an operation leaves behind. -/
def step (form : Form) : Operation → Form
  | .addField binding => (form.addField binding).1
  | .addFieldWith binding schema => (form.addFieldWith binding schema).1
  | .setValue name value => (form.setValue name value).1
  | .setRecords model records => form.setRecords model records

/-- The form a run of operations leaves behind. -/
def run (form : Form) (operations : List Operation) : Form := operations.foldl step form

/-- A property holds at every moment of a run: before the first operation and after each. -/
def Throughout (property : Form → Prop) (form : Form) : List Operation → Prop
  | [] => property form
  | operation :: rest => property form ∧ Throughout property (form.step operation) rest

instance decidableThroughout (property : Form → Prop) [DecidablePred property] (form : Form) :
    (operations : List Operation) → Decidable (form.Throughout property operations)
  | [] => inferInstanceAs (Decidable (property form))
  | operation :: rest =>
      have := decidableThroughout property (form.step operation) rest
      inferInstanceAs (Decidable (property form ∧ _))

/-- What holds throughout a run holds at its start. -/
theorem Throughout.start {property : Form → Prop} {form : Form} {operations : List Operation}
    (always : form.Throughout property operations) : property form := by
  cases operations with
  | nil => exact always
  | cons operation rest => exact always.1

/-- What holds throughout a run holds at its end. -/
theorem Throughout.run {property : Form → Prop} {form : Form} {operations : List Operation}
    (always : form.Throughout property operations) : property (form.run operations) := by
  induction operations generalizing form with
  | nil => exact always
  | cons operation rest ih => exact ih always.2

/-- The error of an answer, if it is one. -/
def errorOf? {α : Type} : Except FormError α → Option FormError
  | .ok _ => none
  | .error error => some error

/-- The error an operation is refused with, if it is refused. -/
def error? (form : Form) : Operation → Option FormError
  | .addField binding => errorOf? (form.addField binding).2
  | .addFieldWith binding schema => errorOf? (form.addFieldWith binding schema).2
  | .setValue name value => errorOf? (form.setValue name value).2
  | .setRecords _ _ => none

/-- The raw rules the model declares for the control of a binding. -/
def rulesFor? (form : Form) (binding : Binding) : Option Value :=
  form.model.rules? (binding.path form.config).attributeName

/-- When and with which error a form refuses an operation. Rules that are no object come
before a reserved name. -/
inductive Refusal (form : Form) : Operation → FormError → Prop where
  | malformedRules (binding : Binding) (raw : Value) (declared : form.rulesFor? binding = some raw)
      (malformed : raw.shape ≠ .object) :
      Refusal form (.addField binding) (.rule (.schemaNotMapping raw.shape))
  | reservedName (binding : Binding)
      (wellFormed : ∀ raw, form.rulesFor? binding = some raw → raw.shape = .object)
      (reserved : binding.controlName form.config = reservedName) :
      Refusal form (.addField binding) (.reservedName reservedName)
  | reservedNameWith (binding : Binding) (schema : Schema)
      (reserved : binding.controlName form.config = reservedName) :
      Refusal form (.addFieldWith binding schema) (.reservedName reservedName)
  | unknownField (name : String) (value : Value) (absent : ¬ form.contains name) :
      Refusal form (.setValue name value) (.unknownField name)

/-- The form with a control registered under a name, in place of an earlier one. -/
def register (form : Form) (name : String) (path : FieldPath) (schema : Schema) : Form :=
  { form with
    engine := form.engine.register name path schema
    fields := form.fields.insert name path }

variable {form : Form}

/-- A field of the reserved name is refused. -/
theorem insertField_of_reserved {binding : Binding}
    (reserved : binding.controlName form.config = reservedName) (schema : Schema) :
    form.insertField binding schema = (form, .error (.reservedName reservedName)) := by
  simp only [insertField, reserved, ↓reduceIte]

/-- A field of any other name is registered. -/
theorem insertField_of_ne {binding : Binding}
    (free : binding.controlName form.config ≠ reservedName) (schema : Schema) :
    form.insertField binding schema =
      (form.register (binding.controlName form.config) (binding.path form.config) schema,
        .ok (binding.controlName form.config)) := by
  simp only [insertField, free, ↓reduceIte]
  rfl

/-- A mapping is read as a schema, and anything else is refused. -/
theorem schema_ofValue_cases (registry : Registry) (raw : Value) :
    (raw.shape = .object ∧ ∃ schema, Schema.ofValue registry raw = .ok schema) ∨
      (raw.shape ≠ .object ∧
        Schema.ofValue registry raw = .error (.schemaNotMapping raw.shape)) := by
  cases raw with
  | obj entries => exact Or.inl ⟨rfl, _, rfl⟩
  | _ => exact Or.inr ⟨by simp only [Value.shape, ne_eq, reduceCtorEq, not_false_eq_true], rfl⟩

/-- A control is refused for malformed rules, or it is registered with the schema of its
model unless its name is reserved. -/
theorem addField_cases (form : Form) (binding : Binding) :
    (∃ raw, form.rulesFor? binding = some raw ∧ raw.shape ≠ .object ∧
      form.addField binding = (form, .error (.rule (.schemaNotMapping raw.shape)))) ∨
    ((∀ raw, form.rulesFor? binding = some raw → raw.shape = .object) ∧
      ∃ schema, form.model.schema form.engine.registry
          (binding.path form.config).attributeName = .ok schema ∧
        form.addField binding = form.insertField binding schema) := by
  cases declared : form.model.rules? (binding.path form.config).attributeName with
  | none =>
      have decoded : form.model.schema form.engine.registry
          (binding.path form.config).attributeName = .ok .empty := by
        rw [Model.schema, declared]
      refine Or.inr ⟨fun raw found => ?_, .empty, decoded, by rw [addField, decoded]⟩
      cases declared.symm.trans found
  | some raw =>
      have decoding : form.model.schema form.engine.registry
          (binding.path form.config).attributeName =
            Schema.ofValue form.engine.registry raw := by
        rw [Model.schema, declared]
      rcases schema_ofValue_cases form.engine.registry raw with
        ⟨object, schema, decoded⟩ | ⟨malformed, refused⟩
      · refine Or.inr ⟨fun other found => ?_, schema, decoding.trans decoded, ?_⟩
        · cases declared.symm.trans found
          exact object
        · rw [addField, decoding, decoded]
      · exact Or.inl ⟨raw, declared, malformed, by rw [addField, decoding, refused]⟩

/-- What an operation can do: nothing, when it is refused; register a control; commit a
value; or replace records. -/
theorem step_cases (form : Form) (operation : Operation) :
    form.step operation = form ∨
    (∃ binding schema, binding.controlName form.config ≠ reservedName ∧
      (operation = .addFieldWith binding schema ∨
        operation = .addField binding ∧ form.model.schema form.engine.registry
          (binding.path form.config).attributeName = .ok schema) ∧
      form.step operation =
        form.register (binding.controlName form.config) (binding.path form.config) schema) ∨
    (∃ name value path, operation = .setValue name value ∧
      form.fields.get? name = some path ∧
      form.step operation = (form.setValue name value).1) ∨
    ∃ model records, operation = .setRecords model records ∧
      form.step operation = form.setRecords model records := by
  cases operation with
  | addField binding =>
      rcases form.addField_cases binding with ⟨_, _, _, refused⟩ | ⟨_, schema, decoded, added⟩
      · exact Or.inl (congrArg Prod.fst refused)
      · have stepped := congrArg Prod.fst added
        by_cases reserved : binding.controlName form.config = reservedName
        · rw [insertField_of_reserved reserved] at stepped
          exact Or.inl stepped
        · rw [insertField_of_ne reserved] at stepped
          exact Or.inr (Or.inl ⟨binding, schema, reserved, Or.inr ⟨rfl, decoded⟩, stepped⟩)
  | addFieldWith binding schema =>
      by_cases reserved : binding.controlName form.config = reservedName
      · exact Or.inl (congrArg Prod.fst (insertField_of_reserved reserved schema))
      · exact Or.inr (Or.inl ⟨binding, schema, reserved, Or.inl rfl,
          congrArg Prod.fst (insertField_of_ne reserved schema)⟩)
  | setValue name value =>
      cases found : form.fields.get? name with
      | none => exact Or.inl (congrArg Prod.fst (setValue_of_unregistered found value))
      | some path => exact Or.inr (Or.inr (Or.inl ⟨name, value, path, rfl, found, rfl⟩))
  | setRecords model records => exact Or.inr (Or.inr (Or.inr ⟨model, records, rfl, rfl⟩))

/-- A refusal answers with its error and leaves the form as it was. -/
theorem Refusal.answer {operation : Operation} {error : FormError}
    (refusal : form.Refusal operation error) :
    form.step operation = form ∧ form.error? operation = some error := by
  cases refusal with
  | malformedRules binding raw declared malformed =>
      rcases form.addField_cases binding with ⟨other, found, _, answer⟩ | ⟨wellFormed, _⟩
      · cases declared.symm.trans found
        simp only [step, error?, answer, errorOf?, and_self]
      · exact (malformed (wellFormed raw declared)).elim
  | reservedName binding wellFormed reserved =>
      rcases form.addField_cases binding with ⟨raw, declared, malformed, _⟩ | ⟨_, _, _, answer⟩
      · exact (malformed (wellFormed raw declared)).elim
      · simp only [step, error?, answer, insertField_of_reserved reserved, errorOf?, and_self]
  | reservedNameWith binding schema reserved =>
      simp only [step, error?, addFieldWith, insertField_of_reserved reserved, errorOf?, and_self]
  | unknownField name value absent =>
      have missing : form.fields.get? name = none := by
        rw [← Option.not_isSome_iff_eq_none]
        exact absent
      simp only [step, error?, setValue_of_unregistered missing, errorOf?, and_self]

namespace InStep

/-- A new form is in step. -/
theorem withRegistry (model : Model) (config : FormConfig) (registry : Registry) :
    (Form.withRegistry model config registry).InStep where
  names := rfl
  path := fun _ => rfl
  unreserved := List.not_mem_nil

/-- A registration keeps a form in step. -/
theorem register (inStep : form.InStep) {name : String} (free : name ≠ reservedName)
    (path : FieldPath) (schema : Schema) : (form.register name path schema).InStep where
  names := by
    change (form.fields.insert name path).keys = (form.engine.insert name _).names
    rw [Engine.names_insert, OrderedMap.keys_insert]
    change (if name ∈ form.fieldNames then form.fieldNames else form.fieldNames ++ [name]) = _
    rw [inStep.names]
  path := fun other => by
    change (form.fields.insert name path).get? other =
      ((form.engine.insert name _).compiled? other).map CompiledField.path
    rw [Engine.compiled?_insert, OrderedMap.get?_insert]
    split
    · rfl
    · exact inStep.path other
  unreserved := by
    change reservedName ∉ (form.fields.insert name path).keys
    rw [OrderedMap.keys_insert]
    split
    · exact inStep.unreserved
    · intro member
      rcases List.mem_append.mp member with old | new
      · exact inStep.unreserved old
      · exact free (List.mem_singleton.mp new).symm

/-- An operation keeps a form in step. -/
theorem step (inStep : form.InStep) (operation : Operation) : (form.step operation).InStep := by
  rcases form.step_cases operation with same | ⟨binding, schema, free, _, same⟩ |
    ⟨name, value, path, _, found, same⟩ | ⟨model, records, _, same⟩
  · exact same.symm ▸ inStep
  · rw [same]
    exact inStep.register free _ schema
  · obtain ⟨engine, verdicts, committed, kept, _⟩ := setValue_of_registered found inStep value
    rw [same, committed]
    exact inStep.of_sameFields rfl kept
  · rw [same]
    exact inStep.of_sameFields rfl (.refl _)

/-- A run keeps a form in step. -/
theorem run (inStep : form.InStep) (operations : List Operation) :
    (form.run operations).InStep := by
  induction operations generalizing form with
  | nil => exact inStep
  | cons operation rest ih => exact ih (inStep.step operation)

/-- A form in step accepts a value exactly for the controls it holds. -/
theorem setValue_isOk_iff (inStep : form.InStep) (name : String) (value : Value) :
    (∃ verdicts, (form.setValue name value).2 = .ok verdicts) ↔ form.contains name := by
  rw [contains_iff]
  constructor
  · rintro ⟨verdicts, accepted⟩
    cases found : form.fields.get? name with
    | none =>
        rw [setValue_of_unregistered found] at accepted
        cases accepted
    | some path => exact ⟨path, rfl⟩
  · rintro ⟨path, found⟩
    obtain ⟨_, verdicts, committed, _⟩ := setValue_of_registered found inStep value
    exact ⟨verdicts, congrArg Prod.snd committed⟩

/-- A form in step refuses an operation for the listed reasons, and for no other. -/
theorem error?_eq_some_iff (inStep : form.InStep) (operation : Operation) (error : FormError) :
    form.error? operation = some error ↔ form.Refusal operation error := by
  constructor
  · intro refused
    cases operation with
    | addField binding =>
        simp only [error?] at refused
        rcases form.addField_cases binding with
          ⟨raw, declared, malformed, answer⟩ | ⟨wellFormed, schema, _, answer⟩
        · rw [answer] at refused
          cases refused
          exact .malformedRules binding raw declared malformed
        · by_cases reserved : binding.controlName form.config = reservedName
          · rw [answer, insertField_of_reserved reserved] at refused
            cases refused
            exact .reservedName binding wellFormed reserved
          · rw [answer, insertField_of_ne reserved] at refused
            cases refused
    | addFieldWith binding schema =>
        simp only [error?, addFieldWith] at refused
        by_cases reserved : binding.controlName form.config = reservedName
        · rw [insertField_of_reserved reserved] at refused
          cases refused
          exact .reservedNameWith binding schema reserved
        · rw [insertField_of_ne reserved] at refused
          cases refused
    | setValue name value =>
        simp only [error?] at refused
        cases found : form.fields.get? name with
        | none =>
            rw [setValue_of_unregistered found] at refused
            cases refused
            exact .unknownField name value fun held => by
              obtain ⟨path, present⟩ := (form.contains_iff name).mp held
              rw [found] at present
              cases present
        | some path =>
            obtain ⟨_, _, committed, _⟩ := setValue_of_registered found inStep value
            rw [committed] at refused
            cases refused
    | setRecords model records => cases refused
  · exact fun refusal => refusal.answer.2

/-- A refused operation leaves the form as it is. -/
theorem step_of_refused (inStep : form.InStep) {operation : Operation} {error : FormError}
    (refused : form.error? operation = some error) : form.step operation = form :=
  ((inStep.error?_eq_some_iff operation error).mp refused).answer.1

end InStep

/-- **The form and its engine stay in step, and refusals are exact and atomic.** After any
run on any registry, whose predicates may fail or break off, the form and the engine hold
the same controls in the same order at the same paths, none of them under the reserved
name. So a value is accepted exactly for a registered control, an operation is refused
exactly for the reasons of `Form.Refusal`, and a refused operation leaves the whole form
as it was. -/
theorem run_inStep_and_refusals (model : Model) (config : FormConfig) (registry : Registry)
    (operations : List Operation) :
    let form := (withRegistry model config registry).run operations
    form.InStep ∧
    (∀ name value,
      (∃ verdicts, (form.setValue name value).2 = .ok verdicts) ↔ form.contains name) ∧
    (∀ operation error,
      form.error? operation = some error ↔ form.Refusal operation error) ∧
    ∀ operation error, form.error? operation = some error → form.step operation = form := by
  intro form
  have inStep : form.InStep := (InStep.withRegistry model config registry).run operations
  exact ⟨inStep, inStep.setValue_isOk_iff, inStep.error?_eq_some_iff,
    fun _ _ refused => inStep.step_of_refused refused⟩

end Form

end FormValidity
