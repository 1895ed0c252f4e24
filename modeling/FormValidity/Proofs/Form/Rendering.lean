import FormValidity.Proofs.Form.Freshness
import FormValidity.Proofs.Form.History

/-! # Rendered names and classes

A control renders the names of its constraints as one text, and one class per verdict. Along every
run the verdicts that a form stores stand under the constraint names of the field that is compiled
now (`Form.Labelled`): a registration forgets the old ones, and a commit evaluates whole fields. So
the two renderings tell of the same constraints in the same order, those of the latest registration
(`Setup.run_renders`).
-/

namespace FormValidity

/-- Verdicts are not valid exactly if one of them is false. -/
theorem Verdicts.isValid_eq_false_iff (verdicts : Verdicts) :
    verdicts.isValid = false ↔ ∃ kind, verdicts.get? kind = some false := by
  rw [← Bool.not_eq_true, isValid_iff]
  constructor
  · intro failing
    simp only [not_forall] at failing
    obtain ⟨kind, holds, recorded, fails⟩ := failing
    exact ⟨kind, (Bool.not_eq_true holds ▸ fails) ▸ recorded⟩
  · rintro ⟨kind, recorded⟩ valid
    cases valid kind false recorded

namespace Form

/-- No field has two constraints of one name, and the verdicts of a control stand under the names
of its field's constraints. -/
structure Labelled (form : Form) : Prop where
  distinct : ∀ name compiled, form.engine.compiled? name = some compiled →
    compiled.constraintNames.Nodup
  labels : ∀ name verdicts, form.verdicts? name = some verdicts →
    form.engine.constraintNames? name = some (verdicts.toList.map Prod.fst)

/-- A control renders constraint names: joined in its attribute, and, once it has verdicts, each of
them in its class after the prefix of its verdict. -/
structure Renders (form : Form) (config : FormConfig) (name : String) (names : List String) :
    Prop where
  joined : form.validatesAttribute? name = some (config.attributeSeparator.intercalate names)
  unclassed : form.stateClasses name = [] ↔ form.verdicts? name = none ∨ names = []
  classes : ∀ verdicts, form.verdicts? name = some verdicts →
    List.Forall₂ (fun kind label => ∃ holds, verdicts.get? kind = some holds ∧
      label = (if holds then config.validClass else config.invalidClass) ++ kind)
      names (form.stateClasses name)

variable {form : Form}

namespace Labelled

/-- A new form is labelled. -/
theorem withRegistry (model : Model) (config : FormConfig) (registry : Registry) :
    (Form.withRegistry model config registry).Labelled where
  distinct := fun _ _ absent => nomatch absent
  labels := fun _ _ absent => nomatch absent

variable (labelled : form.Labelled)
include labelled

/-- A registration keeps a form labelled. -/
theorem register (name : String) (path : FieldPath) (schema : Schema) :
    (form.register name path schema).Labelled where
  distinct := by
    intro other compiled found
    change (form.engine.insert name _).compiled? other = some compiled at found
    rw [Engine.compiled?_insert] at found
    split at found
    · cases found
      exact CompiledField.nodup_constraintNames_compile form.engine.registry path schema
    · exact labelled.distinct other compiled found
  labels := by
    intro other verdicts stored
    by_cases same : name = other
    · subst same
      rw [verdicts?_register_self] at stored
      cases stored
    · have kept := (form.register_of_ne same path schema).1
      have named := labelled.labels other verdicts (kept ▸ stored)
      change ((form.engine.insert name _).compiled? other).map CompiledField.constraintNames = _
      rw [Engine.compiled?_insert, if_neg same]
      exact named

/-- A commit evaluates whole fields and keeps the verdicts of all others. -/
theorem setValue (inStep : form.InStep) {name : String} {path : FieldPath}
    (found : form.fields.get? name = some path) (value : Value) :
    (form.setValue name value).1.Labelled := by
  obtain ⟨engine, _, committed, kept, _, stored⟩ := setValue_of_registered found inStep value
  rw [committed]
  constructor
  · intro other compiled present
    exact labelled.distinct other compiled ((kept.compiled? other).symm.trans present)
  · intro other verdicts answer
    change (engine.compiled? other).map CompiledField.constraintNames = _
    rw [kept.compiled?]
    have answered := (stored other).symm.trans answer
    split at answered
    · obtain ⟨compiled, held, present, _, rfl⟩ := (current?_eq_some_iff _ other _).mp answered
      have present : form.engine.compiled? other = some compiled := present
      have distinct := labelled.distinct other compiled present
      rw [present, Option.map_some, CompiledField.map_fst_toList_evaluate distinct]
    · exact labelled.labels other verdicts answered

/-- An operation keeps a form labelled. -/
theorem step (inStep : form.InStep) (operation : Operation) : (form.step operation).Labelled := by
  rcases form.step_cases operation with same | ⟨binding, schema, _, _, same⟩ |
    ⟨name, value, path, _, found, same⟩ | ⟨model, records, _, same⟩
  · exact same.symm ▸ labelled
  · rw [same]
    exact labelled.register _ _ schema
  · rw [same]
    exact labelled.setValue inStep found value
  · rw [same]
    exact ⟨labelled.distinct, labelled.labels⟩

/-- A run keeps a form labelled. -/
theorem run (inStep : form.InStep) (operations : List Operation) :
    (form.run operations).Labelled := by
  induction operations generalizing form with
  | nil => exact labelled
  | cons operation rest ih => exact ih (labelled.step inStep operation) (inStep.step operation)

/-- A labelled form renders every control as its verdicts say. -/
theorem renders {name : String} {names : List String}
    (named : form.engine.constraintNames? name = some names) :
    form.Renders form.config name names := by
  have joined : form.validatesAttribute? name =
      some (form.config.attributeSeparator.intercalate names) := by
    rw [validatesAttribute?, named, Option.map_some]
  cases stored : form.verdicts? name with
  | none =>
      have idle : form.stateClasses name = [] := by rw [stateClasses, stored]
      refine ⟨joined, iff_of_true idle (Or.inl stored), fun verdicts found => ?_⟩
      cases stored.symm.trans found
  | some verdicts =>
      have labels : names = verdicts.toList.map Prod.fst :=
        Option.some.inj (named.symm.trans (labelled.labels name verdicts stored))
      refine ⟨joined, ?_, ?_⟩
      · simp only [stateClasses, stored, labels, List.map_eq_nil_iff, reduceCtorEq, false_or]
      · intro other found
        cases stored.symm.trans found
        rw [stateClasses, stored, labels, List.forall₂_map_left_iff, List.forall₂_map_right_iff,
          List.forall₂_same]
        intro entry member
        exact ⟨entry.2, verdicts.get?_eq_some_iff.mpr member, rfl⟩

end Labelled

/-- A form is invalid exactly if one of its controls has a negative verdict. -/
theorem isFormValid_eq_false_iff (form : Form) :
    form.isFormValid = false ↔ ∃ name verdicts kind, form.contains name ∧
      form.verdicts? name = some verdicts ∧ verdicts.get? kind = some false := by
  have failing : form.isFormValid = false ↔
      ∃ name ∈ form.fields.keys, form.isValid? name = some false := by
    simp only [isFormValid, List.all_eq_false, List.mem_filterMap, id_eq, Bool.not_eq_true,
      exists_eq_right]
  rw [failing]
  constructor
  · rintro ⟨name, held, invalid⟩
    obtain ⟨verdicts, stored, fails⟩ := Option.map_eq_some_iff.mp invalid
    obtain ⟨kind, negative⟩ := verdicts.isValid_eq_false_iff.mp fails
    exact ⟨name, verdicts, kind, (form.fields.contains_iff name).mpr held, stored, negative⟩
  · rintro ⟨name, verdicts, kind, held, stored, negative⟩
    refine ⟨name, (form.fields.contains_iff name).mp held, ?_⟩
    exact Option.map_eq_some_iff.mpr
      ⟨verdicts, stored, verdicts.isValid_eq_false_iff.mpr ⟨kind, negative⟩⟩

end Form

/-- **Attribute and classes stay aligned.** After any run on any form, whatever its registry and its
predicates, each control renders the constraint names of its latest registration: its attribute
joins them, it has no class before it is evaluated, and from then on one class for each of these
names in turn, which tells the stored verdict of that name. The form is invalid exactly if one of
its controls has a negative verdict. -/
theorem Setup.run_renders (setup : Setup) (operations : List Operation) :
    let form := setup.form.run operations
    (∀ name, form.contains name →
      ∃ control, setup.latestControl? name operations = some control ∧
        form.Renders setup.config name (setup.compile control).constraintNames) ∧
    (form.isFormValid = false ↔ ∃ name verdicts kind, form.contains name ∧
      form.verdicts? name = some verdicts ∧ verdicts.get? kind = some false) := by
  intro form
  have labelled : form.Labelled :=
    (Form.Labelled.withRegistry setup.model setup.config setup.registry).run setup.inStep_form
      operations
  have config : form.config = setup.config := congrArg Setup.config (setup.setup_run operations)
  refine ⟨fun name held => ?_, form.isFormValid_eq_false_iff⟩
  obtain ⟨control, latest⟩ := (setup.contains_run_iff operations name).mp held
  have compiled : form.engine.compiled? name = some (setup.compile control) := by
    rw [setup.compiled?_run, latest, Option.map_some]
  have named : form.engine.constraintNames? name =
      some (setup.compile control).constraintNames := by
    rw [Engine.constraintNames?, compiled, Option.map_some]
  exact ⟨control, latest, config ▸ labelled.renders named⟩

end FormValidity
