import FormValidity.Proofs.Form.Freshness

/-! # Controls that share a committed key

A form keeps values by field path and verdicts by control. A control that has its key for
itself and does not look at the form always has the verdicts of the value it holds
(`Form.run_settled`), whatever happens to the other controls. Of two controls with one key, a
commit through the first changes the value of both and leaves the verdicts of the second as
they were, unless the second confirms the very key (`Form.setValue_of_sharesKey`). Then the
second tells of a value that it no longer holds, and so does the validity of the form
(`Form.stale_twinRun`).
-/

namespace FormValidity

namespace CompiledField

/-- The tests of a field do not look at the form. -/
def IgnoresForm (field : CompiledField) : Prop :=
  ∀ descriptor ∈ field.descriptors, descriptor.test.IgnoresForm

/-- A field that ignores the form has the same verdicts in every context. -/
theorem IgnoresForm.evaluate_eq {field : CompiledField} (ignores : field.IgnoresForm)
    (value : Value) (first second : Context) :
    field.evaluate value first = field.evaluate value second :=
  evaluate_congr fun descriptor member => ignores descriptor member value field.path first second

/-- A schema compiled with the standard registry ignores the form if it sets neither of the
two flags that look at it. -/
theorem ignoresForm_compile {schema : Schema} (ignores : schema.IgnoresForm)
    (unconfirmed : schema.constraints.get? "confirmation" ≠ some (.flag true))
    (repeatable : schema.constraints.get? "uniqueness" ≠ some (.flag true))
    (suffix : String) (path : FieldPath) :
    (compile (.standard suffix) path schema).IgnoresForm := by
  intro descriptor member value field first second
  obtain ⟨⟨kind, constraint⟩, declared, found⟩ := List.mem_filterMap.mp member
  have present := schema.constraints.mem_entries_iff.mp declared
  have reads := Descriptor.readsOnly_of_ofConstraint? (fun predicate message same =>
    ignores kind predicate message (same ▸ present)) found field
  refine reads value first second ⟨?_, ?_⟩
  · rintro name ⟨rfl, rfl, _⟩
    exact (unconfirmed present).elim
  · rintro model ⟨rfl, rfl, _⟩
    exact (repeatable present).elim

end CompiledField

namespace Form

/-- A control has its key for itself, and its tests do not look at the form. -/
structure SelfContained (name : String) (form : Form) : Prop where
  alone : ∀ other, form.SharesKey name other → other = name
  ignores : ∀ compiled, form.engine.compiled? name = some compiled → compiled.IgnoresForm

variable {form : Form}

/-- What is due for a control that ignores the form depends on its field and its value. -/
theorem current?_congr {before after : Form} {name : String}
    (ignores : ∀ compiled, before.engine.compiled? name = some compiled → compiled.IgnoresForm)
    (compiled : after.engine.compiled? name = before.engine.compiled? name)
    (value : after.value? name = before.value? name) :
    after.current? name = before.current? name := by
  rw [current?, current?, compiled, value]
  cases found : before.engine.compiled? name with
  | none => rfl
  | some field =>
      rw [Option.bind_some, Option.bind_some]
      congr 1
      funext held
      exact (ignores field found).evaluate_eq held after.context before.context

namespace Settled

variable {name : String} (settled : form.Settled name)
include settled

/-- A commit that does not evaluate a self-contained control leaves its value alone. -/
theorem setValue (inStep : form.InStep) (contained : form.SelfContained name) {other : String}
    {path : FieldPath} (found : form.fields.get? other = some path) (value : Value) :
    (form.setValue other value).1.Settled name := by
  apply settled_setValue_of_idle inStep found value
  intro differ _ verdicts stored
  have apart : ¬ form.SharesKey name other := fun shared =>
    differ (contained.alone other shared).symm
  have held := value?_store_of_not_sharesKey found apart value
  have due : (form.store path value).current? name = form.current? name :=
    current?_congr contained.ignores rfl held
  exact due.trans (settled verdicts stored)

/-- New records leave a self-contained control settled. -/
theorem setRecords (contained : form.SelfContained name) (model : String)
    (records : List Value) : (form.setRecords model records).Settled name := by
  intro verdicts stored
  have due : (form.setRecords model records).current? name = form.current? name :=
    current?_congr contained.ignores rfl rfl
  exact due.trans (settled verdicts stored)

/-- An operation leaves a self-contained control settled. -/
theorem step (inStep : form.InStep) (contained : form.SelfContained name)
    (operation : Operation) : (form.step operation).Settled name := by
  rcases form.step_cases operation with same | ⟨binding, schema, _, _, same⟩ |
    ⟨other, value, path, _, found, same⟩ | ⟨model, records, _, same⟩
  · exact same.symm ▸ settled
  · rw [same]
    exact settled.register _ _ schema
  · rw [same]
    exact settled.setValue inStep contained found value
  · rw [same]
    exact settled.setRecords contained model records

/-- A control that is self-contained throughout a run is settled at its end. -/
theorem run (inStep : form.InStep) {operations : List Operation}
    (contained : form.Throughout (SelfContained name) operations) :
    (form.run operations).Settled name := by
  induction operations generalizing form with
  | nil => exact settled
  | cons operation rest ih =>
      exact ih (settled.step inStep contained.1 operation) (inStep.step operation) contained.2

end Settled

/-- A control that is self-contained all along a run, on any registry, has the verdicts of its
field as compiled now on the value that the form reports for it. Other controls may share keys
and look at the form. -/
theorem run_settled (model : Model) (config : FormConfig) (registry : Registry)
    (operations : List Operation) (name : String)
    (contained : (withRegistry model config registry).Throughout (SelfContained name) operations)
    {verdicts : Verdicts}
    (stored : ((withRegistry model config registry).run operations).verdicts? name =
      some verdicts) :
    let form := (withRegistry model config registry).run operations
    ∃ compiled value, form.engine.compiled? name = some compiled ∧
      form.value? name = some value ∧ verdicts = compiled.evaluate value form.context := by
  have fresh : (withRegistry model config registry).Settled name := fun _ absent => nomatch absent
  have settled := fresh.run (.withRegistry model config registry) contained
  exact (current?_eq_some_iff _ name verdicts).mp (settled verdicts stored)

/-- A commit through one of two controls with one key changes the value of both and evaluates
the one. The other keeps its verdicts, unless it confirms this key. -/
theorem setValue_of_sharesKey (inStep : form.InStep) {name other : String} {path : FieldPath}
    (found : form.fields.get? name = some path) (shared : form.SharesKey name other)
    (differ : other ≠ name) (unconfirmed : ¬ form.Confirms other path.display) (value : Value) :
    (form.setValue name value).1.value? other = some value ∧
      (form.setValue name value).1.verdicts? other = form.verdicts? other := by
  refine ⟨value?_setValue_of_sharesKey inStep shared value, ?_⟩
  obtain ⟨engine, _, committed, _, _, stored⟩ := setValue_of_registered found inStep value
  rw [committed]
  refine (stored other).trans (if_neg ?_)
  rintro (own | dependent)
  · exact differ own
  · exact unconfirmed ((mem_dependents_iff _ _ _ _).mp dependent).2.1

/-- A model that asks for a name. -/
def nameModel : Model := (Model.new "user").declare "name" (.obj [("presence", .bool true)])

/-- Two controls edit one name. It is left out through the first and given through the
second. -/
def twinRun : List Operation :=
  [.addField { modelPath := some "user.name", name := some "billing" },
    .addField { modelPath := some "user.name", name := some "shipping" },
    .setValue "billing" (.str ""),
    .setValue "shipping" (.str "Porky")]

/-- Both controls hold the name that was given, and it meets the rules. The first control and
the form remain invalid. -/
theorem stale_twinRun :
    let form := (new nameModel).run twinRun
    form.value? "billing" = some (.str "Porky") ∧ form.value? "shipping" = some (.str "Porky") ∧
      form.isValid? "billing" = some false ∧
      (form.current? "billing").map Verdicts.isValid = some true ∧
      form.isValid? "shipping" = some true ∧ form.isFormValid = false :=
  ⟨rfl, rfl, rfl, rfl, rfl, rfl⟩

end Form

end FormValidity
