import FormValidity.Proofs.Form.Run
import FormValidity.Proofs.Predicate.Reading
import Mathlib.Data.List.Nodup

/-! # Stored verdicts are never stale

A commit evaluates its control and the dependents that hold a value, and no others. On the
standard predicates that is enough: along an orderly run (`Form.Orderly`) every stored
verdict is at every moment what an evaluation would say then (`Form.run_fresh`). The
invariant is `Form.Tracked`. It is kept by a commit because a control that keeps its
verdicts either has no `confirmation` constraint or has its sibling under another key.
-/

namespace FormValidity

namespace Operation

/-- Whether an operation commits a value. -/
def commits : Operation → Bool
  | .setValue _ _ => true
  | _ => false

/-- Whether an operation replaces records. -/
def replacesRecords : Operation → Bool
  | .setRecords _ _ => true
  | _ => false

/-- The host's own predicates in the schema of an operation do not look at the form. -/
def IgnoresForm : Operation → Prop
  | .addFieldWith _ schema => schema.IgnoresForm
  | _ => True

end Operation

namespace Form

/-- No two controls have the same committed key. -/
def KeysDistinct (form : Form) : Prop := (form.fields.values.map FieldPath.display).Nodup

instance (form : Form) : Decidable form.KeysDistinct := inferInstanceAs (Decidable (List.Nodup _))

/-- A run in which the host's own predicates do not look at the form, records are set
before any value is committed, and no two controls ever have the same committed key. -/
structure Orderly (form : Form) (operations : List Operation) : Prop where
  ignores : ∀ operation ∈ operations, operation.IgnoresForm
  recordsFirst : operations.Pairwise fun earlier later =>
    earlier.commits → ¬ later.replacesRecords
  keysDistinct : form.Throughout KeysDistinct operations

/-- Every stored verdict is what an evaluation would say now. -/
def Fresh (form : Form) : Prop :=
  ∀ name verdicts, form.verdicts? name = some verdicts → form.current? name = some verdicts

/-- No verdict is stored yet. -/
def Untouched (form : Form) : Prop := ∀ name, form.verdicts? name = none

variable {form : Form} {suffix : String}

/-- Among distinct keys a key belongs to one control. -/
theorem KeysDistinct.eq_of_display (distinct : form.KeysDistinct) {first second : String}
    {path other : FieldPath} (found : form.fields.get? first = some path)
    (present : form.fields.get? second = some other) (same : path.display = other.display) :
    first = second := by
  have injective := List.inj_on_of_nodup_map
    (show (form.fields.entries.map fun entry => entry.2.display).Nodup by
      have distinct : ((form.fields.entries.map Prod.snd).map FieldPath.display).Nodup := distinct
      rwa [List.map_map] at distinct)
  exact congrArg Prod.fst (injective (form.fields.mem_entries_iff.mpr found)
    (form.fields.mem_entries_iff.mpr present) same)

/-- What would be stored of a control now is the evaluation of its compiled field on its value, if
it has both. -/
theorem current?_eq_some_iff (form : Form) (name : String) (verdicts : Verdicts) :
    form.current? name = some verdicts ↔
      ∃ compiled value, form.engine.compiled? name = some compiled ∧
        form.value? name = some value ∧ verdicts = compiled.evaluate value form.context := by
  rw [current?, Option.bind_eq_some_iff]
  constructor
  · rintro ⟨compiled, found, evaluated⟩
    obtain ⟨value, held, rfl⟩ := Option.map_eq_some_iff.mp evaluated
    exact ⟨compiled, value, found, held, rfl⟩
  · rintro ⟨compiled, value, found, held, rfl⟩
    exact ⟨compiled, found, by rw [held, Option.map_some]⟩

/-- Among distinct keys, storing the value of one control leaves those of the others. -/
theorem KeysDistinct.value?_store_of_ne (distinct : form.KeysDistinct) {name other : String}
    {path : FieldPath} (found : form.fields.get? name = some path) (differ : name ≠ other)
    (value : Value) : (form.store path value).value? other = form.value? other := by
  apply value?_store_of_not_sharesKey found
  rintro ⟨its, _, present, again, same⟩
  cases found.symm.trans again
  exact differ (distinct.eq_of_display found present same)

/-- Another control than the one registered keeps its verdicts, and they stay due. -/
theorem register_of_ne (form : Form) {name other : String} (differ : name ≠ other)
    (path : FieldPath) (schema : Schema) :
    (form.register name path schema).verdicts? other = form.verdicts? other ∧
      (form.register name path schema).current? other = form.current? other := by
  constructor
  · exact (form.engine.verdicts?_insert name other _).trans (if_neg differ)
  · change ((form.engine.insert name _).compiled? other).bind (fun compiled =>
      (((form.fields.insert name path).get? other).bind _).map _) = _
    rw [Engine.compiled?_insert, if_neg differ, form.fields.get?_insert_of_ne differ]
    rfl

/-- A registration leaves its control without verdicts. -/
theorem verdicts?_register_self (name : String) (path : FieldPath) (schema : Schema) :
    (form.register name path schema).verdicts? name = none :=
  (form.engine.verdicts?_insert name name _).trans (if_pos rfl)

/-- The verdicts of a control, if it has any, are those of the value it holds. -/
def Settled (name : String) (form : Form) : Prop :=
  ∀ verdicts, form.verdicts? name = some verdicts → form.current? name = some verdicts

/-- Registering a control keeps all other verdicts due and forgets those of the control it
replaces. -/
theorem Settled.register {name : String} (settled : form.Settled name) (other : String)
    (path : FieldPath) (schema : Schema) : (form.register other path schema).Settled name := by
  intro verdicts stored
  by_cases same : other = name
  · subst same
    rw [verdicts?_register_self] at stored
    cases stored
  · obtain ⟨kept, due⟩ := form.register_of_ne same path schema
    rw [due]
    exact settled verdicts (kept ▸ stored)

/-- A commit settles the controls that it evaluates. Any other control needs the verdicts it
has to be due among the new values. -/
theorem settled_setValue_of_idle (inStep : form.InStep) {name other : String} {path : FieldPath}
    (found : form.fields.get? name = some path) (value : Value)
    (idle : other ≠ name → other ∉ (form.store path value).dependents name path.display →
      (form.store path value).Settled other) : (form.setValue name value).1.Settled other := by
  obtain ⟨engine, _, committed, kept, _, stored⟩ := setValue_of_registered found inStep value
  rw [committed]
  intro verdicts answer
  rw [(form.store path value).current?_withEngine kept]
  have answered := (stored other).symm.trans answer
  split at answered
  · exact answered
  · next unevaluated =>
      obtain ⟨differ, outside⟩ := not_or.mp unevaluated
      exact idle differ outside verdicts answered

/-- What a form on the standard predicates keeps along an orderly run. -/
structure Tracked (suffix : String) (form : Form) : Prop where
  inStep : form.InStep
  registry : form.engine.registry = .standard suffix
  reads : ∀ name compiled, form.engine.compiled? name = some compiled →
    compiled.ReadsSibling suffix
  fresh : form.Fresh

/-- A new form is tracked. -/
theorem Tracked.withConfig (model : Model) (config : FormConfig) :
    (Form.withConfig model config).Tracked config.confirmationSuffix where
  inStep := .withRegistry model config _
  registry := rfl
  reads := fun _ _ absent => nomatch absent
  fresh := fun _ _ absent => nomatch absent

namespace Tracked

/-- A registration keeps a form tracked, if its schema ignores the form. -/
theorem register (tracked : form.Tracked suffix) {name : String} (free : name ≠ reservedName)
    (path : FieldPath) {schema : Schema} (ignores : schema.IgnoresForm) :
    (form.register name path schema).Tracked suffix where
  inStep := tracked.inStep.register free path schema
  registry := tracked.registry
  reads := fun other compiled found => by
    change (form.engine.insert name _).compiled? other = some compiled at found
    rw [Engine.compiled?_insert, tracked.registry] at found
    split at found
    · cases found
      exact CompiledField.readsSibling_compile ignores suffix path
    · exact tracked.reads other compiled found
  fresh := fun other =>
    Settled.register (tracked.fresh other) name path schema

/-- New records keep a form tracked that no value has been committed to. -/
theorem setRecords (tracked : form.Tracked suffix) (untouched : form.Untouched) (model : String)
    (records : List Value) : (form.setRecords model records).Tracked suffix where
  inStep := tracked.inStep.of_sameFields rfl (.refl _)
  registry := tracked.registry
  reads := tracked.reads
  fresh := fun name _ stored => nomatch (untouched name).symm.trans stored

/-- A control that a commit does not evaluate would be evaluated to the same verdicts as
before: its value is unchanged, and so is the value of its sibling if it has a
`confirmation` constraint. -/
theorem current?_store (tracked : form.Tracked suffix) (distinct : form.KeysDistinct)
    {name other : String} {path : FieldPath} (found : form.fields.get? name = some path)
    (value : Value) (differ : other ≠ name)
    (idle : other ∉ (form.store path value).dependents name path.display) {verdicts : Verdicts}
    (due : form.current? other = some verdicts) :
    (form.store path value).current? other = some verdicts := by
  obtain ⟨compiled, held, registered, valued, rfl⟩ :=
    (form.current?_eq_some_iff other verdicts).mp due
  have present := tracked.inStep.path_of_compiled? registered
  have kept : (form.store path value).value? other = some held := by
    rw [distinct.value?_store_of_ne found (Ne.symm differ), valued]
  refine ((form.store path value).current?_eq_some_iff other _).mpr
    ⟨compiled, held, registered, kept, ?_⟩
  have records : form.context.records = (form.store path value).context.records := rfl
  refine (tracked.reads other compiled registered).evaluate_eq records (fun constrained => ?_) held
  -- If the sibling were the control just committed, the other one would be a dependent.
  have apart : path.display ≠ compiled.path.confirmationName suffix := by
    intro same
    apply idle
    rw [mem_dependents_iff]
    refine ⟨differ, ⟨compiled.path, compiled, present, registered, constrained, ?_⟩, ?_⟩
    · change compiled.path.confirmationName form.engine.registry.confirmationSuffix = _
      rw [tracked.registry]
      exact same.symm
    · rw [kept]
      rfl
  exact (form.values.get?_insert_of_ne apart value).symm

/-- A commit keeps a form with distinct keys tracked. -/
theorem setValue (tracked : form.Tracked suffix) (distinct : form.KeysDistinct) {name : String}
    {path : FieldPath} (found : form.fields.get? name = some path) (value : Value) :
    (form.setValue name value).1.Tracked suffix := by
  have settled : (form.setValue name value).1.Fresh := fun other =>
    settled_setValue_of_idle tracked.inStep found value fun differ idle verdicts due =>
      tracked.current?_store distinct found value differ idle (tracked.fresh other verdicts due)
  obtain ⟨engine, _, committed, kept, _⟩ := setValue_of_registered found tracked.inStep value
  rw [committed] at settled ⊢
  refine ⟨tracked.inStep.of_sameFields rfl kept, kept.registry.trans tracked.registry,
    fun other compiled registered => ?_, settled⟩
  exact tracked.reads other compiled ((kept.compiled? other).symm.trans registered)

/-- Every operation of an orderly run keeps the invariant; records may be replaced only
while no verdict is stored. -/
theorem step (tracked : form.Tracked suffix) (distinct : form.KeysDistinct)
    {operation : Operation} (ignores : operation.IgnoresForm)
    (early : operation.replacesRecords → form.Untouched) :
    (form.step operation).Tracked suffix := by
  rcases form.step_cases operation with same | ⟨binding, schema, free, asked, same⟩ |
    ⟨name, value, path, rfl, found, same⟩ | ⟨model, records, rfl, same⟩
  · exact same.symm ▸ tracked
  · rw [same]
    refine tracked.register free _ ?_
    rcases asked with rfl | ⟨_, decoded⟩
    · exact ignores
    · rw [tracked.registry] at decoded
      exact Model.ignoresForm_schema decoded
  · rw [same]
    exact tracked.setValue distinct found value
  · rw [same]
    exact tracked.setRecords (early rfl) model records

end Tracked

/-- A form stays untouched without commits. -/
theorem Untouched.step (untouched : form.Untouched) {operation : Operation}
    (silent : operation.commits = false) : (form.step operation).Untouched := by
  rcases form.step_cases operation with same | ⟨binding, schema, _, _, same⟩ |
    ⟨name, value, path, rfl, _, _⟩ | ⟨model, records, rfl, same⟩
  · exact same.symm ▸ untouched
  · rw [same]
    intro name
    refine (form.engine.verdicts?_insert _ name _).trans ?_
    split
    · rfl
    · exact untouched name
  · cases silent
  · rw [same]
    exact untouched

/-- An orderly run keeps the invariant. The induction is on the operations to come: as
long as nothing has been committed no verdict is stored, and after that no operation
replaces records. -/
theorem Tracked.run (tracked : form.Tracked suffix) {operations : List Operation}
    (orderly : form.Orderly operations)
    (early : form.Untouched ∨ ∀ operation ∈ operations, ¬ operation.replacesRecords) :
    (form.run operations).Tracked suffix := by
  induction operations generalizing form with
  | nil => exact tracked
  | cons operation rest ih =>
      obtain ⟨ignores, recordsFirst, distinct, keysDistinct⟩ := orderly
      obtain ⟨later, recordsFirst⟩ := List.pairwise_cons.mp recordsFirst
      have stepped : (form.step operation).Tracked suffix := by
        refine tracked.step distinct (ignores operation List.mem_cons_self) fun replaces => ?_
        exact early.resolve_right fun none => none operation List.mem_cons_self replaces
      refine ih stepped ⟨fun other member => ignores other (List.mem_cons_of_mem _ member),
        recordsFirst, keysDistinct⟩ ?_
      cases commits : operation.commits with
      | true => exact Or.inr fun other member => later other member commits
      | false =>
          refine early.imp (fun untouched => untouched.step commits) fun none other member => ?_
          exact none other (List.mem_cons_of_mem _ member)

/-- An orderly run of a new form is tracked at its end. -/
theorem Tracked.of_orderly {model : Model} {config : FormConfig} {operations : List Operation}
    (orderly : (Form.withConfig model config).Orderly operations) :
    ((Form.withConfig model config).run operations).Tracked config.confirmationSuffix :=
  (Tracked.withConfig model config).run orderly (Or.inl fun _ => rfl)

/-- **Stored verdicts are never stale.** In every state that an orderly run on the standard
predicates reaches, under any configuration, a control with verdicts holds a value, and
the verdicts are those of its field as compiled now, on the value it holds now, among the
values and records of now. -/
theorem run_fresh (model : Model) (config : FormConfig) (operations : List Operation)
    (orderly : (Form.withConfig model config).Orderly operations) (name : String)
    (verdicts : Verdicts)
    (stored : ((Form.withConfig model config).run operations).verdicts? name = some verdicts) :
    ∃ compiled value,
      ((Form.withConfig model config).run operations).engine.compiled? name = some compiled ∧
      ((Form.withConfig model config).run operations).value? name = some value ∧
      verdicts =
        compiled.evaluate value ((Form.withConfig model config).run operations).context :=
  (current?_eq_some_iff _ name verdicts).mp
    ((Tracked.of_orderly orderly).fresh name verdicts stored)

/-- A model whose password is to be confirmed. -/
def passwordModel : Model :=
  (Model.new "user").declare "password" (.obj [("confirmation", .bool true)])

/-- The schema of a control whose value is short, as the host itself tells. -/
def briefSchema : Schema :=
  Schema.empty.declare "brief" (.custom (.ofTest fun value => value.length ≤ 8) none)

/-- A run that commits a password before its confirmation. -/
def confirmingRun : List Operation :=
  [.addField { modelPath := some "user.password" },
    .addFieldWith { modelPath := some "user.passwordConfirmation" } briefSchema,
    .setRecords "user" [],
    .setValue "user.password" (.str "secret"),
    .setValue "user.passwordConfirmation" (.str "secret")]

private theorem ignoresForm_briefSchema : briefSchema.IgnoresForm := by
  intro kind predicate message found
  rw [briefSchema, Schema.declare, OrderedMap.get?_insert] at found
  split at found
  · cases found
    exact Predicate.ignoresForm_ofTest _
  · cases found

/-- The run is orderly: it sets no records, and its keys are distinct. -/
theorem orderly_confirmingRun : (withConfig passwordModel .standard).Orderly confirmingRun where
  ignores := by
    intro operation member
    simp only [confirmingRun, List.mem_cons, List.not_mem_nil, or_false] at member
    rcases member with rfl | rfl | rfl | rfl | rfl
    · trivial
    · exact ignoresForm_briefSchema
    all_goals trivial
  recordsFirst := by decide
  keysDistinct := by decide

/-- The commit of the confirmation has made the password valid. -/
theorem run_fresh_confirmingRun :
    let form := (withConfig passwordModel .standard).run confirmingRun
    form.verdicts? "user.password" = some (Verdicts.empty.record "confirmation" true) ∧
    ∃ compiled value,
      form.engine.compiled? "user.password" = some compiled ∧
      form.value? "user.password" = some value ∧
      Verdicts.empty.record "confirmation" true = compiled.evaluate value form.context :=
  ⟨rfl, run_fresh passwordModel .standard confirmingRun orderly_confirmingRun "user.password" _ rfl⟩

end Form

end FormValidity
