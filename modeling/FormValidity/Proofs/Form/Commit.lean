import FormValidity.Form.Basic
import FormValidity.Proofs.Engine.Operations

/-! # What committing a value does

A form that is `Form.InStep` with its engine commits a value to every control it holds
(`Form.setValue_of_registered`) and refuses all others (`Form.setValue_of_unregistered`).
A commit stores the value and leaves all controls as they are. It evaluates the control
and those of its dependents that hold a value, each on the value it holds now
(`Form.current?`); the verdicts of the others stay. The value shows at every control with the same
committed key and at no other one.
-/

namespace FormValidity

namespace Form

variable {form : Form}

/-- The form and its engine hold the same controls in the same order and at the same
paths, and no control has the reserved name. -/
structure InStep (form : Form) : Prop where
  names : form.fieldNames = form.engine.names
  path : ∀ name, form.fields.get? name = (form.engine.compiled? name).map CompiledField.path
  unreserved : reservedName ∉ form.fieldNames

/-- What an evaluation of a control on the value it holds would say now. -/
def current? (form : Form) (name : String) : Option Verdicts :=
  (form.engine.compiled? name).bind fun compiled =>
    (form.value? name).map fun value => compiled.evaluate value form.context

/-- The sibling of a control's `confirmation` constraint is committed under a key. -/
def Confirms (form : Form) (name key : String) : Prop :=
  ∃ path compiled, form.fields.get? name = some path ∧
    form.engine.compiled? name = some compiled ∧ compiled.hasConstraint "confirmation" ∧
    path.confirmationName form.engine.registry.confirmationSuffix = key

/-- Two controls hold their values under one key. -/
def SharesKey (form : Form) (name other : String) : Prop :=
  ∃ path otherPath, form.fields.get? name = some path ∧
    form.fields.get? other = some otherPath ∧ otherPath.display = path.display

/-- A form has a control exactly if a path is registered for its name. -/
theorem contains_iff (form : Form) (name : String) :
    form.contains name ↔ ∃ path, form.fields.get? name = some path :=
  Option.isSome_iff_exists

namespace InStep

/-- In step, a registered path has a compiled field with that path. -/
theorem compiled?_of_path (inStep : form.InStep) {name : String} {path : FieldPath}
    (found : form.fields.get? name = some path) :
    ∃ compiled, form.engine.compiled? name = some compiled ∧ compiled.path = path :=
  Option.map_eq_some_iff.mp ((inStep.path name).symm.trans found)

/-- In step, a compiled field has a registered path, its own. -/
theorem path_of_compiled? (inStep : form.InStep) {name : String} {compiled : CompiledField}
    (found : form.engine.compiled? name = some compiled) :
    form.fields.get? name = some compiled.path := by
  rw [inStep.path, found, Option.map_some]

/-- In step, a name without a control has no verdicts. -/
theorem verdicts?_of_absent (inStep : form.InStep) {name : String}
    (absent : ¬ form.contains name) : form.verdicts? name = none := by
  have missing : form.fields.get? name = none := Option.not_isSome_iff_eq_none.mp absent
  rw [inStep.path, Option.map_eq_none_iff] at missing
  exact form.engine.verdicts?_eq_none_of_unregistered missing

/-- Whatever a form does to its verdicts, values and records, it stays in step. -/
theorem of_sameFields (inStep : form.InStep) {after : Form}
    (fields : after.fields = form.fields) (same : form.engine.SameFields after.engine) :
    after.InStep where
  names := by
    rw [same.names, ← inStep.names]
    exact congrArg OrderedMap.keys fields
  path := fun name => by rw [fields, same.compiled?, inStep.path]
  unreserved := by
    rw [fieldNames, fields]
    exact inStep.unreserved

end InStep

/-- The dependents of a commit are the other controls that look at its key and hold a
value. -/
theorem mem_dependents_iff (form : Form) (name key other : String) :
    other ∈ form.dependents name key ↔
      other ≠ name ∧ form.Confirms other key ∧ (form.value? other).isSome := by
  unfold dependents
  rw [List.mem_map]
  constructor
  · rintro ⟨⟨other, path⟩, member, rfl⟩
    obtain ⟨declared, selected⟩ := List.mem_filter.mp member
    have found := form.fields.mem_entries_iff.mp declared
    simp only [ne_eq, decide_not, Bool.and_eq_true, Bool.not_eq_eq_eq_not, Bool.not_true,
      decide_eq_false_iff_not, beq_iff_eq, Option.any_eq_true] at selected
    obtain ⟨⟨⟨differ, sibling⟩, holds⟩, compiled, present, constrained⟩ := selected
    refine ⟨differ, ⟨path, compiled, found, present, constrained, sibling⟩, ?_⟩
    rw [value?, found, Option.bind_some]
    exact holds
  · rintro ⟨differ, ⟨path, compiled, found, present, constrained, sibling⟩, holds⟩
    rw [value?, found, Option.bind_some] at holds
    refine ⟨(other, path), List.mem_filter.mpr ⟨form.fields.mem_entries_iff.mpr found, ?_⟩, rfl⟩
    simp only [ne_eq, differ, not_false_eq_true, decide_true, Bool.true_and, sibling,
      beq_self_eq_true, present, Option.any_some, constrained, Bool.and_true]
    exact holds

/-- The form with another engine. -/
def withEngine (form : Form) (engine : Engine) : Form := { form with engine }

/-- The form with a value stored for the control at a path, and nothing evaluated yet. -/
def store (form : Form) (path : FieldPath) (value : Value) : Form :=
  { form with values := form.values.insert path.display value }

section SameFields

variable (form : Form) {engine : Engine} (same : form.engine.SameFields engine)
include same

/-- What is due depends on the fields of the engine, not on the verdicts it keeps. -/
theorem current?_withEngine (name : String) :
    (form.withEngine engine).current? name = form.current? name := by
  change (engine.compiled? name).bind _ = (form.engine.compiled? name).bind _
  rw [same.compiled?]
  rfl

/-- The dependents of a control do not depend on the engine. -/
theorem dependents_withEngine (name key : String) :
    (form.withEngine engine).dependents name key = form.dependents name key := by
  simp only [dependents, withEngine, same.registry, same.compiled?]

end SameFields

/-- Controls that the engine holds are evaluated without an error, each on the value it
holds; a control without a value keeps its verdicts. -/
theorem reevaluate_of_registered (form : Form) (names : List String)
    (registered : ∀ name ∈ names, ∃ compiled, form.engine.compiled? name = some compiled) :
    ∃ engine, form.reevaluate names = (form.withEngine engine, .ok ()) ∧
      form.engine.SameFields engine ∧
      ∀ other, engine.verdicts? other =
        if other ∈ names then (form.current? other).or (form.verdicts? other)
        else form.verdicts? other := by
  induction names generalizing form with
  | nil => exact ⟨form.engine, rfl, .refl _, fun _ => rfl⟩
  | cons name rest ih =>
      have others : ∀ other ∈ rest, ∃ compiled, form.engine.compiled? other = some compiled :=
        fun other member => registered other (List.mem_cons_of_mem name member)
      obtain ⟨compiled, found⟩ := registered name List.mem_cons_self
      cases held : form.value? name with
      | none =>
          obtain ⟨engine, done, same, verdicts⟩ := ih form others
          refine ⟨engine, ?_, same, fun other => ?_⟩
          · rw [reevaluate, held]
            exact done
          · rw [verdicts other]
            by_cases here : other = name
            · subst here
              have idle : form.current? other = none := by
                rw [current?, found, held, Option.bind_some, Option.map_none]
              simp only [idle, Option.none_or, ite_self]
            · simp only [List.mem_cons, here, false_or]
      | some value =>
          obtain ⟨after, changed, kept, stored⟩ :=
            form.engine.change_of_compiled found value form.context
          obtain ⟨engine, done, same, verdicts⟩ := ih (form.withEngine after)
            fun other member => (kept.compiled? other).symm ▸ others other member
          refine ⟨engine, ?_, kept.trans same, fun other => ?_⟩
          · rw [reevaluate, held]
            simp only [changed]
            exact done
          · have mine : (form.withEngine after).verdicts? other =
                if name = other then some (compiled.evaluate value form.context)
                else form.verdicts? other := stored other
            rw [verdicts other, form.current?_withEngine kept, mine]
            by_cases here : name = other
            · subst here
              have evaluated : form.current? name =
                  some (compiled.evaluate value form.context) := by
                rw [current?, found, held, Option.bind_some, Option.map_some]
              simp only [evaluated, Option.some_or, ↓reduceIte, ite_self, List.mem_cons_self]
            · simp only [here, ↓reduceIte, List.mem_cons, Ne.symm here, false_or]

/-- A commit to a name without a control is refused and leaves the form as it is. -/
theorem setValue_of_unregistered {name : String} (absent : form.fields.get? name = none)
    (value : Value) : form.setValue name value = (form, .error (.unknownField name)) := by
  rw [setValue, absent]

section Registered

variable {name : String} {path : FieldPath} (found : form.fields.get? name = some path)
include found

/-- A stored value is the value of its control. -/
theorem value?_store (value : Value) : (form.store path value).value? name = some value := by
  change (form.fields.get? name).bind _ = _
  rw [found, Option.bind_some]
  exact form.values.get?_insert_self path.display value

/-- A stored value is not seen through controls with another key. -/
theorem value?_store_of_not_sharesKey {other : String} (apart : ¬ form.SharesKey other name)
    (value : Value) : (form.store path value).value? other = form.value? other := by
  change (form.fields.get? other).bind _ = (form.fields.get? other).bind _
  cases present : form.fields.get? other with
  | none => rfl
  | some its =>
      rw [Option.bind_some, Option.bind_some]
      refine form.values.get?_insert_of_ne (fun same => ?_) value
      exact apart ⟨its, path, present, found, same⟩

/-- The phases of a commit that meets no error: the value is stored, the control is
evaluated, then its dependents are. -/
theorem setValue_of_phases {value : Value} {evaluated engine : Engine} {first verdicts : Verdicts}
    (changed : form.engine.change name value (form.store path value).context =
      (evaluated, .ok first))
    (done : ((form.store path value).withEngine evaluated).reevaluate
        (((form.store path value).withEngine evaluated).dependents name path.display) =
      ((form.store path value).withEngine engine, .ok ()))
    (answer : engine.verdicts? name = some verdicts) :
    form.setValue name value = ((form.store path value).withEngine engine, .ok verdicts) := by
  unfold store at changed
  unfold withEngine store at done
  simp only [setValue, found, changed, done, answer]
  rfl

/-- A commit to a control of a form that is in step succeeds. It stores the value,
evaluates the control and the dependents that hold a value, and changes nothing else. -/
theorem setValue_of_registered (inStep : form.InStep) (value : Value) :
    ∃ engine verdicts,
      form.setValue name value = ((form.store path value).withEngine engine, .ok verdicts) ∧
      form.engine.SameFields engine ∧
      engine.verdicts? name = some verdicts ∧
      ∀ other, engine.verdicts? other =
        if other = name ∨ other ∈ (form.store path value).dependents name path.display then
          (form.store path value).current? other
        else form.verdicts? other := by
  obtain ⟨compiled, present, _⟩ := inStep.compiled?_of_path found
  let committed := form.store path value
  obtain ⟨evaluated, changed, kept, stored⟩ :=
    form.engine.change_of_compiled present value committed.context
  have registered : ∀ other ∈ committed.dependents name path.display,
      ∃ field, form.engine.compiled? other = some field ∧ (committed.value? other).isSome := by
    intro other member
    obtain ⟨_, ⟨_, field, _, compiled, _⟩, holds⟩ :=
      (committed.mem_dependents_iff name path.display other).mp member
    exact ⟨field, compiled, holds⟩
  obtain ⟨engine, done, same, verdicts⟩ :=
    (committed.withEngine evaluated).reevaluate_of_registered
      (committed.dependents name path.display) fun other member => by
        obtain ⟨field, compiled, _⟩ := registered other member
        exact ⟨field, (kept.compiled? other).trans compiled⟩
  have own : committed.current? name = some (compiled.evaluate value committed.context) := by
    change (form.engine.compiled? name).bind _ = _
    rw [present, Option.bind_some, value?_store found, Option.map_some]
  -- The control itself is evaluated in the first phase, and its dependents, which all
  -- hold a value, in the second one.
  have final : ∀ other, engine.verdicts? other =
      if other = name ∨ other ∈ committed.dependents name path.display then
        committed.current? other
      else form.verdicts? other := by
    intro other
    have mine : (committed.withEngine evaluated).verdicts? other =
        if name = other then some (compiled.evaluate value committed.context)
        else form.verdicts? other := stored other
    rw [verdicts other, committed.current?_withEngine kept, mine]
    by_cases here : name = other
    · subst here
      simp only [own, Option.some_or, ↓reduceIte, ite_self, true_or]
    · by_cases member : other ∈ committed.dependents name path.display
      · obtain ⟨field, compiled, holds⟩ := registered other member
        obtain ⟨held, present⟩ := Option.isSome_iff_exists.mp holds
        have due : committed.current? other = some (field.evaluate held committed.context) := by
          change (form.engine.compiled? other).bind _ = _
          rw [compiled, Option.bind_some, present, Option.map_some]
        simp only [member, ↓reduceIte, due, Option.some_or, or_true]
      · simp only [member, here, Ne.symm here, ↓reduceIte, or_self]
  have answer : engine.verdicts? name = some (compiled.evaluate value committed.context) := by
    rw [final, if_pos (Or.inl rfl), own]
  refine ⟨engine, _, setValue_of_phases found changed ?_ answer, kept.trans same, answer, final⟩
  rw [committed.dependents_withEngine kept]
  exact done

end Registered

/-- A commit changes the value of every control with the same key. -/
theorem value?_setValue_of_sharesKey (inStep : form.InStep) {name other : String}
    (shared : form.SharesKey name other) (value : Value) :
    (form.setValue name value).1.value? other = some value := by
  obtain ⟨path, its, found, present, same⟩ := shared
  obtain ⟨engine, _, committed, _⟩ := setValue_of_registered found inStep value
  rw [committed]
  change (form.fields.get? other).bind _ = _
  rw [present, Option.bind_some, same]
  exact form.values.get?_insert_self path.display value

/-- A commit changes the value of no control with another key. -/
theorem value?_setValue_of_not_sharesKey (inStep : form.InStep) {name other : String}
    (apart : ¬ form.SharesKey other name) (value : Value) :
    (form.setValue name value).1.value? other = form.value? other := by
  cases found : form.fields.get? name with
  | none => rw [setValue_of_unregistered found]
  | some path =>
      obtain ⟨engine, _, committed, _⟩ := setValue_of_registered found inStep value
      rw [committed]
      exact value?_store_of_not_sharesKey found apart value

end Form

end FormValidity
