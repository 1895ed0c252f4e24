import FormValidity.Proofs.Form.Assignment
import FormValidity.Proofs.Form.History

/-! # Controls without a model path

A control whose binding names no model path has its own name for a key. So two such controls never
hold their values under one key, and no commit through the one shows at the other
(`Setup.run_commits_of_no_path`). A binding with an empty model path gets its name as if it named no
path, but its key is empty, whatever its name. So controls of different names with empty paths share
one value (`Setup.run_sharesKey_iff_of_pathless`, `Form.shared_emptyPathRun`).
-/

namespace FormValidity

namespace Binding

/-- The binding names no model path, or an empty one. The name of its control is the one it asks
for, or else the configured one. -/
def Pathless (binding : Binding) : Prop :=
  binding.modelPath = none ∨ binding.modelPath = some ""

private theorem display_path_of_none {binding : Binding} (bare : binding.modelPath = none)
    (config : FormConfig) : (binding.path config).display = binding.controlName config := by
  rw [path, bare]
  rfl

private theorem display_path_of_empty {binding : Binding} (empty : binding.modelPath = some "")
    (config : FormConfig) : (binding.path config).display = "" := by
  rw [path, empty]
  rfl

/-- An empty model path counts as none for the name of the control. -/
theorem controlName_of_empty (name : Option String) (config : FormConfig) :
    (Binding.mk (some "") name).controlName config = (Binding.mk none name).controlName config := by
  cases name with
  | none => rfl
  | some asked =>
      by_cases blank : asked = ""
      · subst blank
        rfl
      · simp only [controlName, List.filterMap_cons, id_eq, List.filterMap_nil, List.find?_cons,
          ne_eq, blank, not_false_eq_true, decide_true, Option.getD_some]

end Binding

namespace Form

variable {form : Form} {name other : String}

private theorem value?_commits_of_not_sharesKey (inStep : form.InStep)
    (apart : ¬ form.SharesKey other name) (values : List Value) :
    (form.commitAll (values.map fun value => (name, value))).value? other = form.value? other := by
  induction values generalizing form with
  | nil => rfl
  | cons value rest ih =>
      have kept := sameControls_setValue inStep name value
      have still : ¬ (form.setValue name value).1.SharesKey other name := by
        unfold SharesKey
        rw [kept.fields]
        exact apart
      have later := ih (inStep.step (.setValue name value)) still
      exact later.trans (value?_setValue_of_not_sharesKey inStep apart value)

end Form

namespace Setup

variable (setup : Setup) {history : List Operation} {name other : String} {first second : Control}

private theorem name_of_latestControl? (latest : setup.latestControl? name history = some first) :
    setup.name first = name := by
  have found := List.find?_some latest
  exact of_decide_eq_true found

/-- Two controls share a key exactly if their latest paths are shown alike. -/
theorem run_sharesKey_iff (latest : setup.latestControl? name history = some first)
    (present : setup.latestControl? other history = some second) :
    (setup.form.run history).SharesKey name other ↔
      (setup.path second).display = (setup.path first).display := by
  simp only [Form.SharesKey, setup.path?_run, latest, present, Option.map_some,
    Option.some.injEq, exists_eq_left', ↓existsAndEq, true_and]

/-- A control without a path is shown by its name, and one with an empty path by the
empty text. -/
theorem display_path_of_pathless (latest : setup.latestControl? name history = some first)
    (pathless : first.binding.Pathless) :
    (setup.path first).display = if first.binding.modelPath = none then name else "" := by
  rcases pathless with bare | empty
  · rw [if_pos bare, ← setup.name_of_latestControl? latest]
    exact Binding.display_path_of_none bare setup.config
  · rw [if_neg (by rw [empty]; exact Option.some_ne_none _)]
    exact Binding.display_path_of_empty empty setup.config

/-- Two controls without model paths share a key exactly if the keys of both are empty: those of
empty paths are, and those of bindings without a path if the control itself has the empty name. -/
theorem run_sharesKey_iff_of_pathless (latest : setup.latestControl? name history = some first)
    (present : setup.latestControl? other history = some second) (differ : name ≠ other)
    (pathless : first.binding.Pathless) (alsoPathless : second.binding.Pathless) :
    (setup.form.run history).SharesKey name other ↔
      (first.binding.modelPath = some "" ∨ name = "") ∧
        (second.binding.modelPath = some "" ∨ other = "") := by
  rw [setup.run_sharesKey_iff latest present, setup.display_path_of_pathless latest pathless,
    setup.display_path_of_pathless present alsoPathless]
  rcases pathless with bare | empty <;> rcases alsoPathless with alsoBare | alsoEmpty
  · simp only [bare, alsoBare, ↓reduceIte, reduceCtorEq, false_or]
    refine iff_of_false (Ne.symm differ) ?_
    rintro ⟨rfl, rfl⟩
    exact differ rfl
  · simp only [bare, alsoEmpty, ↓reduceIte, reduceCtorEq, false_or, true_or, and_true]
    exact eq_comm
  · simp only [empty, alsoBare, ↓reduceIte, reduceCtorEq, true_or, true_and, false_or]
  · simp only [empty, alsoEmpty, reduceCtorEq, ↓reduceIte, true_or, and_true]

/-- **Controls without a model path keep their values apart.** In every state that a run reaches,
commits through one of two controls of different names whose bindings name no model path leave the
value of the other one as it was. -/
theorem run_commits_of_no_path (latest : setup.latestControl? name history = some first)
    (present : setup.latestControl? other history = some second) (differ : name ≠ other)
    (bare : first.binding.modelPath = none) (alsoBare : second.binding.modelPath = none)
    (values : List Value) :
    ((setup.form.run history).commitAll (values.map fun value => (name, value))).value? other =
      (setup.form.run history).value? other := by
  have apart : ¬ (setup.form.run history).SharesKey other name := by
    intro shared
    rw [setup.run_sharesKey_iff_of_pathless present latest (Ne.symm differ) (Or.inl alsoBare)
      (Or.inl bare)] at shared
    simp only [bare, alsoBare, reduceCtorEq, false_or] at shared
    exact differ (shared.2.trans shared.1.symm)
  exact Form.value?_commits_of_not_sharesKey (setup.inStep_run history) apart values

/-- A commit through a control with an empty model path changes the values of all such controls. -/
theorem run_setValue_of_empty_path (latest : setup.latestControl? name history = some first)
    (present : setup.latestControl? other history = some second)
    (empty : first.binding.modelPath = some "") (alsoEmpty : second.binding.modelPath = some "")
    (value : Value) :
    ((setup.form.run history).setValue name value).1.value? other = some value := by
  have shared : (setup.form.run history).SharesKey name other := by
    rw [setup.run_sharesKey_iff latest present]
    exact (Binding.display_path_of_empty alsoEmpty setup.config).trans
      (Binding.display_path_of_empty empty setup.config).symm
  exact Form.value?_setValue_of_sharesKey (setup.inStep_run history) shared value

end Setup

namespace Form

/-- Two controls of different names with empty model paths. -/
def emptyPathRun : List Operation :=
  [.addField { modelPath := some "", name := some "first" },
    .addField { modelPath := some "", name := some "second" },
    .setValue "first" (.str "Porky")]

/-- The value committed through the first control is the value of the second one, which was never
committed or evaluated. -/
theorem shared_emptyPathRun :
    let form := (new (.new "user")).run emptyPathRun
    form.fieldNames = ["first", "second"] ∧ form.value? "second" = some (.str "Porky") ∧
      form.isValid? "second" = none :=
  ⟨rfl, rfl, rfl⟩

end Form

end FormValidity
