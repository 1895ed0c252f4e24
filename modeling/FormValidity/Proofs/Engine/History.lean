import FormValidity.Proofs.Engine.Operations
import Mathlib.Data.List.Induction

/-! # The engine keeps what its history says

The state of an engine can be read off the actions that led to it, without running them
(`Engine.Reflects`): each name has the field of its latest registration, and the verdicts of
that field on the last change since then, if there has been one. No update is lost, no verdict
outlives a registration, and no name changes its place (`Engine.run_reflects_history`).
-/

namespace FormValidity

namespace Engine

/-- What a host asks of an engine. -/
inductive Action where
  | register (name : String) (path : FieldPath) (schema : Schema)
  | insert (name : String) (compiled : CompiledField)
  | change (name : String) (value : Value) (context : Context)

namespace Action

def registered? : Action → Option String
  | .register name _ _ => some name
  | .insert name _ => some name
  | .change _ _ _ => none

/-- The field that an action registers under a name. -/
def fieldOf? (registry : Registry) (name : String) : Action → Option CompiledField
  | .register other path schema =>
      if other = name then some (.compile registry path schema) else none
  | .insert other compiled => if other = name then some compiled else none
  | .change _ _ _ => none

/-- The value and the context with which an action changes a name. -/
def changeOf? (name : String) : Action → Option (Value × Context)
  | .change other value context => if other = name then some (value, context) else none
  | _ => none

end Action

def act (engine : Engine) : Action → Engine
  | .register name path schema => engine.register name path schema
  | .insert name compiled => engine.insert name compiled
  | .change name value context => (engine.change name value context).1

def run (engine : Engine) (history : List Action) : Engine := history.foldl act engine

/-- The field of a name's latest registration. -/
def latestField? (registry : Registry) (name : String) (history : List Action) :
    Option CompiledField :=
  history.reverse.findSome? (Action.fieldOf? registry name)

/-- The last change of a name since its latest registration. -/
def lastChange? (name : String) (history : List Action) : Option (Value × Context) :=
  (history.reverse.takeWhile fun action => action.registered? ≠ some name).findSome?
    (Action.changeOf? name)

/-- The verdicts that a history leaves under a name: those of the latest field on the last
change since its registration. -/
def lastVerdicts? (registry : Registry) (name : String) (history : List Action) :
    Option Verdicts :=
  (latestField? registry name history).bind fun compiled =>
    (lastChange? name history).map fun change => compiled.evaluate change.1 change.2

/-- An engine is in the state that a history tells. -/
structure Reflects (registry : Registry) (history : List Action) (engine : Engine) : Prop where
  sameRegistry : engine.registry = registry
  names : engine.names = (history.filterMap Action.registered?).eraseDups
  compiled? : ∀ name, engine.compiled? name = latestField? registry name history
  verdicts? : ∀ name, engine.verdicts? name = lastVerdicts? registry name history

section Concat

variable (registry : Registry) (name : String) (history : List Action) (action : Action)

private theorem latestField?_concat :
    latestField? registry name (history ++ [action]) =
      (action.fieldOf? registry name).or (latestField? registry name history) := by
  rw [latestField?, List.reverse_append, List.findSome?_append, List.reverse_singleton,
    List.findSome?_singleton]
  rfl

private theorem lastChange?_concat :
    lastChange? name (history ++ [action]) =
      if action.registered? = some name then none
      else (action.changeOf? name).or (lastChange? name history) := by
  rw [lastChange?, List.reverse_append, List.reverse_singleton, List.singleton_append,
    List.takeWhile_cons]
  by_cases registers : action.registered? = some name
  · simp only [registers, ne_eq, not_true_eq_false, decide_false, Bool.false_eq_true, ↓reduceIte,
      List.findSome?_nil]
  · simp only [registers, ne_eq, not_false_eq_true, decide_true, ↓reduceIte]
    rw [← List.singleton_append, List.findSome?_append, List.findSome?_singleton]
    rfl

private theorem latestField?_concat_change (other : String) (value : Value) (context : Context) :
    latestField? registry name (history ++ [.change other value context]) =
      latestField? registry name history :=
  latestField?_concat registry name history _

/-- A change at the end of a history counts for its own name, if that has a field. -/
theorem lastVerdicts?_concat_change (other : String) (value : Value) (context : Context) :
    lastVerdicts? registry name (history ++ [.change other value context]) =
      if other = name then
        (latestField? registry other history).map fun compiled => compiled.evaluate value context
      else lastVerdicts? registry name history := by
  rw [lastVerdicts?, latestField?_concat_change, lastChange?_concat]
  by_cases same : other = name
  · subst same
    simp only [Action.registered?, reduceCtorEq, ↓reduceIte, Action.changeOf?, Option.some_or,
      Option.map_eq_bind]
    rfl
  · simp only [Action.registered?, reduceCtorEq, ↓reduceIte, Action.changeOf?, same,
      Option.none_or]
    rfl

end Concat

namespace Reflects

variable {registry : Registry} {history : List Action} {engine : Engine}

/-- A new engine reflects the empty history. -/
theorem new (registry : Registry) : Reflects registry [] (.new registry) :=
  ⟨rfl, rfl, fun _ => rfl, fun _ => rfl⟩

variable (reflects : Reflects registry history engine)
include reflects

/-- A registration, of whichever form, gives its name the new field and no verdicts. -/
theorem insert {action : Action} {name : String} {compiled : CompiledField}
    (registers : action.registered? = some name)
    (field : ∀ other, action.fieldOf? registry other = if name = other then some compiled else none)
    (silent : ∀ other, action.changeOf? other = none) :
    Reflects registry (history ++ [action]) (engine.insert name compiled) where
  sameRegistry := reflects.sameRegistry
  names := by
    rw [List.filterMap_append, List.filterMap_cons_some registers, List.filterMap_nil,
      eraseDups_concat, names_insert]
    simp only [reflects.names, List.mem_eraseDups]
  compiled? := by
    intro other
    rw [compiled?_insert, latestField?_concat, field, reflects.compiled?]
    split <;> rfl
  verdicts? := by
    intro other
    rw [verdicts?_insert, lastVerdicts?, latestField?_concat, lastChange?_concat, field,
      registers, silent]
    by_cases same : name = other
    · subst same
      simp only [↓reduceIte, Option.map_none, Option.bind_fun_none]
    · simp only [same, ↓reduceIte, Option.some.injEq, Option.none_or]
      exact reflects.verdicts? other

/-- A change is reflected when it is made. -/
theorem change (name : String) (value : Value) (context : Context) :
    Reflects registry (history ++ [.change name value context])
      (engine.change name value context).1 := by
  have kept := engine.sameFields_change name value context
  refine ⟨kept.registry.trans reflects.sameRegistry, ?_, fun other => ?_, fun other => ?_⟩
  · rw [List.filterMap_append, kept.names, reflects.names]
    exact congrArg List.eraseDups (List.append_nil _).symm
  · rw [latestField?_concat_change, kept.compiled?, reflects.compiled?]
  · rw [lastVerdicts?_concat_change, engine.verdicts?_change, reflects.compiled?,
      reflects.verdicts?]

/-- An action is reflected when it is done. -/
theorem act (action : Action) : Reflects registry (history ++ [action]) (engine.act action) := by
  cases action with
  | register name path schema =>
      change Reflects registry _ (engine.insert name (.compile engine.registry path schema))
      rw [reflects.sameRegistry]
      exact reflects.insert rfl (fun _ => rfl) fun _ => rfl
  | insert name compiled => exact reflects.insert rfl (fun _ => rfl) fun _ => rfl
  | change name value context => exact reflects.change name value context

end Reflects

/-- The induction is on the history from its end, as what the history tells is. -/
theorem reflects_run (registry : Registry) (history : List Action) :
    Reflects registry history ((new registry).run history) := by
  induction history using List.reverseRecOn with
  | nil => exact .new registry
  | append_singleton earlier action ih =>
      rw [run, List.foldl_append]
      exact ih.act action

/-- **The engine keeps what its history says.** After any sequence of registrations and changes
on any registry, a name has verdicts exactly if it was registered and changed after that, and
they are those of its latest field on the value and in the context of the last change. The
names stand in the order of their first registration, each of them once. A change of a name
that was never registered is refused and leaves the engine as it was. -/
theorem run_reflects_history (registry : Registry) (history : List Action) :
    let engine := (new registry).run history
    (∀ name, engine.verdicts? name =
      (latestField? registry name history).bind fun compiled =>
        (lastChange? name history).map fun change => compiled.evaluate change.1 change.2) ∧
    engine.names = (history.filterMap Action.registered?).eraseDups ∧
    ∀ name value context, name ∉ history.filterMap Action.registered? →
      engine.change name value context = (engine, .error (.fieldNotRegistered name)) := by
  intro engine
  have reflects : Reflects registry history engine := reflects_run registry history
  refine ⟨reflects.verdicts?, reflects.names, fun name value context unregistered => ?_⟩
  have absent : name ∉ engine.names := by
    rw [reflects.names, List.mem_eraseDups]
    exact unregistered
  refine engine.change_of_unregistered ?_ value context
  rw [compiled?, Option.map_eq_none_iff]
  exact (engine.fields.get?_eq_none_iff name).mpr absent

end Engine

end FormValidity
