import FormValidity.Engine
import FormValidity.Proofs.OrderedMap

/-! # What the operations of the engine change

Inserting a field touches its own name only and forgets the verdicts there
(`Engine.compiled?_insert`, `Engine.verdicts?_insert`). A change of a registered name
stores the verdicts of that name and leaves all fields as they are
(`Engine.change_of_compiled`); a change of any other name is refused and changes nothing
(`Engine.change_of_unregistered`).
-/

namespace FormValidity

namespace Engine

/-- Two engines observe the same fields under the same names in the same order. They may
differ in the verdicts they keep. -/
structure SameFields (before after : Engine) : Prop where
  registry : after.registry = before.registry
  names : after.names = before.names
  compiled? : ∀ name, after.compiled? name = before.compiled? name

namespace SameFields

variable {first second third : Engine}

/-- An engine has the same fields as itself. -/
theorem refl (engine : Engine) : SameFields engine engine := ⟨rfl, rfl, fun _ => rfl⟩

/-- Having the same fields is transitive. -/
theorem trans (left : SameFields first second) (right : SameFields second third) :
    SameFields first third where
  registry := right.registry.trans left.registry
  names := right.names.trans left.names
  compiled? := fun name => (right.compiled? name).trans (left.compiled? name)

end SameFields

variable (engine : Engine)

/-- A name without a field has no verdicts. -/
theorem verdicts?_eq_none_of_unregistered {name : String}
    (absent : engine.compiled? name = none) : engine.verdicts? name = none := by
  rw [verdicts?, Option.map_eq_none_iff.mp absent, Option.bind_none]

/-- A registration keeps the names in the order of their first registrations. -/
theorem names_insert (name : String) (compiled : CompiledField) :
    (engine.insert name compiled).names =
      if name ∈ engine.names then engine.names else engine.names ++ [name] :=
  engine.fields.keys_insert name _

/-- A registration replaces the field of one name. -/
theorem compiled?_insert (name other : String) (compiled : CompiledField) :
    (engine.insert name compiled).compiled? other =
      if name = other then some compiled else engine.compiled? other := by
  rw [compiled?, insert, OrderedMap.get?_insert]
  split <;> rfl

/-- Inserting a field forgets the verdicts under its name. -/
theorem verdicts?_insert (name other : String) (compiled : CompiledField) :
    (engine.insert name compiled).verdicts? other =
      if name = other then none else engine.verdicts? other := by
  rw [verdicts?, insert, OrderedMap.get?_insert]
  split <;> rfl

/-- A change of a name without a field is refused and leaves the engine as it is. -/
theorem change_of_unregistered {name : String} (absent : engine.compiled? name = none)
    (value : Value) (context : Context) :
    engine.change name value context = (engine, .error (.fieldNotRegistered name)) := by
  rw [change, Option.map_eq_none_iff.mp absent]

/-- A change of a registered name stores the verdicts of its field there, and nothing
else changes. -/
theorem change_of_compiled {name : String} {compiled : CompiledField}
    (found : engine.compiled? name = some compiled) (value : Value) (context : Context) :
    ∃ after, engine.change name value context = (after, .ok (compiled.evaluate value context)) ∧
      engine.SameFields after ∧
      ∀ other, after.verdicts? other =
        if name = other then some (compiled.evaluate value context)
        else engine.verdicts? other := by
  obtain ⟨tracked, present, rfl⟩ := Option.map_eq_some_iff.mp found
  let stored : TrackedField :=
    ⟨tracked.compiled, some (tracked.compiled.evaluate value context)⟩
  refine ⟨⟨engine.registry, engine.fields.insert name stored⟩, ?_, ⟨rfl, ?_, ?_⟩, ?_⟩
  · rw [change, present]
  · have registered : name ∈ engine.fields.keys := by
      rw [← OrderedMap.contains_iff, OrderedMap.contains, present]
      rfl
    exact (engine.fields.keys_insert name _).trans (if_pos registered)
  · intro other
    simp only [compiled?, OrderedMap.get?_insert]
    by_cases same : name = other
    · subst same
      simp only [↓reduceIte, present, Option.map_some, stored]
    · simp only [same, ↓reduceIte]
  · intro other
    simp only [verdicts?, OrderedMap.get?_insert]
    split <;> rfl

/-- Accepted or refused, a change touches no field. -/
theorem sameFields_change (name : String) (value : Value) (context : Context) :
    engine.SameFields (engine.change name value context).1 := by
  cases found : engine.compiled? name with
  | none =>
      rw [engine.change_of_unregistered found]
      exact .refl engine
  | some compiled =>
      obtain ⟨after, changed, kept, _⟩ := engine.change_of_compiled found value context
      rw [changed]
      exact kept

/-- A change gives its name new verdicts if there is a field to evaluate. -/
theorem verdicts?_change (name other : String) (value : Value) (context : Context) :
    (engine.change name value context).1.verdicts? other =
      if name = other then
        (engine.compiled? name).map fun compiled => compiled.evaluate value context
      else engine.verdicts? other := by
  cases found : engine.compiled? name with
  | none =>
      rw [engine.change_of_unregistered found, Option.map_none]
      split
      · next same => exact same ▸ engine.verdicts?_eq_none_of_unregistered found
      · rfl
  | some compiled =>
      obtain ⟨after, changed, _, stored⟩ := engine.change_of_compiled found value context
      rw [changed, Option.map_some]
      exact stored other

end Engine

end FormValidity
