import FormValidity.Proofs.Schema.Compilation

/-! # What the verdicts of a field say

An evaluation records the outcome of every descriptor under its kind, one after the other
(`CompiledField.entries_evaluate`). So kinds stand in the order of their first descriptor, and where
several descriptors share a kind only the last of them counts: a failure of an earlier one is
masked. This can happen to a field that a host puts together by itself. A compiled schema has one
descriptor of a kind at most, and there a field is valid exactly if every test ends in a positive
verdict (`CompiledField.evaluate_tells`).
-/

namespace FormValidity

namespace Outcome

/-- An outcome accepts exactly if it is the verdict true. -/
theorem accepts_iff {outcome : Outcome} : outcome.accepts ↔ outcome = .verdict true := by
  cases outcome with
  | verdict holds => simp only [accepts, verdict.injEq]
  | failed cause => simp only [accepts, Bool.false_eq_true, reduceCtorEq]
  | crashed => simp only [accepts, Bool.false_eq_true, reduceCtorEq]

/-- Whether an outcome accepts is decided by a comparison with the verdict true. -/
theorem accepts_eq (outcome : Outcome) : outcome.accepts = decide (outcome = .verdict true) := by
  rw [Bool.eq_iff_iff, accepts_iff, decide_eq_true_iff]

end Outcome

namespace Verdicts

private theorem failing_eq_filter (verdicts : Verdicts) :
    verdicts.failing =
      (verdicts.toList.map Prod.fst).filter fun kind => verdicts.get? kind = some false := by
  rw [List.filter_map, failing]
  congr 1
  refine List.filter_congr fun entry member => ?_
  have found : verdicts.get? entry.1 = some entry.2 := verdicts.get?_eq_some_iff.mpr member
  simp only [Function.comp_apply, found, Option.some.injEq]
  cases entry.2 <;> rfl

end Verdicts

namespace CompiledField

/-- The descriptors of a kind, in order. -/
def descriptorsOf (field : CompiledField) (kind : String) : List Descriptor :=
  field.descriptors.filter (·.kind = kind)

/-- The last descriptor of a kind. -/
def lastOf? (field : CompiledField) (kind : String) : Option Descriptor :=
  (field.descriptorsOf kind).getLast?

/-- What the verdicts on a field tell, whatever its descriptors are. -/
structure Summary (field : CompiledField) (value : Value) (context : Context)
    (verdicts : Verdicts) : Prop where
  kinds : verdicts.toList.map Prod.fst = field.constraintNames.eraseDups
  verdict : ∀ kind, verdicts.get? kind = (field.lastOf? kind).map fun descriptor =>
    decide (descriptor.test value ⟨field.path, context⟩ = .verdict true)
  valid : verdicts.isValid ↔ verdicts.failing = []
  failing : verdicts.failing = field.constraintNames.eraseDups.filter fun kind =>
    verdicts.get? kind = some false

/-- An evaluation records each kind once, in the order of first occurrences. -/
theorem kinds_evaluate (field : CompiledField) (value : Value) (context : Context) :
    (field.evaluate value context).toList.map Prod.fst = field.constraintNames.eraseDups := by
  have keys := congrArg OrderedMap.keys (field.entries_evaluate value context)
  rw [OrderedMap.keys_ofList, Assoc.keys, List.map_map] at keys
  exact keys

/-- The last descriptor of a kind decides its verdict. -/
theorem get?_evaluate (field : CompiledField) (value : Value) (context : Context) (kind : String) :
    (field.evaluate value context).get? kind = (field.lastOf? kind).map fun descriptor =>
      decide (descriptor.test value ⟨field.path, context⟩ = .verdict true) := by
  rw [Verdicts.get?, entries_evaluate, OrderedMap.get?_ofList, List.filter_map, List.getLast?_map,
    Option.map_map]
  refine congrArg (Option.map · _) (funext fun descriptor => ?_)
  exact Outcome.accepts_eq _

/-- An evaluation sums up its descriptors. -/
theorem summary_evaluate (field : CompiledField) (value : Value) (context : Context) :
    field.Summary value context (field.evaluate value context) where
  kinds := field.kinds_evaluate value context
  verdict := field.get?_evaluate value context
  valid := Verdicts.isValid_iff_failing_eq_nil _
  failing := by rw [Verdicts.failing_eq_filter, kinds_evaluate]

/-- What the verdicts on a compiled schema tell beyond that: no descriptor masks another one. -/
structure Unmasked (schema : Schema) (field : CompiledField) (value : Value) (context : Context)
    (verdicts : Verdicts) : Prop where
  distinct : field.constraintNames.Nodup
  declared : field.constraintNames.Sublist schema.kinds
  kinds : verdicts.toList.map Prod.fst = field.constraintNames
  verdict : ∀ descriptor ∈ field.descriptors, verdicts.get? descriptor.kind =
    some (decide (descriptor.test value ⟨field.path, context⟩ = .verdict true))
  valid : verdicts.isValid ↔ ∀ descriptor ∈ field.descriptors,
    descriptor.test value ⟨field.path, context⟩ = .verdict true

/-- Distinct constraints are valid together exactly if each one returns true. -/
theorem isValid_evaluate_iff {field : CompiledField} (distinct : field.constraintNames.Nodup)
    (value : Value) (context : Context) :
    (field.evaluate value context).isValid ↔ ∀ descriptor ∈ field.descriptors,
      descriptor.test value ⟨field.path, context⟩ = .verdict true := by
  rw [Verdicts.isValid, toList_evaluate distinct, List.all_map, List.all_eq_true]
  exact forall₂_congr fun _ _ => Outcome.accepts_iff

/-- A compiled schema declares each kind once, so that no descriptor is masked. -/
theorem unmasked_evaluate_compile (registry : Registry) (path : FieldPath) (schema : Schema)
    (value : Value) (context : Context) :
    Unmasked schema (compile registry path schema) value context
      ((compile registry path schema).evaluate value context) := by
  have distinct := nodup_constraintNames_compile registry path schema
  refine
    { distinct
      declared := Descriptor.map_kind_ofSchema_sublist registry schema
      kinds := map_fst_toList_evaluate distinct value context
      verdict := fun descriptor member => ?_
      valid := isValid_evaluate_iff distinct value context }
  rw [get?_evaluate_of_mem distinct member, ← Outcome.accepts_eq]
  rfl

/-- **What the verdicts of a field say.** Whatever the descriptors of a field are, its verdicts
stand under their kinds in the order of first occurrence, each is that of the last descriptor of
its kind, and the field is valid exactly if no kind fails. If a schema was compiled to the field,
every descriptor has its own verdict, and the field is valid exactly if all tests hold. -/
theorem evaluate_tells (value : Value) (context : Context) :
    (∀ field : CompiledField, field.Summary value context (field.evaluate value context)) ∧
      ∀ registry path schema, Unmasked schema (compile registry path schema) value context
        ((compile registry path schema).evaluate value context) :=
  ⟨fun field => field.summary_evaluate value context,
    fun registry path schema => unmasked_evaluate_compile registry path schema value context⟩

/-- A field put together by a host can mask a failure. -/
example (path : FieldPath) (context : Context) :
    let refuses : Descriptor := ⟨"brief", "brief.min", fun _ _ => .verdict false, none⟩
    let accepts : Descriptor := ⟨"brief", "brief.max", fun _ _ => .verdict true, none⟩
    (evaluate ⟨path, [refuses, accepts]⟩ .null context).isValid = true := rfl

end CompiledField

end FormValidity
