import FormValidity.Field.Compiled
import FormValidity.Proofs.OrderedMap
import Mathlib.Data.List.Basic

/-! # Evaluation of compiled fields

An evaluation records the outcomes of the descriptors under their kinds
(`CompiledField.entries_evaluate`). When no kind has two descriptors, it lists the descriptors in
order, each kind with the outcome of its own test (`CompiledField.toList_evaluate`). An evaluation
depends on the form only as far as the tests do (`CompiledField.evaluate_congr`).
-/

namespace FormValidity

namespace Descriptor

/-- Whether the test of a descriptor ends in a positive verdict. -/
def holds (descriptor : Descriptor) (value : Value) (site : Site) : Bool :=
  (descriptor.test value site).accepts

end Descriptor

namespace Verdicts

/-- The verdict of a kind is the one that is listed. -/
theorem get?_eq_some_iff (verdicts : Verdicts) {kind : String} {holds : Bool} :
    verdicts.get? kind = some holds ↔ (kind, holds) ∈ verdicts.toList :=
  verdicts.entries.mem_entries_iff.symm

/-- A kind has no verdict exactly if it is not listed. -/
theorem get?_eq_none_iff (verdicts : Verdicts) (kind : String) :
    verdicts.get? kind = none ↔ kind ∉ verdicts.toList.map Prod.fst :=
  verdicts.entries.get?_eq_none_iff kind

/-- Verdicts are valid exactly if all of them are true. -/
theorem isValid_iff (verdicts : Verdicts) :
    verdicts.isValid ↔ ∀ kind holds, verdicts.get? kind = some holds → holds := by
  unfold isValid
  simp only [List.all_eq_true, Prod.forall, get?_eq_some_iff]

end Verdicts

namespace CompiledField

variable {field : CompiledField}

/-- An evaluation records the verdict of each descriptor in turn. -/
theorem entries_evaluate (field : CompiledField) (value : Value) (context : Context) :
    (field.evaluate value context).entries = .ofList (field.descriptors.map fun descriptor =>
      (descriptor.kind, descriptor.holds value ⟨field.path, context⟩)) := by
  rw [OrderedMap.ofList, List.foldl_map]
  exact (List.foldl_hom Verdicts.entries fun _ _ => rfl).symm

/-- If no kind has two descriptors, an evaluation gives one verdict for each of them, in
their order, and each verdict is the outcome of that descriptor's own test. -/
theorem toList_evaluate (distinct : field.constraintNames.Nodup) (value : Value)
    (context : Context) :
    (field.evaluate value context).toList = field.descriptors.map fun descriptor =>
      (descriptor.kind, descriptor.holds value ⟨field.path, context⟩) := by
  rw [Verdicts.toList, entries_evaluate]
  refine OrderedMap.entries_ofList ?_
  rw [Assoc.keys, List.map_map]
  exact distinct

/-- Distinct constraints are recorded in their order. -/
theorem map_fst_toList_evaluate (distinct : field.constraintNames.Nodup) (value : Value)
    (context : Context) :
    (field.evaluate value context).toList.map Prod.fst = field.constraintNames := by
  rw [toList_evaluate distinct, List.map_map]
  rfl

/-- Of distinct constraints each one has its own verdict. -/
theorem get?_evaluate_of_mem (distinct : field.constraintNames.Nodup) {descriptor : Descriptor}
    (member : descriptor ∈ field.descriptors) (value : Value) (context : Context) :
    (field.evaluate value context).get? descriptor.kind =
      some (descriptor.holds value ⟨field.path, context⟩) := by
  rw [Verdicts.get?_eq_some_iff, toList_evaluate distinct]
  exact List.mem_map.mpr ⟨descriptor, member, rfl⟩

/-- Every recorded verdict is that of a descriptor. -/
theorem exists_mem_of_get?_evaluate (distinct : field.constraintNames.Nodup) {value : Value}
    {context : Context} {kind : String} {verdict : Bool}
    (recorded : (field.evaluate value context).get? kind = some verdict) :
    ∃ descriptor ∈ field.descriptors,
      descriptor.kind = kind ∧ descriptor.holds value ⟨field.path, context⟩ = verdict := by
  rw [Verdicts.get?_eq_some_iff, toList_evaluate distinct] at recorded
  obtain ⟨descriptor, member, same⟩ := List.mem_map.mp recorded
  exact ⟨descriptor, member, congrArg Prod.fst same, congrArg Prod.snd same⟩

/-- Two contexts in which every test ends alike give the same verdicts. -/
theorem evaluate_congr {value : Value} {first second : Context}
    (alike : ∀ descriptor ∈ field.descriptors,
      descriptor.test value ⟨field.path, first⟩ = descriptor.test value ⟨field.path, second⟩) :
    field.evaluate value first = field.evaluate value second := by
  apply List.foldl_ext
  intro verdicts descriptor member
  rw [alike descriptor member]

/-- A field has the constraints of its descriptors. -/
theorem hasConstraint_of_mem {descriptor : Descriptor} (member : descriptor ∈ field.descriptors) :
    field.hasConstraint descriptor.kind :=
  List.any_eq_true.mpr ⟨descriptor, member, beq_self_eq_true _⟩

end CompiledField

end FormValidity
