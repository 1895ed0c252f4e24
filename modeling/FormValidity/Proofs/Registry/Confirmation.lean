import FormValidity.Proofs.Form.Freshness
import FormValidity.Proofs.Registry.Registration
import Mathlib.Data.List.Induction

/-! # The suffix a form tracks and the suffix a predicate reads

A registry keeps the confirmation suffix twice: for the form, which looks for dependents with it,
and inside the predicate `confirmation`. Making a registry anew and changing its suffix write both
(`Registry.agrees_withConfirmationSuffix`), but registering `confirmation` with a suffix of its own
writes the predicate only. So the two agree exactly if the last registration of `confirmation`, as
far as nothing has settled the suffix since, was made with the suffix in force
(`Registry.agrees_assembleAll_iff`). Where they differ, a form keeps a verdict of `confirmation`
although the sibling that the predicate reads has changed (`Form.stale_reboundRun`).
-/

namespace FormValidity

/-- A step by which a host makes a registry. -/
inductive Assembly where
  | empty
  | builtin
  | default
  | withConfirmationSuffix (suffix : String)
  | register (registration : Registration)

namespace Assembly

/-- The registration of a predicate as `confirmation`. -/
abbrev confirming (predicate : Predicate) : Assembly :=
  .register (.builtin "confirmation" none predicate)

/-- What the step registers as `confirmation`, if anything, compares with a sibling. -/
def Confirms (step : Assembly) : Prop :=
  ∀ predicate, step = confirming predicate → ∃ suffix, predicate = .confirmation suffix

/-- The step leaves both the suffix and the predicate `confirmation` alone. -/
def Unrelated (step : Assembly) : Prop :=
  ∃ registration, step = .register registration ∧ ∀ predicate, step ≠ confirming predicate

private theorem confirming_or_unrelated (registration : Registration) :
    (∃ predicate, register registration = confirming predicate) ∨
      (register registration).Unrelated := by
  by_cases asked : ∃ predicate, register registration = confirming predicate
  · exact Or.inl asked
  · exact Or.inr ⟨registration, rfl, fun predicate same => asked ⟨predicate, same⟩⟩

end Assembly

/-- Predicates that compare with siblings of different suffixes are different. -/
theorem Predicate.confirmation_injective : Function.Injective Predicate.confirmation := by
  intro first second same
  by_contra differ
  -- A form that holds a value only where the first of them looks.
  let form : Context := ⟨fun name => if name = first then some (.bool true) else none, fun _ => []⟩
  have answers := congrFun (congrFun same (.bool true)) ⟨⟨none, ""⟩, form⟩
  have here : form.fieldValue? first = some (.bool true) := if_pos rfl
  have missing : form.fieldValue? second = none := if_neg (Ne.symm differ)
  simp only [confirmation, Site.sibling?, FieldPath.confirmationName, FieldPath.display,
    String.empty_append, here, missing] at answers
  exact absurd answers (by decide)

namespace Registry

/-- The predicate `confirmation`, if the registry holds one, looks its sibling up under the suffix
that the registry tells. -/
def Agrees (registry : Registry) : Prop :=
  ∀ predicate, registry.lookup "confirmation" none = some predicate →
    predicate = .confirmation registry.confirmationSuffix

def assemble (registry : Registry) : Assembly → Registry
  | .empty => .empty
  | .builtin => .builtin
  | .default => default
  | .withConfirmationSuffix suffix => registry.withConfirmationSuffix suffix
  | .register registration => registry.add registration

/-- The registry after some steps. -/
def assembleAll (steps : List Assembly) : Registry := steps.foldl assemble default

private theorem assembleAll_concat (steps : List Assembly) (step : Assembly) :
    assembleAll (steps ++ [step]) = (assembleAll steps).assemble step :=
  List.foldl_append

/-- An empty registry agrees with its suffix. -/
theorem agrees_empty : empty.Agrees := fun _ absent => nomatch absent

/-- The builtin registry agrees with its suffix. -/
theorem agrees_builtin : builtin.Agrees := by
  intro predicate found
  have held : builtin.lookup "confirmation" none = some (.confirmation defaultSuffix) := rfl
  exact (Option.some.inj (held.symm.trans found)).symm

/-- A registered predicate is found. -/
theorem lookup_register_self (registry : Registry) (kind : String) (subKind : Option String)
    (predicate : Predicate) :
    (registry.register kind subKind predicate).lookup kind subKind = some predicate :=
  registry.builtins.get?_insert_self (kind, subKind) predicate

/-- Changing the suffix makes the two copies agree, whatever they were before. -/
theorem agrees_withConfirmationSuffix (registry : Registry) (suffix : String) :
    (registry.withConfirmationSuffix suffix).Agrees := by
  intro predicate found
  change predicate = .confirmation suffix
  change Registry.lookup (if registry.contains "confirmation" none then _ else registry)
    "confirmation" none = some predicate at found
  split at found
  · rw [lookup_register_self] at found
    exact (Option.some.inj found).symm
  · next missing =>
      rw [contains, found] at missing
      exact absurd rfl missing

variable (registry : Registry)

/-- Registering `confirmation` keeps the suffix that the registry tells. -/
theorem agrees_assemble_confirming_iff (predicate : Predicate) :
    (registry.assemble (.confirming predicate)).Agrees ↔
      predicate = .confirmation registry.confirmationSuffix := by
  constructor
  · intro agrees
    exact agrees predicate (registry.lookup_register_self "confirmation" none predicate)
  · rintro rfl other found
    have held := registry.lookup_register_self "confirmation" none
      (.confirmation registry.confirmationSuffix)
    exact (Option.some.inj (held.symm.trans found)).symm

/-- A step that is not about confirmations does not change whether a registry agrees. -/
theorem agrees_assemble_iff_of_unrelated {step : Assembly} (unrelated : step.Unrelated) :
    (registry.assemble step).Agrees ↔ registry.Agrees := by
  obtain ⟨registration, rfl, differ⟩ := unrelated
  cases registration with
  | named name predicate => exact Iff.rfl
  | builtin kind subKind predicate =>
      have apart : (kind, subKind) ≠ ("confirmation", none) := by
        intro same
        cases same
        exact differ predicate rfl
      have kept : (registry.register kind subKind predicate).lookup "confirmation" none =
          registry.lookup "confirmation" none := registry.builtins.get?_insert_of_ne apart predicate
      simp only [assemble, add, Agrees, kept]
      exact Iff.rfl

/-- A step that is neither a registration nor unrelated settles the suffix. -/
theorem agrees_assemble_of_settling {step : Assembly}
    (settling : ∀ registration, step ≠ .register registration) :
    (registry.assemble step).Agrees := by
  cases step with
  | empty => exact agrees_empty
  | builtin => exact agrees_builtin
  | default => exact agrees_empty
  | withConfirmationSuffix suffix => exact registry.agrees_withConfirmationSuffix suffix
  | register registration => exact absurd rfl (settling registration)

/-- Every registration of `confirmation` that no later step has settled or replaced was made with
the suffix in force. -/
def Tracked (steps : List Assembly) : Prop :=
  ∀ before suffix after, steps = before ++ .confirming (.confirmation suffix) :: after →
    (∀ step ∈ after, step.Unrelated) → suffix = (assembleAll before).confirmationSuffix

private theorem tracked_concat_of_unrelated {steps : List Assembly} {step : Assembly}
    (unrelated : step.Unrelated) : Tracked (steps ++ [step]) ↔ Tracked steps := by
  constructor
  · intro tracked before suffix after split quiet
    refine tracked before suffix (after ++ [step]) ?_ ?_
    · rw [split, List.append_assoc, List.cons_append]
    · intro other member
      rcases List.mem_append.mp member with earlier | last
      · exact quiet other earlier
      · exact List.mem_singleton.mp last ▸ unrelated
  · intro tracked before suffix after split quiet
    rcases List.eq_nil_or_concat' after with rfl | ⟨rest, last, rfl⟩
    · obtain ⟨-, same⟩ := List.append_inj' split rfl
      obtain ⟨_, _, differ⟩ := unrelated
      exact absurd (List.singleton_inj.mp same) (differ _)
    · rw [← List.cons_append, ← List.append_assoc] at split
      obtain ⟨same, -⟩ := List.append_inj' split rfl
      exact tracked before suffix rest same fun other member =>
        quiet other (List.mem_append_left _ member)

/-- After a step that is not unrelated only that step itself counts. -/
theorem tracked_concat_of_related {steps : List Assembly} {step : Assembly}
    (related : ¬ step.Unrelated) :
    Tracked (steps ++ [step]) ↔
      ∀ suffix, step = .confirming (.confirmation suffix) →
        suffix = (assembleAll steps).confirmationSuffix := by
  constructor
  · rintro tracked suffix rfl
    exact tracked steps suffix [] rfl fun _ absent => nomatch absent
  · intro own before suffix after split quiet
    rcases List.eq_nil_or_concat' after with rfl | ⟨rest, last, rfl⟩
    · obtain ⟨rfl, same⟩ := List.append_inj' split rfl
      exact own suffix (List.singleton_inj.mp same)
    · rw [← List.cons_append, ← List.append_assoc] at split
      obtain ⟨-, same⟩ := List.append_inj' split rfl
      have last := quiet last (List.mem_append_right _ (List.mem_singleton_self _))
      exact absurd (List.singleton_inj.mp same ▸ last) related

/-- **When the two suffixes agree.** After any steps that register nothing but comparisons with a
sibling as `confirmation`, the predicate reads the suffix that the registry tells exactly if the
registration of `confirmation` that is still in force, if there is one, was made with the suffix
of the registry at that moment. -/
theorem agrees_assembleAll_iff {steps : List Assembly}
    (confirm : ∀ step ∈ steps, step.Confirms) : (assembleAll steps).Agrees ↔ Tracked steps := by
  induction steps using List.reverseRecOn with
  | nil =>
      refine iff_of_true agrees_empty fun before suffix after split _ => ?_
      cases before <;> cases split
  | append_singleton steps step ih =>
      have own : step.Confirms := confirm step (List.mem_append_right _ (List.mem_singleton_self _))
      have earlier := ih fun other member => confirm other (List.mem_append_left _ member)
      rw [assembleAll_concat]
      by_cases unrelated : step.Unrelated
      · rw [agrees_assemble_iff_of_unrelated _ unrelated, tracked_concat_of_unrelated unrelated,
          earlier]
      · rw [tracked_concat_of_related unrelated]
        by_cases asked : ∃ predicate, step = .confirming predicate
        · obtain ⟨predicate, rfl⟩ := asked
          obtain ⟨suffix, rfl⟩ := own predicate rfl
          rw [agrees_assemble_confirming_iff, Predicate.confirmation_injective.eq_iff]
          constructor
          · rintro same other again
            cases Predicate.confirmation_injective (by simpa using again)
            exact same
          · exact fun all => all suffix rfl
        · refine iff_of_true (agrees_assemble_of_settling _ ?_) fun suffix same =>
            absurd ⟨_, same⟩ asked
          rintro registration rfl
          exact (Assembly.confirming_or_unrelated registration).elim asked unrelated

/-- A registry of the standard predicates whose `confirmation` a host has replaced. -/
def rebound : Registry :=
  assembleAll [.builtin, .confirming (.confirmation "Again")]

/-- The form will look for dependents under another suffix than the one the predicate reads. -/
theorem not_agrees_rebound : ¬ rebound.Agrees := by
  have builtin : assembleAll [.builtin] = Registry.builtin := rfl
  change ¬ ((assembleAll [.builtin]).assemble (.confirming (.confirmation "Again"))).Agrees
  rw [agrees_assemble_confirming_iff, Predicate.confirmation_injective.eq_iff, builtin]
  decide

end Registry

namespace Form

/-- A password is committed before its confirmation. -/
def reboundRun : List Operation :=
  [.addField { modelPath := some "user.password" },
    .addField { modelPath := some "user.passwordAgain" },
    .setValue "user.password" (.str "secret"),
    .setValue "user.passwordAgain" (.str "secret")]

/-- The password is confirmed by now, but the commit of its sibling has not evaluated it. -/
theorem stale_reboundRun :
    let form := (withRegistry passwordModel .standard .rebound).run reboundRun
    form.value? "user.password" = some (.str "secret") ∧
      form.value? "user.passwordAgain" = some (.str "secret") ∧
      form.isValid? "user.password" = some false ∧
      (form.current? "user.password").map Verdicts.isValid = some true ∧
      form.dependents "user.passwordAgain" "user.passwordAgain" = [] ∧
      form.isFormValid = false :=
  ⟨rfl, rfl, rfl, rfl, rfl, rfl⟩

end Form

end FormValidity
