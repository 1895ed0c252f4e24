import FormValidity.Proofs.Field.NestedKeys
import FormValidity.Proofs.Predicate.Reading

/-! # Predicates that pass falsy values

Of the standard predicates only `presence`, `absence`, `acceptance` and `confirmation` can refuse
a falsy value (`Registry.passesFalsy_of_lookup`), and each of them stands under its kind without a
sub-kind. Predicates built from parameters or joined under one kind let every falsy value pass. So
a constraint of the standard registry refuses a falsy value only if it is the flag of one of these
four kinds (`Descriptor.passesFalsy_of_ofConstraint?`).
-/

namespace FormValidity

namespace Predicate

/-- The predicate lets every falsy value pass, wherever it stands. -/
def PassesFalsy (predicate : Predicate) : Prop :=
  ∀ value site, value.isFalsy → (predicate value site).accepts

/-- An optional test passes falsy values. -/
theorem passesFalsy_ofOptional (test : Value → Bool) : PassesFalsy (ofOptional test) := by
  intro value site falsy
  change (value.isFalsy || test value) = true
  rw [falsy, Bool.true_or]

/-- `uniqueness` passes falsy values. -/
theorem passesFalsy_uniqueness : PassesFalsy uniqueness := by
  intro value site falsy
  simp only [uniqueness, Outcome.accepts, falsy, Bool.true_or]

/-- `acceptance` fails on falsy values. -/
theorem accepts_acceptance_of_falsy {value : Value} (falsy : value.isFalsy) (site : Site) :
    (acceptance value site).accepts = false := by
  simp only [acceptance, ofTest, Outcome.accepts]
  split
  · cases falsy
  · rfl

/-- On a falsy value `confirmation` asks for nothing while there is no sibling. -/
theorem accepts_confirmation_of_falsy {value : Value} (falsy : value.isFalsy) (suffix : String)
    (site : Site) :
    (confirmation suffix value site).accepts ↔
      site.sibling? (site.field.confirmationName suffix) = none ∨
      ∃ sibling, site.sibling? (site.field.confirmationName suffix) = some sibling ∧
        (value.isBlank ∧ sibling.isBlank ∨ value.looseEq sibling) := by
  cases found : site.sibling? (site.field.confirmationName suffix) with
  | none => simp only [confirmation, found, Outcome.accepts, falsy, true_or]
  | some sibling =>
      simp only [confirmation, found, Outcome.accepts, Bool.or_eq_true, Bool.and_eq_true,
        reduceCtorEq, Option.some.injEq, exists_eq_left', false_or]

end Predicate

namespace Registry

/-- The kinds whose flags can refuse a falsy value. -/
def demandingKinds : List String := ["presence", "absence", "acceptance", "confirmation"]

/-- Every predicate of the standard registry passes falsy values, but the demanding ones. -/
theorem passesFalsy_of_lookup {suffix kind : String} {subKind : Option String}
    {predicate : Predicate} (found : (standard suffix).lookup kind subKind = some predicate) :
    predicate.PassesFalsy ∨ subKind = none ∧ kind ∈ demandingKinds := by
  have listed := ((standard suffix).builtins.mem_entries_iff).mpr found
  rw [entries_standard] at listed
  simp only [List.mem_cons, Prod.mk.injEq, List.not_mem_nil, or_false] at listed
  rcases listed with ⟨⟨rfl, rfl⟩, _⟩ | ⟨⟨rfl, rfl⟩, _⟩ | ⟨⟨rfl, rfl⟩, _⟩ | ⟨⟨rfl, rfl⟩, _⟩ |
    ⟨_, rfl⟩ | ⟨_, rfl⟩ | ⟨_, rfl⟩ | ⟨_, rfl⟩
  case inr.inr.inr.inr.inl => exact Or.inl Predicate.passesFalsy_uniqueness
  -- The first four predicates are those that make a demand; the last three are optional.
  iterate 4 exact Or.inr ⟨rfl, by simp only [demandingKinds, List.mem_cons, true_or, or_true]⟩
  all_goals exact Or.inl (Predicate.passesFalsy_ofOptional _)

end Registry

namespace Descriptor

variable {suffix kind rule : String} {test : Predicate}

/-- No predicate with a sub-kind makes a demand, so neither does a conjunction of such ones. -/
theorem passesFalsy_of_ofKeys? {keys : List String}
    (found : ofKeys? (.standard suffix) kind keys = some (rule, test)) : test.PassesFalsy := by
  intro value site falsy
  rw [accepts_of_ofKeys? found]
  intro key _ part held
  rcases Registry.passesFalsy_of_lookup held with passes | ⟨plain, _⟩
  · exact passes value site falsy
  · cases plain

/-- The predicates of modifiers pass falsy values. -/
theorem passesFalsy_of_ofModifier? {modifier : Modifier}
    (found : ofModifier? (.standard suffix) kind modifier = some (rule, test)) :
    test.PassesFalsy := by
  cases modifier with
  | builtin keys => exact passesFalsy_of_ofKeys? found
  | _ =>
      cases found
      exact Predicate.passesFalsy_ofOptional _

/-- A constraint that holds no predicate of the host lets falsy values pass, or it is a flag that
makes a demand. -/
theorem passesFalsy_of_ofConstraint? {constraint : Constraint} {descriptor : Descriptor}
    (builtin : ∀ predicate message, constraint ≠ .custom predicate message)
    (found : ofConstraint? (.standard suffix) kind constraint = some descriptor) :
    descriptor.test.PassesFalsy ∨ constraint = .flag true ∧ kind ∈ Registry.demandingKinds := by
  cases constraint with
  | flag enabled =>
      cases enabled with
      | false => cases found
      | true =>
          obtain ⟨test, held, rfl⟩ := Option.map_eq_some_iff.mp found
          rcases Registry.passesFalsy_of_lookup held with passes | ⟨_, demanding⟩
          · exact Or.inl passes
          · exact Or.inr ⟨rfl, demanding⟩
  | custom predicate message => exact (builtin predicate message rfl).elim
  | modifier modifier message =>
      obtain ⟨⟨_, _⟩, resolved, rfl⟩ := Option.map_eq_some_iff.mp found
      exact Or.inl (passesFalsy_of_ofModifier? resolved)

end Descriptor

end FormValidity
