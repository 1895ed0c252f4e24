import FormValidity.Model.Basic
import FormValidity.Proofs.Constraint.Decoding
import FormValidity.Proofs.Schema.Compilation
import Mathlib.Data.Set.Insert

/-! # What predicates read of a form

A predicate sees a form through its context. Of the predicates of the standard registry
only `confirmation` looks at a value, that of the field's confirming sibling, and only
`uniqueness` looks at records, those of the field's model (`Registry.readsOnly_of_lookup`).
So the verdicts of a field compiled with that registry change with the value of one sibling
at most, and only if the field has a `confirmation` constraint
(`CompiledField.ReadsSibling.evaluate_eq`). Predicates of the host are left out of this:
for them it has to be assumed that they ignore the form (`Schema.IgnoresForm`).
-/

namespace FormValidity

namespace Context

/-- Two contexts show the same values under some names and the same records of some
models. -/
structure AgreeOn (names models : Set String) (first second : Context) : Prop where
  values : ∀ name ∈ names, first.fieldValue? name = second.fieldValue? name
  records : ∀ model ∈ models, first.records model = second.records model

/-- Contexts that agree on larger sets agree on smaller ones. -/
theorem AgreeOn.mono {names models larger more : Set String} {first second : Context}
    (agree : AgreeOn larger more first second) (fewer : names ⊆ larger) (less : models ⊆ more) :
    AgreeOn names models first second where
  values := fun name member => agree.values name (fewer member)
  records := fun model member => agree.records model (less member)

end Context

namespace Predicate

/-- Evaluated at a field, a predicate looks at the values under some names and at the
records of some models, and at nothing else of the form. -/
def ReadsOnly (predicate : Predicate) (field : FieldPath) (names models : Set String) : Prop :=
  ∀ value first second, Context.AgreeOn names models first second →
    predicate value ⟨field, first⟩ = predicate value ⟨field, second⟩

/-- A predicate does not look at the form. -/
def IgnoresForm (predicate : Predicate) : Prop :=
  ∀ value field first second, predicate value ⟨field, first⟩ = predicate value ⟨field, second⟩

variable {field : FieldPath} {names models : Set String}

/-- A predicate that reads some names and models reads no more than larger sets of them. -/
theorem ReadsOnly.mono {predicate : Predicate} {larger more : Set String}
    (reads : predicate.ReadsOnly field names models) (fewer : names ⊆ larger)
    (less : models ⊆ more) : predicate.ReadsOnly field larger more :=
  fun value first second agree => reads value first second (agree.mono fewer less)

/-- A predicate that ignores the form reads nothing of it. -/
theorem IgnoresForm.readsOnly {predicate : Predicate} (ignores : predicate.IgnoresForm) :
    predicate.ReadsOnly field names models :=
  fun value first second _ => ignores value field first second

/-- A test of the value alone ignores the form. -/
theorem ignoresForm_ofTest (test : Value → Bool) : IgnoresForm (ofTest test) :=
  fun _ _ _ _ => rfl

/-- Predicates that ignore the form do so together. -/
theorem ignoresForm_all {parts : List Predicate} (ignore : ∀ part ∈ parts, part.IgnoresForm) :
    IgnoresForm (all parts) := by
  intro value field first second
  induction parts with
  | nil => rfl
  | cons part rest ih =>
      rw [all, all, ignore part List.mem_cons_self value field first second]
      split
      · exact ih fun other member => ignore other (List.mem_cons_of_mem part member)
      · rfl

/-- `confirmation` looks at the value of the confirming sibling only. -/
theorem readsOnly_confirmation (suffix : String) :
    (confirmation suffix).ReadsOnly field {field.confirmationName suffix} ∅ := by
  intro value first second agree
  have same := agree.values _ (Set.mem_singleton (field.confirmationName suffix))
  simp only [confirmation, Site.sibling?, same]

/-- `uniqueness` looks at the records of the field's model only. -/
theorem readsOnly_uniqueness : uniqueness.ReadsOnly field ∅ {field.model.getD ""} := by
  intro value first second agree
  have same := agree.records _ (Set.mem_singleton (field.model.getD ""))
  simp only [uniqueness, Site.records, same]

end Predicate

namespace Registry

/-- The registry of the standard predicates, with a confirmation suffix. -/
abbrev standard (suffix : String) : Registry := builtin.withConfirmationSuffix suffix

/-- The entries of the standard registry, in the order of their registrations. -/
theorem entries_standard (suffix : String) :
    (standard suffix).builtins.entries =
      [(("presence", none), Predicate.presence), (("absence", none), Predicate.absence),
        (("acceptance", none), Predicate.acceptance),
        (("confirmation", none), Predicate.confirmation suffix),
        (("uniqueness", none), Predicate.uniqueness),
        (("numericality", none), Predicate.numericality {}),
        (("format", some "email"), Predicate.matching Format.email),
        (("format", some "zip"), Predicate.matching Format.zip)] := rfl

/-- A standard predicate ignores the form, or it is `confirmation` or `uniqueness`. -/
theorem lookup_standard_cases {suffix kind : String} {subKind : Option String}
    {predicate : Predicate} (found : (standard suffix).lookup kind subKind = some predicate) :
    predicate.IgnoresForm ∨
      (kind = "confirmation" ∧ subKind = none ∧ predicate = .confirmation suffix) ∨
      (kind = "uniqueness" ∧ subKind = none ∧ predicate = .uniqueness) := by
  have listed := ((standard suffix).builtins.mem_entries_iff).mpr found
  rw [entries_standard] at listed
  simp only [List.mem_cons, Prod.mk.injEq, List.not_mem_nil, or_false] at listed
  rcases listed with ⟨_, rfl⟩ | ⟨_, rfl⟩ | ⟨_, rfl⟩ | ⟨⟨rfl, rfl⟩, rfl⟩ | ⟨⟨rfl, rfl⟩, rfl⟩ |
    ⟨_, rfl⟩ | ⟨_, rfl⟩ | ⟨_, rfl⟩
  case inr.inr.inr.inl => exact Or.inr (Or.inl ⟨rfl, rfl, rfl⟩)
  case inr.inr.inr.inr.inl => exact Or.inr (Or.inr ⟨rfl, rfl, rfl⟩)
  all_goals exact Or.inl (Predicate.ignoresForm_ofTest _)

/-- What a standard predicate reads of a form, by the kind it is registered under. -/
theorem readsOnly_of_lookup {suffix kind : String} {subKind : Option String}
    {predicate : Predicate} (found : (standard suffix).lookup kind subKind = some predicate)
    (field : FieldPath) :
    predicate.ReadsOnly field
      {name | kind = "confirmation" ∧ subKind = none ∧ name = field.confirmationName suffix}
      {model | kind = "uniqueness" ∧ subKind = none ∧ model = field.model.getD ""} := by
  rcases lookup_standard_cases found with ignores | ⟨rfl, rfl, rfl⟩ | ⟨rfl, rfl, rfl⟩
  · exact ignores.readsOnly
  · refine (Predicate.readsOnly_confirmation suffix).mono ?_ (Set.empty_subset _)
    rintro name rfl
    exact ⟨rfl, rfl, rfl⟩
  · refine Predicate.readsOnly_uniqueness.mono (Set.empty_subset _) ?_
    rintro model rfl
    exact ⟨rfl, rfl, rfl⟩

end Registry

namespace Descriptor

/-- Standard predicates with a sub-kind ignore the form. -/
theorem ignoresForm_of_mem_resolveKeys {suffix kind : String} {keys : List String}
    {entry : String × Predicate}
    (member : entry ∈ resolveKeys (.standard suffix) kind keys) : entry.2.IgnoresForm := by
  obtain ⟨key, _, resolved⟩ := List.mem_filterMap.mp member
  obtain ⟨test, found, rfl⟩ := Option.map_eq_some_iff.mp resolved
  rcases Registry.lookup_standard_cases found with ignores | ⟨_, named, _⟩ | ⟨_, named, _⟩
  · exact ignores
  · cases named
  · cases named

/-- The predicates of nested keys ignore the form. -/
theorem ignoresForm_of_ofKeys? {suffix kind rule : String} {keys : List String}
    {test : Predicate} (found : ofKeys? (.standard suffix) kind keys = some (rule, test)) :
    test.IgnoresForm := by
  have ignore : ∀ entry ∈ resolveKeys (.standard suffix) kind keys, entry.2.IgnoresForm :=
    fun _ member => ignoresForm_of_mem_resolveKeys member
  unfold ofKeys? at found
  split at found
  · cases found
  · next single =>
      cases found
      exact ignore _ (by rw [single]; exact List.mem_cons_self)
  · cases found
    refine Predicate.ignoresForm_all fun part member => ?_
    obtain ⟨entry, listed, rfl⟩ := List.mem_map.mp member
    exact ignore entry listed

/-- The predicates of modifiers ignore the form. -/
theorem ignoresForm_of_ofModifier? {suffix kind rule : String} {modifier : Modifier}
    {test : Predicate}
    (found : ofModifier? (.standard suffix) kind modifier = some (rule, test)) :
    test.IgnoresForm := by
  cases modifier with
  | builtin keys => exact ignoresForm_of_ofKeys? found
  | _ =>
      cases found
      exact Predicate.ignoresForm_ofTest _

/-- What the test of a constraint reads: the confirming sibling if the constraint is the
flag `confirmation`, and the records of the model if it is the flag `uniqueness`. -/
theorem readsOnly_of_ofConstraint? {suffix kind : String} {constraint : Constraint}
    {descriptor : Descriptor}
    (custom : ∀ predicate message, constraint = .custom predicate message →
      predicate.IgnoresForm)
    (found : ofConstraint? (.standard suffix) kind constraint = some descriptor)
    (field : FieldPath) :
    descriptor.test.ReadsOnly field
      {name | kind = "confirmation" ∧ constraint = .flag true ∧
        name = field.confirmationName suffix}
      {model | kind = "uniqueness" ∧ constraint = .flag true ∧
        model = field.model.getD ""} := by
  cases constraint with
  | flag enabled =>
      cases enabled with
      | false => cases found
      | true =>
          obtain ⟨test, resolved, rfl⟩ := Option.map_eq_some_iff.mp found
          apply (Registry.readsOnly_of_lookup resolved field).mono
          · rintro name ⟨named, _, same⟩
            exact ⟨named, rfl, same⟩
          · rintro model ⟨named, _, same⟩
            exact ⟨named, rfl, same⟩
  | custom predicate message =>
      cases found
      exact (custom predicate message rfl).readsOnly
  | modifier modifier message =>
      obtain ⟨⟨rule, test⟩, resolved, rfl⟩ := Option.map_eq_some_iff.mp found
      exact (ignoresForm_of_ofModifier? resolved).readsOnly

end Descriptor

/-- The host's own predicates in a schema do not look at the form. -/
def Schema.IgnoresForm (schema : Schema) : Prop :=
  ∀ kind predicate message,
    schema.constraints.get? kind = some (.custom predicate message) → predicate.IgnoresForm

/-- The standard registry holds no predicate for pairs. -/
theorem Constraint.ignoresForm_of_decode_custom {suffix kind : String} {raw : Value}
    {predicate : Predicate} {message : Option String}
    (decoded : decode (.standard suffix) kind raw = .ok (.custom predicate message)) :
    predicate.IgnoresForm := by
  obtain ⟨name, registered⟩ := named?_of_decode_custom decoded
  cases registered

/-- Rules decoded with the standard registry hold no predicate of the host. -/
theorem Schema.ignoresForm_ofEntries (suffix : String) (entries : List (String × Value)) :
    (ofEntries (.standard suffix) entries).IgnoresForm := by
  intro kind predicate message found
  obtain ⟨_, _, decoded⟩ := exists_decode_of_get?_ofEntries found
  exact Constraint.ignoresForm_of_decode_custom decoded

/-- The schemas of a model ignore the form. -/
theorem Model.ignoresForm_schema {model : Model} {suffix attributeName : String}
    {schema : Schema} (decoded : model.schema (.standard suffix) attributeName = .ok schema) :
    schema.IgnoresForm := by
  unfold Model.schema at decoded
  split at decoded
  · next raw _ =>
      cases raw with
      | obj entries =>
          cases decoded
          exact Schema.ignoresForm_ofEntries suffix entries
      | _ => cases decoded
  · cases decoded
    exact fun _ _ _ absent => nomatch absent

namespace CompiledField

/-- The tests of a field look at no value but that of its confirming sibling, and only
those of kind `confirmation` look at that. -/
def ReadsSibling (suffix : String) (field : CompiledField) : Prop :=
  ∀ descriptor ∈ field.descriptors, descriptor.test.ReadsOnly field.path
    {name | descriptor.kind = "confirmation" ∧ name = field.path.confirmationName suffix}
    Set.univ

/-- A schema compiled with the standard registry reads the confirming sibling at most. -/
theorem readsSibling_compile {schema : Schema} (ignores : schema.IgnoresForm) (suffix : String)
    (path : FieldPath) : (compile (.standard suffix) path schema).ReadsSibling suffix := by
  intro descriptor member
  obtain ⟨⟨kind, constraint⟩, declared, found⟩ := List.mem_filterMap.mp member
  have present := schema.constraints.mem_entries_iff.mp declared
  apply (Descriptor.readsOnly_of_ofConstraint? (fun predicate message same =>
    ignores kind predicate message (same ▸ present)) found path).mono
  · rintro name ⟨named, _, same⟩
    exact ⟨(Descriptor.kind_ofConstraint? found).trans named, same⟩
  · exact Set.subset_univ _

/-- The verdicts of a field stay as they are when no record changes and, if the field has
a `confirmation` constraint, the value of its confirming sibling does not change either. -/
theorem ReadsSibling.evaluate_eq {suffix : String} {field : CompiledField}
    (reads : field.ReadsSibling suffix) {first second : Context}
    (records : first.records = second.records)
    (sibling : field.hasConstraint "confirmation" →
      first.fieldValue? (field.path.confirmationName suffix) =
        second.fieldValue? (field.path.confirmationName suffix)) (value : Value) :
    field.evaluate value first = field.evaluate value second := by
  refine evaluate_congr fun descriptor member => reads descriptor member value first second ?_
  constructor
  · rintro name ⟨kind, rfl⟩
    exact sibling (kind ▸ hasConstraint_of_mem member)
  · intro model _
    rw [records]

end CompiledField

end FormValidity
