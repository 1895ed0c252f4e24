import FormValidity.Proofs.Field.NestedKeys
import FormValidity.Proofs.Field.Summary

/-! # Nested predicates are conjoined

The nested keys of a kind share one entry of the verdicts, so a compiled field conjoins their
predicates. The joint test stops at the first part that does not accept and ends as that part does,
so which failure is told depends on the order of the keys (`Descriptor.test_of_ofKeys?`). The
verdict does not: it is positive exactly if every known key accepts, and lists of keys with the same
known members give the same verdicts (`CompiledField.compile_conjoins`).
-/

namespace FormValidity

/-- The first outcome that is no positive verdict, and a positive verdict if there is none. -/
def Outcome.conjoin (outcomes : List Outcome) : Outcome :=
  (outcomes.find? (· ≠ .verdict true)).getD (.verdict true)

private theorem Outcome.conjoin_cons (outcome : Outcome) (rest : List Outcome) :
    conjoin (outcome :: rest) = if outcome = .verdict true then conjoin rest else outcome := by
  unfold conjoin
  rw [List.find?_cons]
  by_cases holds : outcome = .verdict true
  · simp only [holds, ne_eq, not_true_eq_false, decide_false, ↓reduceIte]
  · simp only [holds, ne_eq, not_false_eq_true, decide_true, ↓reduceIte, Option.getD_some]

private theorem Outcome.conjoin_singleton (outcome : Outcome) : conjoin [outcome] = outcome := by
  rw [conjoin_cons]
  split
  · next holds => exact holds.symm
  · rfl

private theorem Predicate.all_eq_conjoin (parts : List Predicate) (value : Value) (site : Site) :
    all parts value site = .conjoin (parts.map fun part => part value site) := by
  induction parts with
  | nil => rfl
  | cons part rest ih =>
      rw [List.map_cons, Outcome.conjoin_cons, all, ih]
      split
      · next holds => rw [if_pos holds]
      · next fails => rw [if_neg fails]

namespace Descriptor

/-- The predicates that the registry holds for some keys of a kind, in the order of the keys. -/
def parts (registry : Registry) (kind : String) (keys : List String) : List Predicate :=
  keys.filterMap fun key => registry.lookup kind (some key)

private theorem map_snd_resolveKeys (registry : Registry) (kind : String) (keys : List String) :
    (resolveKeys registry kind keys).map Prod.snd = parts registry kind keys := by
  rw [resolveKeys, List.map_filterMap, parts]
  simp only [Option.map_map, Function.comp_def, Option.map_id']

/-- The joint test ends as the first part that does not accept, whether it is alone or not. -/
theorem test_of_ofKeys? {registry : Registry} {kind rule : String} {keys : List String}
    {test : Predicate} (found : ofKeys? registry kind keys = some (rule, test)) (value : Value)
    (site : Site) :
    test value site = .conjoin ((parts registry kind keys).map fun part => part value site) := by
  rw [← map_snd_resolveKeys]
  unfold ofKeys? at found
  split at found
  · cases found
  · next single =>
      cases found
      rw [single]
      exact (Outcome.conjoin_singleton _).symm
  · cases found
    exact Predicate.all_eq_conjoin _ value site

private theorem filter_ofConstraint? (registry : Registry) (kind other : String)
    (constraint : Constraint) :
    (ofConstraint? registry other constraint).filter (fun descriptor => descriptor.kind = kind) =
      if other = kind then ofConstraint? registry kind constraint else none := by
  cases described : ofConstraint? registry other constraint with
  | none =>
      split
      · next same => rw [Option.filter_none, ← same, described]
      · rfl
  | some descriptor =>
      have own := kind_ofConstraint? described
      rw [Option.filter_some, own]
      by_cases same : other = kind
      · simp only [same, decide_true, ↓reduceIte]
        rw [← same, described]
      · simp only [same, decide_false, Bool.false_eq_true, ↓reduceIte]

/-- The descriptors of a kind in a schema are that of its own constraint, if it has one. -/
theorem filter_kind_ofSchema (registry : Registry) (schema : Schema) (kind : String) :
    (ofSchema registry schema).filter (fun descriptor => descriptor.kind = kind) =
      ((schema.constraints.get? kind).bind (ofConstraint? registry kind)).toList := by
  rw [ofSchema, List.filter_filterMap]
  simp only [filter_ofConstraint?]
  exact Assoc.filterMap_key schema.constraints.distinct kind (ofConstraint? registry kind)

/-- Nested keys give a predicate exactly if one of them is known. -/
theorem exists_ofKeys?_iff (registry : Registry) (kind : String) (keys : List String) :
    (∃ found, ofKeys? registry kind keys = some found) ↔
      ∃ key ∈ keys, registry.contains kind (some key) := by
  have unknown := not_congr (ofKeys?_eq_none_iff registry kind keys)
  rw [← ne_eq, Option.ne_none_iff_exists'] at unknown
  simp only [unknown, not_forall, exists_prop, Registry.contains, Option.isSome_iff_ne_none, ne_eq]

/-- Two lists of keys of a kind have the same members among the keys that the registry holds. -/
def KnownAlike (registry : Registry) (kind : String) (keys others : List String) : Prop :=
  ∀ key, registry.contains kind (some key) → (key ∈ keys ↔ key ∈ others)

private theorem KnownAlike.symm {registry : Registry} {kind : String} {keys others : List String}
    (alike : KnownAlike registry kind keys others) : KnownAlike registry kind others keys :=
  fun key known => (alike key known).symm

section Alike

variable {registry : Registry} {kind : String} {keys others : List String}
  (alike : KnownAlike registry kind keys others)
include alike

private theorem ofKeys?_eq_none_of_alike (undescribed : ofKeys? registry kind keys = none) :
    ofKeys? registry kind others = none := by
  rw [ofKeys?_eq_none_iff] at undescribed ⊢
  intro key asked
  by_contra held
  have known : registry.contains kind (some key) := Option.isSome_iff_ne_none.mpr held
  exact held (undescribed key ((alike key known).mpr asked))

private theorem accepts_of_alike {first second : String × Predicate}
    (described : ofKeys? registry kind keys = some first)
    (other : ofKeys? registry kind others = some second) {value : Value} {site : Site}
    (accepted : (first.2 value site).accepts) : (second.2 value site).accepts := by
  rw [accepts_of_ofKeys? other]
  intro key asked part held
  have known : registry.contains kind (some key) := Option.isSome_iff_exists.mpr ⟨part, held⟩
  exact (accepts_of_ofKeys? described value site).mp accepted key ((alike key known).mpr asked)
    part held

private theorem map_accepts_ofKeys?_congr (value : Value) (site : Site) :
    (ofKeys? registry kind keys).map (fun found => (found.2 value site).accepts) =
      (ofKeys? registry kind others).map fun found => (found.2 value site).accepts := by
  cases described : ofKeys? registry kind keys with
  | none => rw [ofKeys?_eq_none_of_alike alike described]
  | some first =>
      cases other : ofKeys? registry kind others with
      | none =>
          have undescribed := ofKeys?_eq_none_of_alike alike.symm other
          cases described.symm.trans undescribed
      | some second =>
          exact congrArg some (Bool.eq_iff_iff.mpr
            ⟨accepts_of_alike alike described other, accepts_of_alike alike.symm other described⟩)

end Alike

end Descriptor

namespace Schema

/-- Declare that nested keys of a kind hold, with a message. -/
def declareKeys (schema : Schema) (kind : String) (message : Option String) (keys : List String) :
    Schema :=
  schema.declare kind (.modifier (.builtin keys) message)

end Schema

namespace CompiledField

section Nested

variable (registry : Registry) (path : FieldPath) (schema : Schema) (kind : String)
  (message : Option String)

private theorem descriptorsOf_compile_declareKeys (keys : List String) :
    (compile registry path (schema.declareKeys kind message keys)).descriptorsOf kind =
      ((Descriptor.ofKeys? registry kind keys).map fun found =>
        (⟨kind, found.1, found.2, message⟩ : Descriptor)).toList := by
  have declared : (schema.declareKeys kind message keys).constraints.get? kind =
      some (.modifier (.builtin keys) message) := OrderedMap.get?_insert_self _ _ _
  have own := Descriptor.filter_kind_ofSchema registry (schema.declareKeys kind message keys) kind
  rw [declared] at own
  exact own

/-- Lists of keys whose joint tests accept alike give the same verdicts, whatever else the schema
declares. -/
theorem evaluate_compile_declareKeys_congr {keys others : List String} {value : Value}
    {context : Context}
    (alike : (Descriptor.ofKeys? registry kind keys).map (fun found =>
        (found.2 value ⟨path, context⟩).accepts) =
      (Descriptor.ofKeys? registry kind others).map fun found =>
        (found.2 value ⟨path, context⟩).accepts) :
    (compile registry path (schema.declareKeys kind message keys)).evaluate value context =
      (compile registry path (schema.declareKeys kind message others)).evaluate value context := by
  let recorded (entry : String × Constraint) : Option (String × Bool) :=
    (Descriptor.ofConstraint? registry entry.1 entry.2).map fun descriptor =>
      (descriptor.kind, descriptor.holds value ⟨path, context⟩)
  have entries (declared : Schema) :
      ((compile registry path declared).evaluate value context).entries =
        .ofList (declared.constraints.entries.filterMap recorded) := by
    rw [entries_evaluate, compile, Descriptor.ofSchema, List.map_filterMap]
  have same (asked : List String) : recorded (kind, .modifier (.builtin asked) message) =
      ((Descriptor.ofKeys? registry kind asked).map fun found =>
        (found.2 value ⟨path, context⟩).accepts).map (kind, ·) := by
    simp only [recorded, Descriptor.ofConstraint?, Descriptor.ofModifier?, Option.map_map]
    rfl
  refine congrArg Verdicts.mk ((entries _).trans (Eq.trans ?_ (entries _).symm))
  refine congrArg OrderedMap.ofList (Assoc.filterMap_insert_congr ?_ schema.constraints.entries)
  rw [same, same, alike]

/-- Declared keys give no descriptor exactly if none of them is known. -/
theorem descriptorsOf_compile_declareKeys_eq_nil_iff (keys : List String) :
    (compile registry path (schema.declareKeys kind message keys)).descriptorsOf kind = [] ↔
      ∀ key ∈ keys, registry.lookup kind (some key) = none := by
  rw [descriptorsOf_compile_declareKeys, Option.toList_eq_nil_iff, Option.map_eq_none_iff,
    Descriptor.ofKeys?_eq_none_iff]

/-- Known keys have one descriptor together, which carries the message. -/
theorem exists_descriptorsOf_compile_declareKeys_iff (keys : List String) :
    (∃ descriptor, (compile registry path (schema.declareKeys kind message keys)).descriptorsOf
        kind = [descriptor] ∧ descriptor.message = message ∧ ∀ value site,
          descriptor.test value site =
            .conjoin ((Descriptor.parts registry kind keys).map fun part => part value site)) ↔
      ∃ key ∈ keys, registry.contains kind (some key) := by
  rw [← Descriptor.exists_ofKeys?_iff, descriptorsOf_compile_declareKeys]
  constructor
  · rintro ⟨descriptor, single, -, -⟩
    cases found : Descriptor.ofKeys? registry kind keys with
    | none =>
        rw [found] at single
        cases single
    | some described => exact ⟨described, rfl⟩
  · rintro ⟨⟨rule, test⟩, found⟩
    refine ⟨⟨kind, rule, test, message⟩, ?_, rfl, Descriptor.test_of_ofKeys? found⟩
    rw [found, Option.map_some, Option.toList_some]

/-- The verdict on declared keys is true exactly if one is known and all known ones return true. -/
theorem get?_evaluate_compile_declareKeys_iff (keys : List String) (value : Value)
    (context : Context) :
    ((compile registry path (schema.declareKeys kind message keys)).evaluate value
        context).get? kind = some true ↔
      (∃ key ∈ keys, registry.contains kind (some key)) ∧
        ∀ key ∈ keys, ∀ part, registry.lookup kind (some key) = some part →
          part value ⟨path, context⟩ = .verdict true := by
  have recorded : ((compile registry path (schema.declareKeys kind message keys)).evaluate value
      context).get? kind = (Descriptor.ofKeys? registry kind keys).map fun found =>
        (found.2 value ⟨path, context⟩).accepts := by
    rw [get?_evaluate, lastOf?, descriptorsOf_compile_declareKeys]
    cases Descriptor.ofKeys? registry kind keys with
    | none => rfl
    | some found => exact congrArg some (Outcome.accepts_eq _).symm
  rw [recorded, ← Descriptor.exists_ofKeys?_iff, Option.map_eq_some_iff]
  simp only [← Outcome.accepts_iff]
  constructor
  · rintro ⟨⟨rule, test⟩, found, accepted⟩
    exact ⟨⟨_, found⟩, (Descriptor.accepts_of_ofKeys? found value _).mp accepted⟩
  · rintro ⟨⟨⟨rule, test⟩, found⟩, accepted⟩
    exact ⟨_, found, (Descriptor.accepts_of_ofKeys? found value _).mpr accepted⟩

/-- **Nested keys of a kind are conjoined.** They leave no descriptor exactly if the registry holds
none of them, and otherwise one, whose test ends as the first of their predicates that does not
accept. The verdict of the kind is positive exactly if some key is known and every known key
accepts by itself. Lists with the same known keys, in whatever order and however often, give the
same verdicts. -/
theorem compile_conjoins (keys : List String) :
    let field (asked : List String) := compile registry path (schema.declareKeys kind message asked)
    ((field keys).descriptorsOf kind = [] ↔
      ∀ key ∈ keys, registry.lookup kind (some key) = none) ∧
    ((∃ descriptor, (field keys).descriptorsOf kind = [descriptor] ∧
        descriptor.message = message ∧ ∀ value site, descriptor.test value site =
          .conjoin ((Descriptor.parts registry kind keys).map fun part => part value site)) ↔
      ∃ key ∈ keys, registry.contains kind (some key)) ∧
    (∀ value context, ((field keys).evaluate value context).get? kind = some true ↔
      (∃ key ∈ keys, registry.contains kind (some key)) ∧
        ∀ key ∈ keys, ∀ part, registry.lookup kind (some key) = some part →
          part value ⟨path, context⟩ = .verdict true) ∧
    ∀ others, Descriptor.KnownAlike registry kind keys others → ∀ value context,
      (field keys).evaluate value context = (field others).evaluate value context := by
  intro field
  refine ⟨?_, ?_, fun value context => ?_, fun others alike value context => ?_⟩
  · exact descriptorsOf_compile_declareKeys_eq_nil_iff registry path schema kind message keys
  · exact exists_descriptorsOf_compile_declareKeys_iff registry path schema kind message keys
  · exact get?_evaluate_compile_declareKeys_iff registry path schema kind message keys value context
  · exact evaluate_compile_declareKeys_congr registry path schema kind message
      (Descriptor.map_accepts_ofKeys?_congr alike value _)

end Nested

end CompiledField

end FormValidity
