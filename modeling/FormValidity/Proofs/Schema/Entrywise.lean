import FormValidity.Proofs.Field.NestedKeys
import FormValidity.Proofs.Schema.Compilation

/-! # Schema documents compile entry by entry

The descriptors and the verdicts of a document are those of its entries, each compiled
from a document of its own, one after the other (`CompiledField.ofDocument_entrywise`).
An entry that cannot be decoded, is switched off or asks for nothing the registry holds
is `Inert`: it leaves no descriptor and no verdict, and no entry has any influence on what
the others compile to or on their verdicts.
-/

namespace FormValidity

namespace Descriptor

/-- A constraint has no descriptor exactly if it is switched off or asks only for
built-in predicates that the registry does not hold. -/
theorem ofConstraint?_eq_none_iff (registry : Registry) (kind : String)
    (constraint : Constraint) :
    ofConstraint? registry kind constraint = none ↔
      constraint = .flag false ∨
      (constraint = .flag true ∧ registry.lookup kind none = none) ∨
      ∃ keys message, constraint = .modifier (.builtin keys) message ∧
        ∀ key ∈ keys, registry.lookup kind (some key) = none := by
  cases constraint with
  | flag enabled => cases enabled <;> simp [ofConstraint?]
  | custom predicate message => simp [ofConstraint?]
  | modifier modifier message =>
      cases modifier with
      | builtin keys =>
          simp only [ofConstraint?, ofModifier?, Option.map_eq_none_iff, ofKeys?_eq_none_iff]
          simp
      | _ => simp [ofConstraint?, ofModifier?]

/-- An entry that is decoded gives the descriptor of its constraint. -/
theorem ofPair?_of_ok {registry : Registry} {kind : String} {raw : Value}
    {constraint : Constraint} (decoded : Constraint.decode registry kind raw = .ok constraint) :
    ofPair? registry (kind, raw) = ofConstraint? registry kind constraint := by
  simp only [ofPair?, Schema.decodePair?, decoded, Except.toOption, Option.map_some,
    Option.bind_some]

private theorem ofPair?_of_error {registry : Registry} {kind : String} {raw : Value}
    {cause : RuleError}
    (refused : Constraint.decode registry kind raw = .error cause) :
    ofPair? registry (kind, raw) = none := by
  simp only [ofPair?, Schema.decodePair?, refused, Except.toOption, Option.map_none,
    Option.bind_none]

end Descriptor

/-- An entry that declares no test. -/
inductive Inert (registry : Registry) (kind : String) (raw : Value) : Prop where
  /-- The entry cannot be decoded. -/
  | malformed (cause : RuleError) (refused : Constraint.decode registry kind raw = .error cause)
  /-- The constraint is switched off. -/
  | disabled (decoded : Constraint.decode registry kind raw = .ok (.flag false))
  /-- The constraint is switched on, and the registry has no predicate for its kind. -/
  | unknownKind (decoded : Constraint.decode registry kind raw = .ok (.flag true))
      (unknown : registry.lookup kind none = none)
  /-- The constraint names built-in predicates, and the registry holds none of them. -/
  | unknownKeys (keys : List String) (message : Option String)
      (decoded : Constraint.decode registry kind raw = .ok (.modifier (.builtin keys) message))
      (unknown : ∀ key ∈ keys, registry.lookup kind (some key) = none)

/-- An entry is inert exactly if it gives no descriptor. -/
theorem inert_iff (registry : Registry) (kind : String) (raw : Value) :
    Inert registry kind raw ↔ Descriptor.ofPair? registry (kind, raw) = none := by
  constructor
  · intro inert
    cases inert with
    | malformed cause refused => exact Descriptor.ofPair?_of_error refused
    | disabled decoded => exact Descriptor.ofPair?_of_ok decoded
    | unknownKind decoded unknown =>
        rw [Descriptor.ofPair?_of_ok decoded, Descriptor.ofConstraint?_eq_none_iff]
        exact Or.inr (Or.inl ⟨rfl, unknown⟩)
    | unknownKeys keys message decoded unknown =>
        rw [Descriptor.ofPair?_of_ok decoded, Descriptor.ofConstraint?_eq_none_iff]
        exact Or.inr (Or.inr ⟨keys, message, rfl, unknown⟩)
  · intro absent
    cases decoded : Constraint.decode registry kind raw with
    | error cause => exact .malformed cause decoded
    | ok constraint =>
        rw [Descriptor.ofPair?_of_ok decoded, Descriptor.ofConstraint?_eq_none_iff] at absent
        rcases absent with rfl | ⟨rfl, unknown⟩ | ⟨keys, message, rfl, unknown⟩
        · exact .disabled decoded
        · exact .unknownKind decoded unknown
        · exact .unknownKeys keys message decoded unknown

namespace CompiledField

variable (registry : Registry) (path : FieldPath) {entries : List (String × Value)}

/-- The descriptors of entries are those of each entry alone. -/
theorem descriptors_ofEntries (entries : List (String × Value)) :
    (ofEntries registry path entries).descriptors =
      entries.flatMap fun entry => (ofEntries registry path [entry]).descriptors := by
  induction entries with
  | nil => rfl
  | cons entry rest ih =>
      rw [List.flatMap_cons, ← ih]
      exact List.filterMap_append (l := [entry])

/-- The verdicts of entries with distinct keys are those of each entry alone. -/
theorem toList_evaluate_ofEntries (distinct : (Assoc.keys entries).Nodup) (value : Value)
    (context : Context) :
    ((ofEntries registry path entries).evaluate value context).toList =
      entries.flatMap fun entry =>
        ((ofEntries registry path [entry]).evaluate value context).toList := by
  rw [toList_evaluate (nodup_constraintNames_ofEntries registry path distinct),
    descriptors_ofEntries, List.map_flatMap]
  congr 1
  funext entry
  have single : (Assoc.keys [entry]).Nodup := List.pairwise_singleton _ _
  rw [toList_evaluate (nodup_constraintNames_ofEntries registry path single)]
  rfl

/-- An entry has a constraint name of its own exactly if it is not inert. -/
theorem mem_constraintNames_ofEntries_iff (distinct : (Assoc.keys entries).Nodup)
    {kind : String} {raw : Value} (member : (kind, raw) ∈ entries) :
    kind ∈ (ofEntries registry path entries).constraintNames ↔ ¬ Inert registry kind raw := by
  rw [inert_iff, ← ne_eq, Option.ne_none_iff_exists']
  constructor
  · intro named
    obtain ⟨descriptor, inside, rfl⟩ := List.mem_map.mp named
    obtain ⟨entry, declared, found⟩ := List.mem_filterMap.mp inside
    -- Both entries stand under the descriptor's kind, and keys are distinct.
    have key := Descriptor.kind_ofPair? entry descriptor found
    have same : entry.2 = raw := by
      have first := (Assoc.get?_eq_some_iff distinct entry.1 entry.2).mpr declared
      have second := (Assoc.get?_eq_some_iff distinct _ raw).mpr member
      rw [key, first] at second
      exact Option.some.inj second
    refine ⟨descriptor, ?_⟩
    rw [key, ← same]
    exact found
  · rintro ⟨descriptor, found⟩
    exact List.mem_map.mpr ⟨descriptor, List.mem_filterMap.mpr ⟨_, member, found⟩,
      Descriptor.kind_ofPair? _ descriptor found⟩

/-- Leaving out a key leaves out the descriptors of its kind and nothing else. -/
theorem descriptors_ofEntries_filter (entries : List (String × Value)) (kind : String) :
    (ofEntries registry path (entries.filter (·.1 ≠ kind))).descriptors =
      (ofEntries registry path entries).descriptors.filter (·.kind ≠ kind) := by
  simp only [ofEntries, List.filterMap_filter, List.filter_filterMap]
  congr 1
  funext entry
  cases found : Descriptor.ofPair? registry entry with
  | none => simp only [ite_self, Option.filter_none]
  | some descriptor =>
      rw [← Descriptor.kind_ofPair? entry descriptor found, Option.filter_some]

/-- Leaving out a key leaves out the verdict of its kind and nothing else. -/
theorem toList_evaluate_ofEntries_filter (distinct : (Assoc.keys entries).Nodup) (kind : String)
    (value : Value) (context : Context) :
    ((ofEntries registry path (entries.filter (·.1 ≠ kind))).evaluate value context).toList =
      ((ofEntries registry path entries).evaluate value context).toList.filter (·.1 ≠ kind) := by
  have others : (Assoc.keys (entries.filter (·.1 ≠ kind))).Nodup :=
    distinct.sublist (List.filter_sublist.map _)
  rw [toList_evaluate (nodup_constraintNames_ofEntries registry path others),
    toList_evaluate (nodup_constraintNames_ofEntries registry path distinct),
    descriptors_ofEntries_filter, List.filter_map]
  rfl

/-- **A document compiles entry by entry.** The descriptors of a document, with their
labels, tests and messages, and the verdicts on every value in every context are those of
its entries alone, in the order of the keys. The entries without a name and a verdict are
the inert ones. Taking an entry out takes out what its kind contributes and changes nothing
else, and each verdict is the outcome of the descriptor's own test, however the other
tests end. -/
theorem ofDocument_entrywise (document : OrderedMap String Value) :
    ∃ (field : CompiledField) (alone : String × Value → CompiledField),
      ofDocument registry path (.obj document.entries) = .ok field ∧
      (∀ entry, ofDocument registry path (.obj [entry]) = .ok (alone entry)) ∧
      field.descriptors = document.entries.flatMap (fun entry => (alone entry).descriptors) ∧
      (∀ value context, (field.evaluate value context).toList =
        document.entries.flatMap fun entry => ((alone entry).evaluate value context).toList) ∧
      (∀ kind raw, document.get? kind = some raw →
        (kind ∉ field.constraintNames ↔ Inert registry kind raw) ∧
        ∀ value context, (field.evaluate value context).get? kind = none ↔
          Inert registry kind raw) ∧
      (∀ kind, ∃ others,
        ofDocument registry path (.obj (document.erase kind).entries) = .ok others ∧
        others.descriptors = field.descriptors.filter (·.kind ≠ kind) ∧
        ∀ value context, (others.evaluate value context).toList =
          (field.evaluate value context).toList.filter (·.1 ≠ kind)) ∧
      ∀ descriptor ∈ field.descriptors, ∀ value context,
        (field.evaluate value context).get? descriptor.kind =
          some (descriptor.test value ⟨path, context⟩).accepts := by
  have named := nodup_constraintNames_ofEntries registry path document.distinct
  refine ⟨ofEntries registry path document.entries, fun entry => ofEntries registry path [entry],
    ofDocument_obj registry path document.distinct,
    fun entry => ofDocument_obj registry path (List.pairwise_singleton _ _),
    descriptors_ofEntries registry path document.entries,
    toList_evaluate_ofEntries registry path document.distinct, ?_, ?_, ?_⟩
  · intro kind raw present
    have silent : kind ∉ (ofEntries registry path document.entries).constraintNames ↔
        Inert registry kind raw := by
      rw [mem_constraintNames_ofEntries_iff registry path document.distinct
        (document.mem_entries_iff.mpr present), not_not]
    refine ⟨silent, fun value context => ?_⟩
    rw [Verdicts.get?_eq_none_iff, map_fst_toList_evaluate named]
    exact silent
  · intro kind
    exact ⟨_, ofDocument_obj registry path (document.erase kind).distinct,
      descriptors_ofEntries_filter registry path document.entries kind,
      toList_evaluate_ofEntries_filter registry path document.distinct kind⟩
  · intro descriptor member value context
    exact get?_evaluate_of_mem named member value context

/-- The verdict of a constraint that stands alone in the rules of a field, if it compiles to a
test. -/
def verdictAlone? (registry : Registry) (path : FieldPath) (kind : String) (raw value : Value)
    (context : Context) : Option Bool :=
  ((compile registry path (.ofEntries registry [(kind, raw)])).evaluate value context).get? kind

/-- The verdict of an entry alone is that of its own test. -/
theorem verdictAlone?_eq (kind : String) (raw value : Value) (context : Context) :
    verdictAlone? registry path kind raw value context =
      (Descriptor.ofPair? registry (kind, raw)).map fun descriptor =>
        (descriptor.test value ⟨path, context⟩).accepts := by
  have single : (Assoc.keys [(kind, raw)]).Nodup := List.pairwise_singleton _ _
  have compiled : compile registry path (.ofEntries registry [(kind, raw)]) =
      ⟨path, (Descriptor.ofPair? registry (kind, raw)).toList⟩ := by
    rw [compile, Descriptor.ofSchema_ofEntries registry single, List.filterMap_cons]
    cases Descriptor.ofPair? registry (kind, raw) <;> rfl
  rw [verdictAlone?, compiled]
  cases found : Descriptor.ofPair? registry (kind, raw) with
  | none => rfl
  | some descriptor =>
      have own : descriptor.kind = kind := Descriptor.kind_ofPair? _ descriptor found
      have distinct : (⟨path, [descriptor]⟩ : CompiledField).constraintNames.Nodup :=
        List.pairwise_singleton _ _
      rw [← own]
      exact get?_evaluate_of_mem distinct (List.mem_singleton_self descriptor) value context

/-- An object is decided by its modifier; its message has no influence on the verdict. -/
theorem verdictAlone?_obj (kind : String) (entries : List (String × Value)) (value : Value)
    (context : Context) :
    verdictAlone? registry path kind (.obj entries) value context =
      (Constraint.decodeModifier kind entries).toOption.bind fun modifier =>
        (Descriptor.ofModifier? registry kind modifier).map fun found =>
          (found.2 value ⟨path, context⟩).accepts := by
  rw [verdictAlone?_eq]
  cases decoded : Constraint.decodeModifier kind entries with
  | error cause =>
      have refused : Constraint.decode registry kind (.obj entries) = .error cause := by
        rw [Constraint.decode, Constraint.decodeObject, decoded]
        rfl
      rw [Descriptor.ofPair?_of_error refused]
      rfl
  | ok modifier =>
      have accepted : Constraint.decode registry kind (.obj entries) =
          .ok (.modifier modifier ((Assoc.get? entries "message").bind Value.string?)) := by
        rw [Constraint.decode, Constraint.decodeObject, decoded]
        rfl
      rw [Descriptor.ofPair?_of_ok accepted, Descriptor.ofConstraint?, Option.map_map]
      rfl

end CompiledField

end FormValidity
