import FormValidity.Proofs.Field.Evaluation

/-! # What a schema document compiles to

Decoding and compiling pass over the entries of a document one after the other and keep
their order. Since the keys of an object are distinct, no entry meets another one's place
in the schema, so the descriptors of a document are those of its entries
(`CompiledField.ofDocument_obj`), and no two descriptors of a compiled schema share a kind
(`CompiledField.nodup_constraintNames_compile`).
-/

namespace FormValidity

/-- What a list keeps of its items under a partial map that preserves a key has a
sublist of the keys. -/
theorem map_filterMap_sublist {α β κ : Type} {keep : α → Option β} {key : α → κ} {kept : β → κ}
    (preserves : ∀ item result, keep item = some result → kept result = key item)
    (items : List α) : ((items.filterMap keep).map kept).Sublist (items.map key) := by
  induction items with
  | nil => exact List.Sublist.refl _
  | cons item rest ih =>
      cases found : keep item with
      | none =>
          rw [List.filterMap_cons_none found, List.map_cons]
          exact ih.cons _
      | some result =>
          rw [List.filterMap_cons_some found, List.map_cons, List.map_cons,
            preserves item result found]
          exact ih.cons_cons _

namespace Schema

/-- The constraint an entry declares, if it can be decoded. -/
def decodePair? (registry : Registry) (entry : String × Value) : Option (String × Constraint) :=
  (Constraint.decode registry entry.1 entry.2).toOption.map fun constraint =>
    (entry.1, constraint)

/-- Declare constraints one after the other. -/
def declareAll (schema : Schema) (constraints : List (String × Constraint)) : Schema :=
  constraints.foldl (fun schema declared => schema.declare declared.1 declared.2) schema

/-- An entry declares what its value is decoded as. -/
theorem decodePair?_eq_some_iff {registry : Registry} {entry : String × Value}
    {declared : String × Constraint} :
    decodePair? registry entry = some declared ↔
      declared.1 = entry.1 ∧ Constraint.decode registry entry.1 entry.2 = .ok declared.2 := by
  obtain ⟨kind, constraint⟩ := declared
  unfold decodePair?
  cases Constraint.decode registry entry.1 entry.2 with
  | error cause =>
      simp only [Except.toOption, Option.map_none, reduceCtorEq, and_false]
  | ok decoded =>
      simp only [Except.toOption, Option.map_some, Option.some.injEq, Prod.mk.injEq,
        Except.ok.injEq, eq_comm]

/-- The schema of entries declares the constraints of those that can be decoded. -/
theorem ofEntries_eq_declareAll (registry : Registry) (entries : List (String × Value)) :
    ofEntries registry entries = declareAll empty (entries.filterMap (decodePair? registry)) := by
  rw [declareAll, List.foldl_filterMap, ofEntries]
  congr 1
  funext schema entry
  unfold decodePair?
  cases Constraint.decode registry entry.1 entry.2 <;> rfl

private theorem constraints_ofEntries (registry : Registry) (entries : List (String × Value)) :
    (ofEntries registry entries).constraints =
      .ofList (entries.filterMap (decodePair? registry)) := by
  rw [ofEntries_eq_declareAll]
  exact (List.foldl_hom Schema.constraints fun _ _ => rfl).symm

/-- Every constraint of a document's schema is decoded from an entry of the document. -/
theorem exists_decode_of_get?_ofEntries {registry : Registry} {entries : List (String × Value)}
    {kind : String} {constraint : Constraint}
    (found : (ofEntries registry entries).constraints.get? kind = some constraint) :
    ∃ raw, (kind, raw) ∈ entries ∧ Constraint.decode registry kind raw = .ok constraint := by
  rw [constraints_ofEntries] at found
  have member := OrderedMap.mem_of_get?_ofList found
  obtain ⟨⟨_, raw⟩, listed, decoded⟩ := List.mem_filterMap.mp member
  obtain ⟨rfl, decoded⟩ := decodePair?_eq_some_iff.mp decoded
  exact ⟨raw, listed, decoded⟩

/-- The schema of entries with distinct keys holds what they declare, in their order. -/
theorem entries_ofEntries (registry : Registry) {entries : List (String × Value)}
    (distinct : (Assoc.keys entries).Nodup) :
    (ofEntries registry entries).constraints.entries =
      entries.filterMap (decodePair? registry) := by
  rw [constraints_ofEntries]
  refine OrderedMap.entries_ofList (distinct.sublist (map_filterMap_sublist ?_ entries))
  exact fun _ _ decoded => (decodePair?_eq_some_iff.mp decoded).1

end Schema

namespace Descriptor

/-- The descriptor of an entry of a document, if it has one. -/
def ofPair? (registry : Registry) (entry : String × Value) : Option Descriptor :=
  (Schema.decodePair? registry entry).bind fun declared =>
    ofConstraint? registry declared.1 declared.2

/-- The descriptor of an entry has the kind of its key. -/
theorem kind_ofPair? {registry : Registry} (entry : String × Value) (descriptor : Descriptor)
    (found : ofPair? registry entry = some descriptor) : descriptor.kind = entry.1 := by
  obtain ⟨declared, decoded, described⟩ := Option.bind_eq_some_iff.mp found
  exact (kind_ofConstraint? described).trans (Schema.decodePair?_eq_some_iff.mp decoded).1

/-- The kinds of a schema's descriptors stand in the order of its declarations. -/
theorem map_kind_ofSchema_sublist (registry : Registry) (schema : Schema) :
    ((ofSchema registry schema).map kind).Sublist schema.kinds :=
  map_filterMap_sublist (fun _ _ found => kind_ofConstraint? found) schema.constraints.entries

/-- The entries of a document give descriptors one by one. -/
theorem ofSchema_ofEntries (registry : Registry) {entries : List (String × Value)}
    (distinct : (Assoc.keys entries).Nodup) :
    ofSchema registry (Schema.ofEntries registry entries) =
      entries.filterMap (ofPair? registry) := by
  rw [ofSchema, Schema.entries_ofEntries registry distinct, List.filterMap_filterMap]
  rfl

end Descriptor

namespace CompiledField

/-- No two descriptors of a compiled schema report under one kind. -/
theorem nodup_constraintNames_compile (registry : Registry) (path : FieldPath)
    (schema : Schema) : (compile registry path schema).constraintNames.Nodup :=
  schema.constraints.nodup_keys.sublist (Descriptor.map_kind_ofSchema_sublist registry schema)

/-- Decode the raw rules of a field and compile them for the field at a path. -/
def ofDocument (registry : Registry) (path : FieldPath) (raw : Value) :
    Except RuleError CompiledField :=
  (Schema.ofValue registry raw).map (compile registry path)

/-- The field at a path with the descriptors of entries. -/
def ofEntries (registry : Registry) (path : FieldPath) (entries : List (String × Value)) :
    CompiledField :=
  ⟨path, entries.filterMap (Descriptor.ofPair? registry)⟩

variable (registry : Registry) (path : FieldPath) {entries : List (String × Value)}

/-- An object with distinct keys always compiles, to the descriptors of its entries. -/
theorem ofDocument_obj (distinct : (Assoc.keys entries).Nodup) :
    ofDocument registry path (.obj entries) = .ok (ofEntries registry path entries) := by
  unfold ofEntries
  rw [← Descriptor.ofSchema_ofEntries registry distinct]
  rfl

/-- A compiled document has no constraint twice. -/
theorem nodup_constraintNames_ofEntries (distinct : (Assoc.keys entries).Nodup) :
    (ofEntries registry path entries).constraintNames.Nodup :=
  distinct.sublist (map_filterMap_sublist Descriptor.kind_ofPair? entries)

end CompiledField

end FormValidity
