import FormValidity.Proofs.Predicate.Reading

/-! # What a document sees of the form

With the standard predicates a document can look at two places of the form: the value of the
confirming sibling of its field, and the records of its field's model. It looks at the former
only if it sets the flag `confirmation`, and at the latter only if it sets the flag
`uniqueness` (`CompiledField.readsOnly_ofEntries`). Nothing else that the form holds can
change a verdict (`CompiledField.ofDocument_noninterference`).
-/

namespace FormValidity

namespace CompiledField

/-- Evaluated on any value, a field looks at the values under some names and at the records of
some models, and at nothing else of the form. -/
def ReadsOnly (field : CompiledField) (names models : Set String) : Prop :=
  ∀ value first second, Context.AgreeOn names models first second →
    field.evaluate value first = field.evaluate value second

/-- A field that reads some names and models reads no more than larger sets of them. -/
theorem ReadsOnly.mono {field : CompiledField} {names models larger more : Set String}
    (reads : field.ReadsOnly names models) (fewer : names ⊆ larger) (less : models ⊆ more) :
    field.ReadsOnly larger more :=
  fun value first second agree => reads value first second (agree.mono fewer less)

/-- A field reads no more than its descriptors do. -/
theorem readsOnly_of_descriptors {field : CompiledField} {names models : Set String}
    (reads : ∀ descriptor ∈ field.descriptors,
      descriptor.test.ReadsOnly field.path names models) : field.ReadsOnly names models :=
  fun value first second agree =>
    evaluate_congr fun descriptor member => reads descriptor member value first second agree

section Documents

variable (suffix : String) (path : FieldPath) (document : OrderedMap String Value)

/-- Of the form a document reads what its two flags ask for. -/
theorem readsOnly_ofEntries :
    (ofEntries (.standard suffix) path document.entries).ReadsOnly
      {name | document.get? "confirmation" = some (.bool true) ∧
        name = path.confirmationName suffix}
      {model | document.get? "uniqueness" = some (.bool true) ∧ model = path.model.getD ""} := by
  apply readsOnly_of_descriptors
  intro descriptor compiled
  obtain ⟨⟨_, raw⟩, declared, found⟩ := List.mem_filterMap.mp compiled
  obtain ⟨⟨kind, constraint⟩, decodes, described⟩ := Option.bind_eq_some_iff.mp found
  obtain ⟨rfl, decoded⟩ := Schema.decodePair?_eq_some_iff.mp decodes
  have present := document.mem_entries_iff.mp declared
  have ignores : ∀ predicate message, constraint = .custom predicate message →
      predicate.IgnoresForm := by
    rintro predicate message rfl
    exact Constraint.ignoresForm_of_decode_custom decoded
  have switched : constraint = .flag true → document.get? kind = some (.bool true) := by
    rintro rfl
    exact present.trans (congrArg some (Constraint.decode_eq_flag_iff.mp decoded))
  apply (Descriptor.readsOnly_of_ofConstraint? ignores described path).mono
  · rintro name ⟨rfl, flag, same⟩
    exact ⟨switched flag, same⟩
  · rintro model ⟨rfl, flag, same⟩
    exact ⟨switched flag, same⟩

/-- **Noninterference.** With the standard predicates, under any confirmation suffix, every
document compiles to a field whose verdicts depend on the form only through the value of the
field's confirming sibling and the records of the field's model. They depend on no value at
all unless the document sets `confirmation` to true, and on no records unless it sets
`uniqueness` to true. -/
theorem ofDocument_noninterference :
    ∃ field, ofDocument (.standard suffix) path (.obj document.entries) = .ok field ∧
      field.ReadsOnly {path.confirmationName suffix} {path.model.getD ""} ∧
      (document.get? "confirmation" ≠ some (.bool true) →
        field.ReadsOnly ∅ {path.model.getD ""}) ∧
      (document.get? "uniqueness" ≠ some (.bool true) →
        field.ReadsOnly {path.confirmationName suffix} ∅) := by
  have reads := readsOnly_ofEntries suffix path document
  refine ⟨_, ofDocument_obj _ path document.distinct, reads.mono ?_ ?_,
    fun unset => reads.mono ?_ ?_, fun unset => reads.mono ?_ ?_⟩
  · exact fun name asked => asked.2
  · exact fun model asked => asked.2
  · exact fun name asked => unset asked.1
  · exact fun model asked => asked.2
  · exact fun name asked => asked.2
  · exact fun model asked => unset asked.1

end Documents

end CompiledField

end FormValidity
