import FormValidity.Schema

/-! # Descriptors

A schema compiles to descriptors, one per constraint that resolves to a predicate, in
declaration order. A constraint that is switched off, or that asks for predicates the
registry does not hold, compiles to nothing.
-/

namespace FormValidity

/-- A constraint that can be tested: the kind it reports under, a label that tells what
it checks, its test and its message. -/
structure Descriptor where
  kind : String
  rule : String
  test : Predicate
  message : Option String

namespace Descriptor

/-- The built-in predicates that some sub-kinds name, with their sub-kinds. -/
def resolveKeys (registry : Registry) (kind : String) (keys : List String) :
    List (String × Predicate) :=
  keys.filterMap fun key => (registry.lookup kind (some key)).map fun test => (key, test)

/-- The label and test of built-in sub-kinds: they share one entry, so they are
conjoined. -/
def ofKeys? (registry : Registry) (kind : String) (keys : List String) :
    Option (String × Predicate) :=
  match resolveKeys registry kind keys with
  | [] => none
  | [(key, test)] => some (s!"{kind}.{key}", test)
  | found =>
      some ("+".intercalate (found.map fun entry => s!"{kind}.{entry.1}"),
        Predicate.all (found.map Prod.snd))

/-- The label and test of a modifier. -/
def ofModifier? (registry : Registry) (kind : String) : Modifier → Option (String × Predicate)
  | .format pattern => some (s!"{kind}.regex", Predicate.matching pattern.expression)
  | .inclusion set => some (s!"{kind}.in", Predicate.inclusion set)
  | .exclusion set => some (s!"{kind}.from", Predicate.exclusion set)
  | .length rule => some (kind, Predicate.length rule)
  | .numericality rule => some (kind, Predicate.numericality rule)
  | .builtin keys => ofKeys? registry kind keys

/-- The descriptor of a constraint. -/
def ofConstraint? (registry : Registry) (kind : String) : Constraint → Option Descriptor
  | .flag false => none
  | .flag true => (registry.lookup kind none).map fun test => ⟨kind, kind, test, none⟩
  | .custom predicate message => some ⟨kind, kind, predicate, message⟩
  | .modifier modifier message =>
      (ofModifier? registry kind modifier).map fun (rule, test) => ⟨kind, rule, test, message⟩

/-- The descriptors of a schema. -/
def ofSchema (registry : Registry) (schema : Schema) : List Descriptor :=
  schema.constraints.entries.filterMap fun entry => ofConstraint? registry entry.1 entry.2

/-- A descriptor reports under the kind of its constraint. -/
theorem kind_ofConstraint? {registry : Registry} {kind : String} {constraint : Constraint}
    {descriptor : Descriptor} (found : ofConstraint? registry kind constraint = some descriptor) :
    descriptor.kind = kind := by
  cases constraint with
  | flag enabled =>
      cases enabled with
      | false => simp [ofConstraint?] at found
      | true =>
          obtain ⟨test, _, rfl⟩ := Option.map_eq_some_iff.1 found
          rfl
  | custom predicate message =>
      cases found
      rfl
  | modifier modifier message =>
      obtain ⟨entry, _, rfl⟩ := Option.map_eq_some_iff.1 found
      rfl

end Descriptor

end FormValidity
