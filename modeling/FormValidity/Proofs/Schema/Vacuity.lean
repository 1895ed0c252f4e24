import FormValidity.Proofs.Constraint.Decoding
import FormValidity.Proofs.Predicate.Vacuity
import FormValidity.Proofs.Schema.Entrywise

/-! # What a document says of a falsy value

Compiled with the standard registry, a document lets a falsy value pass every constraint but the
four flags that make a demand of their own, and what each of these says of the value is known
(`CompiledField.Lenient`). This holds of every document, under every confirmation suffix
(`CompiledField.ofDocument_lenient`).
-/

namespace FormValidity

namespace Descriptor

/-- Of the entries of a document, only set flags that make a demand refuse falsy values: the
standard registry holds no predicate that a pair could name. -/
theorem passesFalsy_of_ofPair? {suffix kind : String} {raw : Value} {descriptor : Descriptor}
    (found : ofPair? (.standard suffix) (kind, raw) = some descriptor) :
    descriptor.test.PassesFalsy ∨ raw = .bool true ∧ kind ∈ Registry.demandingKinds := by
  obtain ⟨⟨_, constraint⟩, decodes, described⟩ := Option.bind_eq_some_iff.mp found
  obtain ⟨same, decoded⟩ := Schema.decodePair?_eq_some_iff.mp decodes
  cases same
  have builtin : ∀ predicate message, constraint ≠ .custom predicate message := by
    rintro predicate message rfl
    obtain ⟨_, named⟩ := Constraint.named?_of_decode_custom decoded
    cases named
  rcases passesFalsy_of_ofConstraint? builtin described with passes | ⟨rfl, demanding⟩
  · exact Or.inl passes
  · exact Or.inr ⟨Constraint.decode_eq_flag_iff.mp decoded, demanding⟩

end Descriptor

namespace CompiledField

/-- A set flag reports the outcome of the predicate of its kind. -/
theorem get?_evaluate_of_flag {registry : Registry} {document : OrderedMap String Value}
    {kind : String} {test : Predicate} (set : document.get? kind = some (.bool true))
    (held : registry.lookup kind none = some test) (path : FieldPath) (value : Value)
    (context : Context) :
    ((ofEntries registry path document.entries).evaluate value context).get? kind =
      some (test value ⟨path, context⟩).accepts := by
  have described : Descriptor.ofPair? registry (kind, .bool true) =
      some ⟨kind, kind, test, none⟩ := by
    have decoded : Constraint.decode registry kind (.bool true) = .ok (.flag true) := rfl
    rw [Descriptor.ofPair?_of_ok decoded, Descriptor.ofConstraint?, held, Option.map_some]
  have member : (⟨kind, kind, test, none⟩ : Descriptor) ∈
      (ofEntries registry path document.entries).descriptors :=
    List.mem_filterMap.mpr ⟨_, document.mem_entries_iff.mpr set, described⟩
  have distinct := nodup_constraintNames_ofEntries registry path document.distinct
  exact get?_evaluate_of_mem distinct member value context

/-- How the field of a document treats a value: every constraint holds, unless it is one of the
four flags that make a demand. These four answer as they do on falsy values. -/
structure Lenient (field : CompiledField) (suffix : String) (document : OrderedMap String Value)
    (value : Value) (context : Context) : Prop where
  optional : ∀ kind holds, (field.evaluate value context).get? kind = some holds →
    holds = true ∨ document.get? kind = some (.bool true) ∧ kind ∈ Registry.demandingKinds
  presence : document.get? "presence" = some (.bool true) →
    (field.evaluate value context).get? "presence" = some !value.isBlank
  absence : document.get? "absence" = some (.bool true) →
    (field.evaluate value context).get? "absence" = some value.isBlank
  acceptance : document.get? "acceptance" = some (.bool true) →
    (field.evaluate value context).get? "acceptance" = some false
  confirmation : document.get? "confirmation" = some (.bool true) →
    ∃ holds, (field.evaluate value context).get? "confirmation" = some holds ∧
      (holds = true ↔
        context.fieldValue? (field.path.confirmationName suffix) = none ∨
        ∃ sibling, context.fieldValue? (field.path.confirmationName suffix) = some sibling ∧
          (value.isBlank ∧ sibling.isBlank ∨ value.looseEq sibling))

section Documents

variable (suffix : String) (path : FieldPath) (document : OrderedMap String Value)

/-- A falsy value passes every entry but the demanding flags. -/
theorem holds_or_demands_of_falsy {value : Value} (falsy : value.isFalsy) {context : Context}
    {kind : String} {holds : Bool}
    (recorded : ((ofEntries (.standard suffix) path document.entries).evaluate value context).get?
      kind = some holds) :
    holds = true ∨ document.get? kind = some (.bool true) ∧ kind ∈ Registry.demandingKinds := by
  have distinct := nodup_constraintNames_ofEntries (.standard suffix) path document.distinct
  obtain ⟨descriptor, compiled, rfl, rfl⟩ := exists_mem_of_get?_evaluate distinct recorded
  obtain ⟨⟨kind, raw⟩, declared, found⟩ := List.mem_filterMap.mp compiled
  have named : descriptor.kind = kind := Descriptor.kind_ofPair? _ descriptor found
  rcases Descriptor.passesFalsy_of_ofPair? found with passes | ⟨rfl, demanding⟩
  · exact Or.inl (passes value _ falsy)
  · rw [named]
    exact Or.inr ⟨document.mem_entries_iff.mp declared, demanding⟩

/-- A compiled document is lenient with falsy values. -/
theorem lenient_ofEntries {value : Value} (falsy : value.isFalsy) (context : Context) :
    (ofEntries (.standard suffix) path document.entries).Lenient suffix document value
      context where
  optional := fun _ _ => holds_or_demands_of_falsy suffix path document falsy
  presence := by
    intro set
    have held : (Registry.standard suffix).lookup "presence" none = some .presence := rfl
    exact get?_evaluate_of_flag set held path value context
  absence := by
    intro set
    have held : (Registry.standard suffix).lookup "absence" none = some .absence := rfl
    exact get?_evaluate_of_flag set held path value context
  acceptance := by
    intro set
    have held : (Registry.standard suffix).lookup "acceptance" none = some .acceptance := rfl
    rw [get?_evaluate_of_flag set held path value context,
      Predicate.accepts_acceptance_of_falsy falsy]
  confirmation := by
    intro set
    have held : (Registry.standard suffix).lookup "confirmation" none =
        some (.confirmation suffix) := rfl
    have recorded := get?_evaluate_of_flag set held path value context
    exact ⟨_, recorded, Predicate.accepts_confirmation_of_falsy falsy suffix ⟨path, context⟩⟩

/-- **Optional constraints let falsy values pass, and only optional ones do.** With the standard
predicates, under any confirmation suffix, every document compiles, and on a falsy value every
verdict of its field is positive but those of the flags `presence`, `absence`, `acceptance` and
`confirmation`. `presence` and `absence` then tell whether the value is blank, `acceptance` fails,
and `confirmation` holds exactly if the sibling is absent, or both are blank, or they are loosely
equal. -/
theorem ofDocument_lenient {value : Value} (falsy : value.isFalsy) (context : Context) :
    ∃ field, ofDocument (.standard suffix) path (.obj document.entries) = .ok field ∧
      field.path = path ∧ field.Lenient suffix document value context :=
  ⟨_, ofDocument_obj _ path document.distinct, rfl,
    lenient_ofEntries suffix path document falsy context⟩

end Documents

/-- Rules that put modifiers beside flags, also under a kind that makes a demand as a flag. -/
def mixedDocument : OrderedMap String Value :=
  .ofList [("acceptance", .obj [("in", .arr [.str "yes"])]), ("confirmation", .bool true),
    ("length", .obj [("min", .num (.integer 3))]), ("uniqueness", .bool true),
    ("format", .obj [("email", .bool true), ("zip", .bool true)]), ("presence", .bool true)]

/-- A form in which the sibling has been left empty. -/
def blankSibling : Context :=
  ⟨fun name => if name = "user.ageAgain" then some (.str "") else none, fun _ => []⟩

/-- The negative zero loosely equals the empty text, and it is no blank value. -/
theorem ofDocument_lenient_negativeZero :
    (Value.num (.double (.zero true))).isFalsy ∧
    ∃ field, ofDocument (.standard "Again") (.parse "user.age") (.obj mixedDocument.entries) =
        .ok field ∧ field.path = .parse "user.age" ∧
      field.Lenient "Again" mixedDocument (.num (.double (.zero true))) blankSibling :=
  ⟨rfl, ofDocument_lenient "Again" (.parse "user.age") mixedDocument rfl blankSibling⟩

end CompiledField

end FormValidity
