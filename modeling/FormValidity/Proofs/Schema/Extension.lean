import FormValidity.Proofs.Constraint.Decoding
import FormValidity.Proofs.Registry.Registration
import FormValidity.Proofs.Schema.Entrywise

/-! # Extending a registry tightens validation

A larger registry makes more of the same document: it decodes pairs that were refused,
resolves flags that meant nothing, and joins further parts to nested predicates. It takes
nothing back. Each descriptor under the smaller registry has one of its kind under the larger
registry that holds at most where the former does (`Descriptor.exists_tighter_ofPair?`), and
so the field of a document only becomes stricter (`CompiledField.ofDocument_tightens`).
-/

namespace FormValidity

/-- What a partial map keeps, a second one that keeps at least the same items keeps too, in
the same order, as far as a property of the results can tell. -/
theorem filterMap_map_sublist {α β κ : Type} {fewer more : α → Option β} {key : β → κ}
    {items : List α}
    (grows : ∀ item ∈ items, ∀ result, fewer item = some result →
      ∃ other, more item = some other ∧ key other = key result) :
    ((items.filterMap fewer).map key).Sublist ((items.filterMap more).map key) := by
  induction items with
  | nil => exact List.Sublist.refl _
  | cons item rest ih =>
      have tail := ih fun other member => grows other (List.mem_cons_of_mem item member)
      cases kept : fewer item with
      | none =>
          rw [List.filterMap_cons_none kept]
          cases added : more item with
          | none =>
              rw [List.filterMap_cons_none added]
              exact tail
          | some other =>
              rw [List.filterMap_cons_some added, List.map_cons]
              exact tail.cons _
      | some result =>
          obtain ⟨other, found, same⟩ := grows item List.mem_cons_self result kept
          rw [List.filterMap_cons_some kept, List.filterMap_cons_some found, List.map_cons,
            List.map_cons, same]
          exact tail.cons_cons _

variable {larger smaller : Registry} (extension : larger.Extends smaller)

include extension in
/-- A larger registry decodes what a smaller one does. -/
theorem Constraint.decode_of_extends {kind : String} {raw : Value} {constraint : Constraint}
    (decoded : decode smaller kind raw = .ok constraint) :
    decode larger kind raw = .ok constraint := by
  cases written_of_decode decoded with
  | flag enabled => rfl
  | custom name message predicate held =>
      exact decode_of_written
        (.custom name message predicate (extension.named? name predicate held))
  | modifier entries modifier written =>
      exact decode_of_written (.modifier entries modifier written)

namespace Descriptor

/-- A descriptor reports under the kind of another one and holds at most where that does. -/
structure Tightens (tighter looser : Descriptor) : Prop where
  kind : tighter.kind = looser.kind
  holds : ∀ value site, tighter.holds value site → looser.holds value site

private theorem Tightens.refl (descriptor : Descriptor) : descriptor.Tightens descriptor :=
  ⟨rfl, fun _ _ holds => holds⟩

include extension

/-- In a larger registry nested keys give a predicate that is as tight or tighter. -/
theorem exists_tighter_ofKeys? {kind rule : String} {keys : List String} {looser : Predicate}
    (found : ofKeys? smaller kind keys = some (rule, looser)) :
    ∃ label tighter, ofKeys? larger kind keys = some (label, tighter) ∧
      ∀ value site, (tighter value site).accepts → (looser value site).accepts := by
  cases joined : ofKeys? larger kind keys with
  | none =>
      -- A key that the smaller registry holds is held by the larger one.
      have unknown := (ofKeys?_eq_none_iff larger kind keys).mp joined
      have nothing : ofKeys? smaller kind keys = none := by
        rw [ofKeys?_eq_none_iff]
        intro key asked
        cases held : smaller.lookup kind (some key) with
        | none => rfl
        | some part =>
            cases (unknown key asked).symm.trans (extension.lookup kind (some key) part held)
      cases nothing.symm.trans found
  | some entry =>
      obtain ⟨label, tighter⟩ := entry
      refine ⟨label, tighter, rfl, fun value site accepted => ?_⟩
      rw [accepts_of_ofKeys? joined] at accepted
      rw [accepts_of_ofKeys? found]
      intro key asked part held
      exact accepted key asked part (extension.lookup kind (some key) part held)

/-- In a larger registry a constraint gives a descriptor that is as tight or tighter. -/
theorem exists_tighter_ofConstraint? {kind : String} {constraint : Constraint}
    {looser : Descriptor} (found : ofConstraint? smaller kind constraint = some looser) :
    ∃ tighter, ofConstraint? larger kind constraint = some tighter ∧
      tighter.Tightens looser := by
  cases constraint with
  | flag enabled =>
      cases enabled with
      | false => cases found
      | true =>
          obtain ⟨test, held, rfl⟩ := Option.map_eq_some_iff.mp found
          refine ⟨_, ?_, .refl _⟩
          rw [ofConstraint?, extension.lookup kind none test held, Option.map_some]
  | custom predicate message => exact ⟨looser, found, .refl looser⟩
  | modifier modifier message =>
      cases modifier with
      | builtin keys =>
          obtain ⟨⟨rule, test⟩, joined, rfl⟩ := Option.map_eq_some_iff.mp found
          obtain ⟨label, tighter, more, implies⟩ := exists_tighter_ofKeys? extension joined
          refine ⟨⟨kind, label, tighter, message⟩, ?_, ⟨rfl, implies⟩⟩
          rw [ofConstraint?, ofModifier?, more, Option.map_some]
      | _ => exact ⟨looser, found, .refl looser⟩

/-- In a larger registry an entry gives a descriptor that is as tight or tighter. -/
theorem exists_tighter_ofPair? {entry : String × Value} {looser : Descriptor}
    (found : ofPair? smaller entry = some looser) :
    ∃ tighter, ofPair? larger entry = some tighter ∧ tighter.Tightens looser := by
  obtain ⟨⟨kind, constraint⟩, declared, described⟩ := Option.bind_eq_some_iff.mp found
  obtain ⟨rfl, decoded⟩ := Schema.decodePair?_eq_some_iff.mp declared
  rw [ofPair?_of_ok (Constraint.decode_of_extends extension decoded)]
  exact exists_tighter_ofConstraint? extension described

end Descriptor

namespace CompiledField

/-- A field has the constraints of another one and perhaps more, and no constraint of it holds
where that of the other one fails. -/
structure Tightens (tighter looser : CompiledField) : Prop where
  names : looser.constraintNames.Sublist tighter.constraintNames
  verdict : ∀ value context kind before after,
    (looser.evaluate value context).get? kind = some before →
    (tighter.evaluate value context).get? kind = some after → after → before
  valid : ∀ value context, (tighter.evaluate value context).isValid →
    (looser.evaluate value context).isValid

section Entries

variable (path : FieldPath) {entries : List (String × Value)}
  (distinct : (Assoc.keys entries).Nodup)
include extension distinct

/-- Under the larger registry a kind keeps its verdict or gets a stricter one. -/
theorem get?_evaluate_ofEntries_of_extends {value : Value} {context : Context} {kind : String}
    {before : Bool}
    (recorded : ((ofEntries smaller path entries).evaluate value context).get? kind =
      some before) :
    ∃ after, ((ofEntries larger path entries).evaluate value context).get? kind = some after ∧
      (after → before) := by
  have named := nodup_constraintNames_ofEntries smaller path distinct
  obtain ⟨looser, compiled, rfl, rfl⟩ := exists_mem_of_get?_evaluate named recorded
  obtain ⟨entry, declared, found⟩ := List.mem_filterMap.mp compiled
  obtain ⟨tighter, more, tightens⟩ := Descriptor.exists_tighter_ofPair? extension found
  have member : tighter ∈ (ofEntries larger path entries).descriptors :=
    List.mem_filterMap.mpr ⟨entry, declared, more⟩
  refine ⟨tighter.holds value ⟨path, context⟩, ?_, tightens.holds value _⟩
  rw [← tightens.kind]
  exact get?_evaluate_of_mem (nodup_constraintNames_ofEntries larger path distinct) member
    value context

/-- A document is as tight or tighter in a larger registry. -/
theorem ofEntries_tightens_of_extends :
    (ofEntries larger path entries).Tightens (ofEntries smaller path entries) where
  names := by
    refine filterMap_map_sublist fun entry _ looser found => ?_
    obtain ⟨tighter, more, tightens⟩ := Descriptor.exists_tighter_ofPair? extension found
    exact ⟨tighter, more, tightens.kind⟩
  verdict := by
    intro value context kind before after recorded later
    obtain ⟨other, found, implies⟩ :=
      get?_evaluate_ofEntries_of_extends extension path distinct recorded
    cases later.symm.trans found
    exact implies
  valid := by
    intro value context valid
    rw [Verdicts.isValid_iff] at valid ⊢
    intro kind before recorded
    obtain ⟨after, later, implies⟩ :=
      get?_evaluate_ofEntries_of_extends extension path distinct recorded
    exact implies (valid kind after later)

end Entries

/-- **Extending a registry tightens validation.** Let registrations take keys that a registry
does not hold; their predicates may accept, refuse, fail or break off. Then every document
compiles under both registries, and the field of the extended one keeps all constraint names
in their order, is stricter in every verdict that both give, and is valid only where the
first one is, on every value in every context. -/
theorem ofDocument_tightens (registry : Registry) (registrations : List Registration)
    (lacks : ∀ registration ∈ registrations, registry.Lacks registration) (path : FieldPath)
    (document : OrderedMap String Value) :
    ∃ looser tighter, ofDocument registry path (.obj document.entries) = .ok looser ∧
      ofDocument (registry.addAll registrations) path (.obj document.entries) = .ok tighter ∧
      tighter.Tightens looser :=
  ⟨_, _, ofDocument_obj registry path document.distinct, ofDocument_obj _ path document.distinct,
    ofEntries_tightens_of_extends (Registry.extends_addAll lacks) path document.distinct⟩

/-- A format whose test breaks off, and a predicate for pairs that is registered twice. -/
def hostRegistrations : List Registration :=
  [.builtin "format" (some "hex") fun _ _ => .crashed,
    .named "zip_code" (.ofTest fun _ => false),
    .named "zip_code" (.matching Format.zip)]

/-- Rules that ask for more than the standard predicates. -/
def hostDocument : OrderedMap String Value :=
  .ofList [("zip", .arr [.str "zip_code", .str "Must contain a valid zip code"]),
    ("format", .obj [("email", .bool true), ("hex", .bool true)]), ("presence", .bool true)]

private theorem lacks_hostRegistrations :
    ∀ registration ∈ hostRegistrations, Registry.builtin.Lacks registration := by
  intro registration member
  simp only [hostRegistrations, List.mem_cons, List.not_mem_nil, or_false] at member
  rcases member with rfl | rfl | rfl <;> rfl

/-- A host's registrations on keys of its own, and a document that uses them. -/
theorem ofDocument_tightens_hostDocument :
    (∀ registration ∈ hostRegistrations, Registry.builtin.Lacks registration) ∧
    ∃ looser tighter,
      ofDocument .builtin (.parse "user.zip") (.obj hostDocument.entries) = .ok looser ∧
      ofDocument (Registry.builtin.addAll hostRegistrations) (.parse "user.zip")
        (.obj hostDocument.entries) = .ok tighter ∧
      tighter.Tightens looser :=
  ⟨lacks_hostRegistrations,
    ofDocument_tightens .builtin hostRegistrations lacks_hostRegistrations (.parse "user.zip")
      hostDocument⟩

end CompiledField

end FormValidity
