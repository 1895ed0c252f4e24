import FormValidity.Inspection.Rules
import FormValidity.Proofs.OrderedMap
import FormValidity.Proofs.Registry.Registration
import FormValidity.Proofs.Schema.Compilation
import Mathlib.Data.List.Nodup

/-! # The order of registrations

Every registration has a place, a key of one of the two tables. Of registrations with different
places each is found at its own, and elsewhere a registry is as it was
(`Registry.held?_addAll_of_mem`, `Registry.held?_addAll_of_free`). So the order of such
registrations leaves the tables alike up to the order of their entries (`Registry.SameTables`), and
that order shows nowhere: not in a look-up, not in a compiled field and not in the inspection of a
registry, whose keys are sorted (`Registry.addAll_reordered`).
-/

namespace FormValidity

/-- Sorted texts do not depend on the order they had. -/
theorem sortedTexts_perm {texts others : List String} (perm : texts.Perm others) :
    sortedTexts texts = sortedTexts others := by
  have sorted (texts : List String) : (sortedTexts texts).Pairwise (· ≤ ·) := by
    refine (List.pairwise_mergeSort ?_ ?_ texts).imp of_decide_eq_true
    · intro first second third below above
      exact decide_eq_true
        (String.le_trans (of_decide_eq_true below) (of_decide_eq_true above))
    · intro first second
      rw [Bool.or_eq_true, decide_eq_true_eq, decide_eq_true_eq]
      exact String.le_total first second
  refine List.Perm.eq_of_pairwise (fun _ _ _ _ => String.le_antisymm) (sorted texts)
    (sorted others) ?_
  exact ((List.mergeSort_perm texts _).trans perm).trans (List.mergeSort_perm others _).symm

namespace OrderedMap

variable {κ α : Type}

private theorem nodup_entries (map : OrderedMap κ α) :
    map.entries.Nodup := List.Nodup.of_map _ map.distinct

variable [DecidableEq κ] {first second : OrderedMap κ α}

/-- Two maps have the same entries up to their order exactly if their look-ups find the same. -/
theorem entries_perm_iff :
    first.entries.Perm second.entries ↔ ∀ key, first.get? key = second.get? key := by
  rw [List.perm_ext_iff_of_nodup first.nodup_entries second.nodup_entries]
  constructor
  · intro same key
    ext value
    rw [← mem_entries_iff, ← mem_entries_iff, same]
  · rintro same ⟨key, value⟩
    rw [mem_entries_iff, mem_entries_iff, same]

end OrderedMap

namespace Registration

/-- The key of a registration in the table of built-in predicates or in that of named ones. -/
abbrev Place := (String × Option String) ⊕ String

def place : Registration → Place
  | .builtin kind subKind _ => .inl (kind, subKind)
  | .named name _ => .inr name

def predicate : Registration → Predicate
  | .builtin _ _ predicate => predicate
  | .named _ predicate => predicate

end Registration

namespace Registry

open Registration (Place)

/-- The predicate that a registry holds at a place. -/
def held? (registry : Registry) : Place → Option Predicate
  | .inl key => registry.builtins.get? key
  | .inr name => registry.named.get? name

/-- Two registries hold the same entries, in any order, and have the same suffix. -/
structure SameTables (first second : Registry) : Prop where
  builtins : first.builtins.entries.Perm second.builtins.entries
  named : first.named.entries.Perm second.named.entries
  suffix : first.confirmationSuffix = second.confirmationSuffix

section Adding

variable (registry : Registry) {registrations : List Registration}

/-- A registration is held at its place, and the other places do not change. -/
theorem held?_add (registration : Registration) (place : Place) :
    (registry.add registration).held? place =
      if registration.place = place then some registration.predicate
      else registry.held? place := by
  cases registration with
  | builtin kind subKind predicate =>
      cases place with
      | inl key =>
          simp only [Registration.place, Sum.inl.injEq]
          exact registry.builtins.get?_insert _ key predicate
      | inr name => rfl
  | named name predicate =>
      cases place with
      | inl key => rfl
      | inr other =>
          simp only [Registration.place, Sum.inr.injEq]
          exact registry.named.get?_insert name other predicate

/-- Registrations do not change the suffix. -/
theorem confirmationSuffix_addAll (registrations : List Registration) :
    (registry.addAll registrations).confirmationSuffix = registry.confirmationSuffix := by
  induction registrations generalizing registry with
  | nil => rfl
  | cons registration rest ih =>
      refine (ih (registry.add registration)).trans ?_
      cases registration <;> rfl

/-- Registrations leave the other places as they are. -/
theorem held?_addAll_of_free {place : Place}
    (free : ∀ registration ∈ registrations, registration.place ≠ place) :
    (registry.addAll registrations).held? place = registry.held? place := by
  induction registrations generalizing registry with
  | nil => rfl
  | cons registration rest ih =>
      obtain ⟨elsewhere, others⟩ := List.forall_mem_cons.mp free
      refine (ih (registry.add registration) others).trans ?_
      rw [held?_add, if_neg elsewhere]

/-- Of registrations with different places each is found at its own. -/
theorem held?_addAll_of_mem (distinct : (registrations.map Registration.place).Nodup)
    {registration : Registration} (member : registration ∈ registrations) :
    (registry.addAll registrations).held? registration.place = some registration.predicate := by
  induction registrations generalizing registry with
  | nil => cases member
  | cons earlier rest ih =>
      obtain ⟨fresh, distinct⟩ := List.nodup_cons.mp distinct
      rcases List.mem_cons.mp member with rfl | later
      · have free : ∀ other ∈ rest, other.place ≠ registration.place := fun other inside same =>
          fresh (same ▸ List.mem_map_of_mem inside)
        refine ((registry.add registration).held?_addAll_of_free free).trans ?_
        rw [held?_add, if_pos rfl]
      · exact ih (registry.add earlier) distinct later

/-- The order of registrations at distinct places does not change what is held. -/
theorem held?_addAll_perm {reordered : List Registration} (perm : registrations.Perm reordered)
    (distinct : (registrations.map Registration.place).Nodup) (place : Place) :
    (registry.addAll registrations).held? place = (registry.addAll reordered).held? place := by
  by_cases taken : ∃ registration ∈ registrations, registration.place = place
  · obtain ⟨registration, member, rfl⟩ := taken
    rw [registry.held?_addAll_of_mem distinct member,
      registry.held?_addAll_of_mem ((perm.map _).nodup_iff.mp distinct) (perm.mem_iff.mp member)]
  · have free : ∀ registration ∈ registrations, registration.place ≠ place :=
      fun registration member same => taken ⟨registration, member, same⟩
    rw [registry.held?_addAll_of_free free,
      registry.held?_addAll_of_free fun registration member =>
        free registration (perm.mem_iff.mpr member)]

end Adding

namespace SameTables

variable {first second third : Registry}

private theorem refl (registry : Registry) : registry.SameTables registry :=
  ⟨.refl _, .refl _, rfl⟩

private theorem symm (same : first.SameTables second) : second.SameTables first :=
  ⟨same.builtins.symm, same.named.symm, same.suffix.symm⟩

private theorem trans (same : first.SameTables second) (more : second.SameTables third) :
    first.SameTables third :=
  ⟨same.builtins.trans more.builtins, same.named.trans more.named, same.suffix.trans more.suffix⟩

private theorem of_held? (same : ∀ place, first.held? place = second.held? place)
    (suffix : first.confirmationSuffix = second.confirmationSuffix) : first.SameTables second where
  builtins := OrderedMap.entries_perm_iff.mpr fun key => same (.inl key)
  named := OrderedMap.entries_perm_iff.mpr fun name => same (.inr name)
  suffix := suffix

/-- The order of registrations at distinct places does not change the tables. -/
theorem addAll (registry : Registry) {registrations reordered : List Registration}
    (perm : registrations.Perm reordered)
    (distinct : (registrations.map Registration.place).Nodup) :
    (registry.addAll registrations).SameTables (registry.addAll reordered) := by
  refine of_held? (registry.held?_addAll_perm perm distinct) ?_
  rw [confirmationSuffix_addAll, confirmationSuffix_addAll]

variable (same : first.SameTables second)
include same

/-- The same tables look up the same predicates. -/
theorem lookup (kind : String) (subKind : Option String) :
    first.lookup kind subKind = second.lookup kind subKind :=
  OrderedMap.entries_perm_iff.mp same.builtins (kind, subKind)

/-- The same tables find the same rules by name. -/
theorem named? (name : String) : first.named? name = second.named? name :=
  OrderedMap.entries_perm_iff.mp same.named name

/-- The same tables are inspected as the same text. -/
theorem inspect : first.inspect = second.inspect := by
  have builtins : (first.builtins.keys.map keyText).Perm (second.builtins.keys.map keyText) :=
    (same.builtins.map Prod.fst).map keyText
  have named : first.named.keys.Perm second.named.keys := same.named.map Prod.fst
  rw [Registry.inspect, sortedTexts_perm builtins, sortedTexts_perm named, same.suffix]
  rfl

/-- The same tables decode the same constraints. -/
theorem decode : Constraint.decode first = Constraint.decode second := by
  funext kind raw
  cases raw with
  | arr items => simp only [Constraint.decode, Constraint.decodePair, same.named?]
  | _ => rfl

/-- The same tables give a constraint the same descriptor. -/
theorem ofConstraint? : Descriptor.ofConstraint? first = Descriptor.ofConstraint? second := by
  funext kind constraint
  cases constraint with
  | flag enabled => cases enabled <;> simp only [Descriptor.ofConstraint?, same.lookup]
  | custom predicate message => rfl
  | modifier modifier message =>
      cases modifier with
      | builtin keys =>
          simp only [Descriptor.ofConstraint?, Descriptor.ofModifier?, Descriptor.ofKeys?,
            Descriptor.resolveKeys, same.lookup]
      | _ => rfl

/-- Equal tables compile every document to the same field. -/
theorem ofDocument (path : FieldPath) (raw : Value) :
    CompiledField.ofDocument first path raw = CompiledField.ofDocument second path raw := by
  have compile : CompiledField.compile first path = CompiledField.compile second path := by
    funext schema
    rw [CompiledField.compile, Descriptor.ofSchema, same.ofConstraint?]
    rfl
  have read : Schema.ofValue first raw = Schema.ofValue second raw := by
    cases raw with
    | obj entries =>
        rw [Schema.ofValue, Schema.ofEntries, same.decode]
        rfl
    | _ => rfl
  rw [CompiledField.ofDocument, CompiledField.ofDocument, compile, read]

end SameTables

/-- **The order of registrations does not count.** Let a registry be given registrations of
different places in one order or in another one, and let both results list their entries in any
order at all. Then they find the same predicates, compile every document to the same field, and are
shown by the same text. -/
theorem addAll_reordered (registry : Registry) {registrations reordered : List Registration}
    (perm : registrations.Perm reordered) (distinct : (registrations.map Registration.place).Nodup)
    {first second : Registry} (held : first.SameTables (registry.addAll registrations))
    (alsoHeld : second.SameTables (registry.addAll reordered)) :
    (∀ kind subKind, first.lookup kind subKind = second.lookup kind subKind) ∧
    (∀ name, first.named? name = second.named? name) ∧
    (∀ kind subKind, first.contains kind subKind = second.contains kind subKind) ∧
    (∀ path (document : OrderedMap String Value), ∃ field,
      CompiledField.ofDocument first path (.obj document.entries) = .ok field ∧
      CompiledField.ofDocument second path (.obj document.entries) = .ok field) ∧
    first.inspect.text = second.inspect.text := by
  have same : first.SameTables second :=
    held.trans ((SameTables.addAll registry perm distinct).trans alsoHeld.symm)
  refine ⟨same.lookup, same.named?, fun kind subKind => ?_, fun path document => ?_, ?_⟩
  · rw [contains, same.lookup kind subKind, contains]
  · have compiled := CompiledField.ofDocument_obj first path document.distinct
    exact ⟨_, compiled, (same.ofDocument path _).symm.trans compiled⟩
  · rw [same.inspect]

/-- Predicates under different keys that are shown by one text, and a named one. -/
def namesakes : List Registration :=
  [.builtin "card.number" none Predicate.presence,
    .builtin "card" (some "number") (Predicate.matching Format.zip),
    .named "card.number" Predicate.acceptance]

/-- Two keys with one text are listed twice in either order, and each keeps its predicate. -/
theorem addAll_reordered_namesakes :
    let first := Registry.builtin.addAll namesakes
    let second := Registry.builtin.addAll namesakes.reverse
    (namesakes.Perm namesakes.reverse ∧ (namesakes.map Registration.place).Nodup ∧
        first.SameTables (Registry.builtin.addAll namesakes) ∧
        second.SameTables (Registry.builtin.addAll namesakes.reverse)) ∧
      first.lookup "card" (some "number") = second.lookup "card" (some "number") ∧
      first.builtins.keys ≠ second.builtins.keys ∧ first.inspect.text = second.inspect.text := by
  intro first second
  have perm : namesakes.Perm namesakes.reverse := (List.reverse_perm namesakes).symm
  have distinct : (namesakes.map Registration.place).Nodup := by decide
  have held : first.SameTables (Registry.builtin.addAll namesakes) := .refl _
  have alsoHeld : second.SameTables (Registry.builtin.addAll namesakes.reverse) := .refl _
  obtain ⟨lookup, -, -, -, text⟩ := addAll_reordered .builtin perm distinct held alsoHeld
  exact ⟨⟨perm, distinct, held, alsoHeld⟩, lookup "card" (some "number"), by decide +kernel, text⟩

end Registry

end FormValidity
