import FormValidity.Predicate.Builtin
import FormValidity.Proofs.FieldPath

/-! # Uniqueness

A value is taken if some record holds a loosely equal one for the field's attribute, and
`uniqueness` accepts exactly what is not taken. So its verdict depends on the values that the
records hold for the attribute, and neither on their order nor on how often they occur; with more
records it can only become stricter. An attribute that lies below several keys may be stored from
object to object or under its dotted name. Since keys without dots can be told from the dotted name,
both forms hold the same value (`Predicate.attributeOf?_of_under`), and moving a record from one to
the other keeps the verdict (`Predicate.uniqueness_reflects_records`).
-/

namespace FormValidity

/-- A value lies in another one below some keys, from object to object. -/
inductive Value.Under : Value → List String → Value → Prop where
  | here (value : Value) : Under value [] value
  | inside {entries : List (String × Value)} {key : String} {inner value : Value}
      {keys : List String} (held : Assoc.get? entries key = some inner)
      (deeper : Under inner keys value) : Under (.obj entries) (key :: keys) value

namespace Predicate

private theorem follow?_eq_some_iff {record held : Value} {keys : List String} :
    follow? record keys = some held ↔ record.Under keys held := by
  constructor
  · intro followed
    induction keys generalizing record with
    | nil =>
        cases followed
        exact .here _
    | cons key keys ih =>
        obtain ⟨inner, member, deeper⟩ := Option.bind_eq_some_iff.mp followed
        cases record with
        | obj entries => exact .inside member (ih deeper)
        | _ => cases member
  · intro under
    induction under with
    | here value => rfl
    | inside held deeper ih => exact Option.bind_eq_some_iff.mpr ⟨_, held, ih⟩

section Storage

variable {record held : Value} {keys : List String}

/-- A member of the name is the attribute of a record. -/
theorem attributeOf?_of_member {name : String} (flat : record.member? name = some held) :
    attributeOf? record name = some held := by
  rw [attributeOf?, flat, Option.orElse_some]

/-- A value below several keys is the attribute of their dotted name, unless the record holds
another value under that name. -/
theorem attributeOf?_of_under (nonempty : keys ≠ []) (noDot : ∀ key ∈ keys, '.' ∉ key.toList)
    (under : record.Under keys held)
    (alone : ∀ other, record.member? (FieldPath.dotted keys) = some other → other = held) :
    attributeOf? record (FieldPath.dotted keys) = some held := by
  cases flat : record.member? (FieldPath.dotted keys) with
  | some other =>
      cases alone other flat
      exact attributeOf?_of_member flat
  | none =>
      rw [attributeOf?, flat, Option.orElse_none, FieldPath.map_splitDots_dotted nonempty noDot]
      exact follow?_eq_some_iff.mpr under

end Storage

/-- One record of a list holds a value below some keys, and another record, which holds it under
their dotted name, stands in its place. -/
inductive Flattens (keys : List String) : List Value → List Value → Prop where
  | intro (earlier later : List Value) {nested flat held : Value} (under : nested.Under keys held)
      (alone : ∀ other, nested.member? (FieldPath.dotted keys) = some other → other = held)
      (stored : flat.member? (FieldPath.dotted keys) = some held) :
      Flattens keys (earlier ++ nested :: later) (earlier ++ flat :: later)

/-- Some record of the field's model holds a value for the field's attribute. -/
def HeldAt (site : Site) (held : Value) : Prop :=
  ∃ record ∈ site.records, attributeOf? record site.field.attributeName = some held

/-- Some record holds a loosely equal value. -/
def Taken (value : Value) (site : Site) : Prop := ∃ held, HeldAt site held ∧ held.looseEq value

private theorem any_looseEq_iff_taken (value : Value) (site : Site) :
    (site.records.filterMap (attributeOf? · site.field.attributeName)).any (·.looseEq value) ↔
      Taken value site := by
  simp only [List.any_eq_true, List.mem_filterMap, Taken, HeldAt]

/-- `uniqueness` returns a verdict on a value that is not falsy: whether it is not taken. -/
theorem uniqueness_iff {value : Value} (present : value.isFalsy = false) (site : Site) :
    ∃ holds, uniqueness value site = .verdict holds ∧ (holds = true ↔ ¬ Taken value site) := by
  refine ⟨_, rfl, ?_⟩
  rw [present, Bool.false_or, ← any_looseEq_iff_taken, Bool.not_eq_true, Bool.not_eq_true']

private theorem uniqueness_eq_true_iff {value : Value} (present : value.isFalsy = false)
    (site : Site) :
    uniqueness value site = .verdict true ↔ ¬ Taken value site := by
  obtain ⟨holds, verdict, told⟩ := uniqueness_iff present site
  rw [verdict, Outcome.verdict.injEq, told]

/-- `uniqueness` fails exactly if the value is taken. -/
theorem uniqueness_eq_false_iff {value : Value} (present : value.isFalsy = false) (site : Site) :
    uniqueness value site = .verdict false ↔ Taken value site := by
  obtain ⟨holds, verdict, told⟩ := uniqueness_iff present site
  rw [verdict, Outcome.verdict.injEq, ← Bool.not_eq_true, told, Classical.not_not]

section Sites

variable {here there : Site}

/-- The verdict depends on the held values only. -/
theorem uniqueness_congr (value : Value) (alike : ∀ held, HeldAt here held ↔ HeldAt there held) :
    uniqueness value here = uniqueness value there := by
  have taken : Taken value here ↔ Taken value there :=
    exists_congr fun held => and_congr_left' (alike held)
  rw [← any_looseEq_iff_taken, ← any_looseEq_iff_taken] at taken
  simp only [uniqueness, Bool.eq_iff_iff.mpr taken]

variable (same : here.field = there.field)
include same

/-- More records hold more. -/
theorem HeldAt.mono (more : here.records ⊆ there.records) {held : Value}
    (stored : HeldAt here held) : HeldAt there held := by
  obtain ⟨record, member, found⟩ := stored
  exact ⟨record, more member, same ▸ found⟩

/-- The same records hold the same. -/
theorem heldAt_congr_of_members
    (members : ∀ record, record ∈ here.records ↔ record ∈ there.records) (held : Value) :
    HeldAt here held ↔ HeldAt there held :=
  ⟨.mono same fun record => (members record).mp, .mono same.symm fun record => (members record).mpr⟩

/-- Nested and flat records hold the same. -/
theorem heldAt_congr_of_flattens {keys : List String} (nonempty : keys ≠ [])
    (noDot : ∀ key ∈ keys, '.' ∉ key.toList)
    (named : here.field.attributeName = FieldPath.dotted keys)
    (flattens : Flattens keys here.records there.records) (held : Value) :
    HeldAt here held ↔ HeldAt there held := by
  have attributes : here.records.map (attributeOf? · here.field.attributeName) =
      there.records.map (attributeOf? · there.field.attributeName) := by
    rw [← same, named]
    revert flattens
    generalize here.records = before
    generalize there.records = after
    rintro ⟨earlier, later, under, alone, stored⟩
    rw [List.map_append, List.map_cons, List.map_append, List.map_cons,
      attributeOf?_of_under nonempty noDot under alone, attributeOf?_of_member stored]
  have listed (site : Site) : HeldAt site held ↔
      some held ∈ site.records.map (attributeOf? · site.field.attributeName) :=
    List.mem_map.symm
  rw [listed, listed, attributes]

end Sites

/-- **Uniqueness depends on which attribute values the records hold.** A value that is not falsy
passes exactly if no record holds a loosely equal one, so records that hold the same values, and in
particular the same records in another order or number, give the same verdict. More records can
refuse a value and never let it pass again. How a record stores an attribute that lies below several
keys, from object to object or under the dotted name, makes no difference. -/
theorem uniqueness_reflects_records (path : FieldPath) {value : Value}
    (present : value.isFalsy = false) (first second : Context) :
    let here : Site := ⟨path, first⟩
    let there : Site := ⟨path, second⟩
    (∃ holds, uniqueness value here = .verdict holds ∧ (holds = true ↔ ¬ Taken value here)) ∧
    ((∀ held, HeldAt here held ↔ HeldAt there held) →
      uniqueness value here = uniqueness value there) ∧
    ((∀ record, record ∈ here.records ↔ record ∈ there.records) →
      uniqueness value here = uniqueness value there) ∧
    (here.records ⊆ there.records →
      uniqueness value there = .verdict true → uniqueness value here = .verdict true) ∧
    (∀ record ∈ there.records, ∀ held, attributeOf? record path.attributeName = some held →
      held.looseEq value → uniqueness value there = .verdict false) ∧
    ∀ keys, keys ≠ [] → (∀ key ∈ keys, '.' ∉ key.toList) →
      path.attributeName = FieldPath.dotted keys → Flattens keys here.records there.records →
        uniqueness value here = uniqueness value there := by
  intro here there
  have same : here.field = there.field := rfl
  refine ⟨uniqueness_iff present here, uniqueness_congr value, fun members => ?_,
    fun more passes => ?_, fun record member held found equal => ?_,
    fun keys nonempty noDot named flattens => ?_⟩
  · exact uniqueness_congr value (heldAt_congr_of_members same members)
  · rw [uniqueness_eq_true_iff present] at passes ⊢
    rintro ⟨held, stored, equal⟩
    exact passes ⟨held, stored.mono same more, equal⟩
  · exact (uniqueness_eq_false_iff present there).mpr ⟨held, ⟨record, member, found⟩, equal⟩
  · exact uniqueness_congr value (heldAt_congr_of_flattens same nonempty noDot named flattens)

/-- Records of towns, of which the first one is stored in some form. -/
def townRecords (town : Value) : Context :=
  ⟨fun _ => none,
    fun _ => [town, .obj [("address.city", .str "Bergen")], .obj [("address", .null)]]⟩

/-- Oslo is taken, whether it stands below two keys or under their dotted name. -/
theorem uniqueness_reflects_records_movedTown :
    let path : FieldPath := .parse "user.address.city"
    let nested : Value :=
      .obj [("address", .obj [("city", .str "Oslo")]), ("id", .num (.integer 1))]
    let flat : Value := .obj [("address", .arr []), ("address.city", .str "Oslo")]
    (Value.str "Oslo").isFalsy = false ∧
      path.attributeName = FieldPath.dotted ["address", "city"] ∧
      Flattens ["address", "city"] (Site.records ⟨path, townRecords nested⟩)
        (Site.records ⟨path, townRecords flat⟩) ∧
      uniqueness (.str "Oslo") ⟨path, townRecords nested⟩ = .verdict false ∧
      uniqueness (.str "Oslo") ⟨path, townRecords flat⟩ = .verdict false := by
  intro path nested flat
  have present : (Value.str "Oslo").isFalsy = false := by decide +kernel
  have named : path.attributeName = FieldPath.dotted ["address", "city"] := by decide +kernel
  have under : nested.Under ["address", "city"] (.str "Oslo") :=
    .inside rfl (.inside rfl (.here _))
  have moved : Flattens ["address", "city"] (Site.records ⟨path, townRecords nested⟩)
      (Site.records ⟨path, townRecords flat⟩) :=
    .intro [] _ under (by intro other flat; cases flat) rfl
  obtain ⟨-, -, -, -, refuses, moves⟩ :=
    uniqueness_reflects_records path present (townRecords nested) (townRecords flat)
  have same := moves ["address", "city"] (by decide) (by decide) named moved
  have refused : uniqueness (.str "Oslo") ⟨path, townRecords flat⟩ = .verdict false :=
    refuses flat List.mem_cons_self (.str "Oslo") (attributeOf?_of_member rfl) (by decide +kernel)
  exact ⟨present, named, moved, same.trans refused, refused⟩

end Predicate

end FormValidity
