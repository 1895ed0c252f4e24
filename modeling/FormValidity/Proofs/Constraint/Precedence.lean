import FormValidity.Proofs.Constraint.Decoding
import FormValidity.Proofs.Field.Conjunction
import FormValidity.Proofs.Schema.Entrywise

/-! # What an object with several checks enforces

An object can ask for a pattern, a set of members, a set of others and nested predicates, but a
modifier holds one of these shapes only. Nested predicates are conjoined. A pattern and the sets are
decisive: the first one that is there is all that the object enforces, and whatever else it enables
is not looked at (`CompiledField.not_conjoined_patternBesideAddress`). So the verdict of an object
is that of its first decisive key alone, and without a decisive key the conjunction of the verdicts
of its nested predicates, each of them alone (`CompiledField.verdict_follows_decisive_key`).
-/

namespace FormValidity

namespace Modifier

/-- The keys that decide by themselves, each before the later ones. -/
def decisiveKeys : List String := ["regex", "in", "from"]

/-- The key by which an object is decided, if it has one. -/
def decisiveKey? (object : OrderedMap String Value) : Option String :=
  decisiveKeys.find? object.contains

/-- The keys by which an object enables a check of a kind. -/
inductive Enabled (registry : Registry) (kind : String) (object : OrderedMap String Value) :
    String → Prop where
  | format (raw : Value) (pattern : Pattern) (given : object.get? "regex" = some raw)
      (written : Pattern.Written raw pattern) : Enabled registry kind object "regex"
  | inclusion (set : List Value) (given : object.get? "in" = some (.arr set)) :
      Enabled registry kind object "in"
  | exclusion (set : List Value) (given : object.get? "from" = some (.arr set)) :
      Enabled registry kind object "from"
  | builtin (key : String) (given : object.get? key = some (.bool true))
      (nested : key ∉ "message" :: decisiveKeys) (known : registry.contains kind (some key)) :
      Enabled registry kind object key

section Selection

variable {registry : Registry} {kind : String} {object : OrderedMap String Value}

/-- No key is decisive exactly if none of the decisive keys is given. -/
theorem decisiveKey?_eq_none_iff :
    decisiveKey? object = none ↔ ∀ key ∈ decisiveKeys, object.get? key = none := by
  simp only [decisiveKey?, List.find?_eq_none, OrderedMap.contains, Bool.not_eq_true,
    Option.isSome_eq_false_iff, Option.isNone_iff_eq_none]

private theorem decisiveKey?_cases {key : String} (decisive : decisiveKey? object = some key) :
    (key = "regex" ∧ ∃ raw, object.get? "regex" = some raw) ∨
    (key = "in" ∧ object.get? "regex" = none ∧ ∃ raw, object.get? "in" = some raw) ∨
    (key = "from" ∧ object.get? "regex" = none ∧ object.get? "in" = none ∧
      ∃ raw, object.get? "from" = some raw) := by
  simp only [decisiveKey?, decisiveKeys, List.find?_cons, List.find?_nil, OrderedMap.contains]
    at decisive
  cases pattern : object.get? "regex" with
  | some raw =>
      simp only [pattern, Option.isSome_some, Option.some.injEq] at decisive
      exact Or.inl ⟨decisive.symm, raw, rfl⟩
  | none =>
  cases members : object.get? "in" with
  | some raw =>
      simp only [pattern, members, Option.isSome_none, Option.isSome_some, Option.some.injEq]
        at decisive
      exact Or.inr (Or.inl ⟨decisive.symm, rfl, raw, rfl⟩)
  | none =>
  cases others : object.get? "from" with
  | some raw =>
      simp only [pattern, members, others, Option.isSome_none, Option.isSome_some,
        Option.some.injEq] at decisive
      exact Or.inr (Or.inr ⟨decisive.symm, rfl, rfl, raw, rfl⟩)
  | none =>
      simp only [pattern, members, others, Option.isSome_none, reduceCtorEq] at decisive

/-- Decoding looks at a decisive key and at nothing beside it. -/
theorem decodeSelection_only_of_decisive {key : String} (decisive : decisiveKey? object = some key)
    (kind : String) :
    Constraint.decodeSelection kind (object.only key).entries =
      Constraint.decodeSelection kind object.entries := by
  have whole (other : String) : Assoc.get? object.entries other = object.get? other := rfl
  have alone (other : String) : Assoc.get? (object.only key).entries other =
      if key = other then object.get? key else none := object.get?_only key other
  unfold Constraint.decodeSelection
  simp only [whole, alone]
  rcases decisiveKey?_cases decisive with ⟨rfl, raw, pattern⟩ | ⟨rfl, noPattern, raw, members⟩ |
    ⟨rfl, noPattern, noMembers, raw, others⟩
  · simp only [pattern, ↓reduceIte]
  · simp only [noPattern, members, String.reduceEq, ↓reduceIte]
  · simp only [noPattern, noMembers, others, String.reduceEq, ↓reduceIte]

/-- A key is enabled exactly if it is set to true and is not the message. -/
theorem mem_enabledKeys_iff {key : String} :
    key ∈ Constraint.enabledKeys object.entries ↔
      key ≠ "message" ∧ object.get? key = some (.bool true) := by
  simp only [Constraint.enabledKeys, List.mem_map, List.mem_filter, decide_eq_true_eq, Prod.exists,
    isTrue_iff, ← object.mem_entries_iff]
  constructor
  · rintro ⟨_, _, ⟨member, noMessage, rfl⟩, rfl⟩
    exact ⟨noMessage, member⟩
  · rintro ⟨noMessage, member⟩
    exact ⟨key, .bool true, ⟨member, noMessage, rfl⟩, rfl⟩

/-- Without a decisive key an object enables the keys set to true that the registry holds. -/
theorem enabled_iff_of_indecisive (indecisive : decisiveKey? object = none) {key : String} :
    Enabled registry kind object key ↔
      key ∈ Constraint.enabledKeys object.entries ∧ registry.contains kind (some key) := by
  have missing := decisiveKey?_eq_none_iff.mp indecisive
  rw [mem_enabledKeys_iff]
  constructor
  · intro enabled
    cases enabled with
    | format raw pattern given written => cases (missing "regex" (by decide)).symm.trans given
    | inclusion set given => cases (missing "in" (by decide)).symm.trans given
    | exclusion set given => cases (missing "from" (by decide)).symm.trans given
    | builtin key given nested known =>
        exact ⟨⟨fun same => nested (same ▸ List.mem_cons_self), given⟩, known⟩
  · rintro ⟨⟨noMessage, given⟩, known⟩
    refine .builtin key given (fun member => ?_) known
    rcases List.mem_cons.mp member with same | decisive
    · exact noMessage same
    · cases (missing key decisive).symm.trans given

/-- Without a decisive key an object decodes to its enabled keys, if there are any. -/
theorem decodeSelection_of_indecisive (indecisive : decisiveKey? object = none) (kind : String) :
    Constraint.decodeSelection kind object.entries =
      if Constraint.enabledKeys object.entries = [] then
        .error (.unrecognizedShape kind .nothingEnabled)
      else .ok (.builtin (Constraint.enabledKeys object.entries)) := by
  have missing := decisiveKey?_eq_none_iff.mp indecisive
  have noPattern : Assoc.get? object.entries "regex" = none := missing "regex" (by decide)
  have noMembers : Assoc.get? object.entries "in" = none := missing "in" (by decide)
  have noOthers : Assoc.get? object.entries "from" = none := missing "from" (by decide)
  simp only [Constraint.decodeSelection, noPattern, noMembers, noOthers]
  cases Constraint.enabledKeys object.entries with
  | nil => rfl
  | cons key keys => exact (if_neg (List.cons_ne_nil key keys)).symm

private theorem indecisive_only {key : String}
    (free : key ∈ decisiveKeys → object.get? key = none) :
    decisiveKey? (object.only key) = none := by
  rw [decisiveKey?_eq_none_iff]
  intro other decisive
  rw [OrderedMap.get?_only]
  split
  · next same => exact free (same ▸ decisive)
  · rfl

private theorem enabledKeys_only {key : String} (noMessage : key ≠ "message")
    (given : object.get? key = some (.bool true)) :
    Constraint.enabledKeys (object.only key).entries = [key] := by
  rw [OrderedMap.entries_only, given, Option.map_some, Option.toList_some,
    enabledKeys_cons_of_enabled noMessage]
  rfl

end Selection

end Modifier

private theorem Descriptor.ofKeys?_singleton {registry : Registry} {kind key : String}
    {part : Predicate}
    (held : registry.lookup kind (some key) = some part) :
    ofKeys? registry kind [key] = some (s!"{kind}.{key}", part) := by
  simp only [ofKeys?, resolveKeys, List.filterMap_cons, List.filterMap_nil, held, Option.map_some]

namespace CompiledField

open Modifier

/-- The checks that an object enables are conjoined: it has a verdict, and it is positive exactly if
each check alone has a positive one. -/
def Conjoined (registry : Registry) (path : FieldPath) (kind : String)
    (object : OrderedMap String Value) (value : Value) (context : Context) : Prop :=
  ∃ holds,
    verdictAlone? registry path kind (.obj object.entries) value context = some holds ∧
      (holds = true ↔ ∀ key, Enabled registry kind object key →
        verdictAlone? registry path kind (.obj (object.only key).entries) value context = some true)

section Objects

variable {registry : Registry} {kind : String} (noLength : kind ≠ "length")
  (noNumber : kind ≠ "numericality") {object : OrderedMap String Value} (path : FieldPath)
  (value : Value) (context : Context)
include noLength noNumber

private theorem verdictAlone?_of_selection :
    verdictAlone? registry path kind (.obj object.entries) value context =
      (Constraint.decodeSelection kind object.entries).toOption.bind fun modifier =>
        (Descriptor.ofModifier? registry kind modifier).map fun found =>
          (found.2 value ⟨path, context⟩).accepts := by
  rw [verdictAlone?_obj, Constraint.decodeModifier, if_neg noLength, if_neg noNumber]

private theorem verdictAlone?_of_indecisive (indecisive : decisiveKey? object = none) :
    verdictAlone? registry path kind (.obj object.entries) value context =
      (Descriptor.ofKeys? registry kind (Constraint.enabledKeys object.entries)).map fun found =>
        (found.2 value ⟨path, context⟩).accepts := by
  rw [verdictAlone?_of_selection noLength noNumber, decodeSelection_of_indecisive indecisive]
  split
  · next nothing => rw [nothing]; rfl
  · rfl

/-- A nested key alone has the verdict of its predicate. -/
theorem verdictAlone?_only_of_lookup {key : String} {part : Predicate}
    (noMessage : key ≠ "message") (given : object.get? key = some (.bool true))
    (free : key ∈ decisiveKeys → object.get? key = none)
    (held : registry.lookup kind (some key) = some part) :
    verdictAlone? registry path kind (.obj (object.only key).entries) value context =
      some (part value ⟨path, context⟩).accepts := by
  rw [verdictAlone?_of_indecisive noLength noNumber path value context (indecisive_only free),
    enabledKeys_only noMessage given, Descriptor.ofKeys?_singleton held]
  rfl

private theorem exists_verdictAlone?_of_selected {modifier : Modifier} {found : String × Predicate}
    (selected : modifier.Selected object.entries)
    (described : Descriptor.ofModifier? registry kind modifier = some found) :
    ∃ holds, verdictAlone? registry path kind (.obj object.entries) value context = some holds := by
  refine ⟨(found.2 value ⟨path, context⟩).accepts, ?_⟩
  rw [verdictAlone?_of_selection noLength noNumber, decodeSelection_of_selected kind selected,
    Except.toOption, Option.bind_some, described, Option.map_some]

/-- Every check that an object enables has a verdict when it stands alone. -/
theorem exists_verdictAlone?_of_enabled {key : String}
    (enabled : Enabled registry kind object key) :
    ∃ holds, verdictAlone? registry path kind (.obj (object.only key).entries) value context =
      some holds := by
  have alone (key other : String) : Assoc.get? (object.only key).entries other =
      if key = other then object.get? key else none := object.get?_only key other
  cases enabled with
  | builtin key given nested known =>
      obtain ⟨part, held⟩ := Option.isSome_iff_exists.mp known
      have noMessage : key ≠ "message" := fun same => nested (same ▸ List.mem_cons_self)
      exact ⟨_, verdictAlone?_only_of_lookup noLength noNumber path value context noMessage given
        (fun decisive => (nested (List.mem_cons_of_mem _ decisive)).elim) held⟩
  | format raw pattern given written =>
      have selected : (Modifier.format pattern).Selected (object.only "regex").entries :=
        .format raw pattern ((alone _ _).trans given) written
      exact exists_verdictAlone?_of_selected noLength noNumber path value context selected rfl
  | inclusion set given =>
      have selected : (Modifier.inclusion set).Selected (object.only "in").entries :=
        .inclusion set (alone _ _) ((alone _ _).trans given)
      exact exists_verdictAlone?_of_selected noLength noNumber path value context selected rfl
  | exclusion set given =>
      have selected : (Modifier.exclusion set).Selected (object.only "from").entries :=
        .exclusion set (alone _ _) (alone _ _) ((alone _ _).trans given)
      exact exists_verdictAlone?_of_selected noLength noNumber path value context selected rfl

/-- Without a decisive key the enabled keys are conjoined. -/
theorem conjoined_of_indecisive (indecisive : decisiveKey? object = none)
    (asks : ∃ key, Enabled registry kind object key) :
    Conjoined registry path kind object value context := by
  have enabled {key : String} : Enabled registry kind object key ↔ _ :=
    enabled_iff_of_indecisive indecisive
  have missing := decisiveKey?_eq_none_iff.mp indecisive
  obtain ⟨⟨rule, test⟩, found⟩ := (Descriptor.exists_ofKeys?_iff registry kind _).mpr
    (asks.imp fun key => enabled.mp)
  refine ⟨(test value ⟨path, context⟩).accepts, ?_, ?_⟩
  · rw [verdictAlone?_of_indecisive noLength noNumber path value context indecisive, found]
    rfl
  rw [Descriptor.accepts_of_ofKeys? found]
  have alone {key : String} {part : Predicate}
      (asked : key ∈ Constraint.enabledKeys object.entries)
      (held : registry.lookup kind (some key) = some part) :=
    verdictAlone?_only_of_lookup noLength noNumber path value context
      (mem_enabledKeys_iff.mp asked).1 (mem_enabledKeys_iff.mp asked).2 (missing key) held
  constructor
  · intro accepted key check
    obtain ⟨asked, known⟩ := enabled.mp check
    obtain ⟨part, held⟩ := Option.isSome_iff_exists.mp known
    rw [alone asked held, accepted key asked part held]
  · intro accepted key asked part held
    have check : Enabled registry kind object key :=
      enabled.mpr ⟨asked, Option.isSome_iff_exists.mpr ⟨part, held⟩⟩
    exact Option.some.inj ((alone asked held).symm.trans (accepted key check))

end Objects

/-- **An object enforces its first decisive key, or else all its nested predicates.** Every check
that an object enables has a verdict by itself. If the object has a pattern, a set of members or a
set of others, then its verdict is that of the first of these alone, whatever else it enables. If it
has none of them and enables some check, then its verdict is the conjunction of the verdicts of its
checks. -/
theorem verdict_follows_decisive_key (registry : Registry) {kind : String}
    (noLength : kind ≠ "length") (noNumber : kind ≠ "numericality")
    (object : OrderedMap String Value) (path : FieldPath) (value : Value) (context : Context) :
    (∀ key, Enabled registry kind object key → ∃ holds,
      verdictAlone? registry path kind (.obj (object.only key).entries) value context =
        some holds) ∧
    (∀ key, decisiveKey? object = some key →
      verdictAlone? registry path kind (.obj object.entries) value context =
        verdictAlone? registry path kind (.obj (object.only key).entries) value context) ∧
    (decisiveKey? object = none → (∃ key, Enabled registry kind object key) →
      Conjoined registry path kind object value context) := by
  refine ⟨fun key => exists_verdictAlone?_of_enabled noLength noNumber path value context,
    fun key decisive => ?_, conjoined_of_indecisive noLength noNumber path value context⟩
  rw [verdictAlone?_of_selection noLength noNumber, verdictAlone?_of_selection noLength noNumber,
    decodeSelection_only_of_decisive decisive]

/-- The set of members decides although the set of others stands first, and two formats are both
enforced. -/
theorem verdict_follows_decisive_key_twoFormats :
    let sizes : OrderedMap String Value :=
      .ofList [("from", .arr [.str "S"]), ("in", .arr [.str "S", .str "M"])]
    let formats : OrderedMap String Value := .ofList [("zip", .bool true), ("email", .bool true)]
    let verdict? (object : OrderedMap String Value) (value : Value) :=
      verdictAlone? .builtin (.parse "user.code") "format" (.obj object.entries) value .empty
    (("format" ≠ "length" ∧ "format" ≠ "numericality") ∧ decisiveKey? sizes = some "in" ∧
      decisiveKey? formats = none ∧ Enabled .builtin "format" formats "zip") ∧
      verdict? sizes (.str "S") = verdict? (sizes.only "in") (.str "S") ∧
      Conjoined .builtin (.parse "user.code") "format" formats (.str "11111") .empty := by
  intro sizes formats verdict?
  have noLength : "format" ≠ "length" := by decide
  have noNumber : "format" ≠ "numericality" := by decide
  have members : decisiveKey? sizes = some "in" := by decide
  have indecisive : decisiveKey? formats = none := by decide
  have zip : Enabled .builtin "format" formats "zip" := .builtin "zip" rfl (by decide) rfl
  obtain ⟨-, follows, -⟩ := verdict_follows_decisive_key .builtin noLength noNumber sizes
    (.parse "user.code") (.str "S") .empty
  obtain ⟨-, -, conjoins⟩ := verdict_follows_decisive_key .builtin noLength noNumber formats
    (.parse "user.code") (.str "11111") .empty
  exact ⟨⟨⟨noLength, noNumber⟩, members, indecisive, zip⟩, follows "in" members,
    conjoins indecisive ⟨"zip", zip⟩⟩

/-- A pattern with the built-in format beside it. -/
def patternBesideAddress : OrderedMap String Value :=
  .ofList [("regex", .str "@"), ("email", .bool true)]

/-- A pattern hides the format beside it: the object accepts a text that the format refuses. -/
theorem not_conjoined_patternBesideAddress :
    Enabled .builtin "format" patternBesideAddress "regex" ∧
      Enabled .builtin "format" patternBesideAddress "email" ∧
      ¬ Conjoined .builtin (.parse "user.contact") "format" patternBesideAddress
        (.str "porky@pig") .empty := by
  have compiled : Pattern.compile? "@" = some ⟨"@", .oneOf (.single '@')⟩ := by decide +kernel
  have accepted : verdictAlone? .builtin (.parse "user.contact") "format"
      (.obj patternBesideAddress.entries) (.str "porky@pig") .empty = some true := by
    decide +kernel
  have refused : verdictAlone? .builtin (.parse "user.contact") "format"
      (.obj (patternBesideAddress.only "email").entries) (.str "porky@pig") .empty =
        some false := by
    decide +kernel
  have address : Enabled .builtin "format" patternBesideAddress "email" :=
    .builtin "email" rfl (by decide) rfl
  refine ⟨.format (.str "@") _ rfl (.text "@" _ compiled), address, ?_⟩
  rintro ⟨holds, verdict, conjoins⟩
  have positive : holds = true := Option.some.inj (verdict.symm.trans accepted)
  cases refused.symm.trans (conjoins.mp positive "email" address)

end CompiledField

end FormValidity
