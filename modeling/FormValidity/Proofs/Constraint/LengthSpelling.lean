import FormValidity.Proofs.Constraint.Decoding
import FormValidity.Proofs.Schema.Entrywise

/-! # Spellings of a length

A pair of bounds can be written as a range or with a key for each bound, and an exact length as such
or as a range with two equal ends. The spellings that are accepted admit the same lengths. A range
has to ascend, which the bounds by key need not (`LengthRule.not_agree_fallingBounds`), so a range
is accepted exactly if the bounds are and do not fall (`LengthRule.spellings_agree`).
-/

namespace FormValidity

/-- How long a value is: the number of elements of a collection, or of characters in the text of a
scalar. -/
inductive Value.HasLength : Value → Nat → Prop where
  | items (items : List Value) : HasLength (.arr items) items.length
  | entries (entries : List (String × Value)) : HasLength (.obj entries) entries.length
  | scalar (value : Value) (text : String) (told : value.text? = some text) :
      HasLength value text.toList.length

private theorem Value.length_of_text {value : Value} {text : String}
    (told : value.text? = some text) :
    value.length = text.toList.length := by
  cases value with
  | arr items => cases told
  | obj entries => cases told
  | _ => rw [length, told, Option.map_some, Option.getD_some, String.length_toList] <;> nofun

private theorem Value.hasLength_iff {value : Value} {size : Nat} :
    value.HasLength size ↔ value.length = size := by
  constructor
  · intro measured
    cases measured with
    | items items => rfl
    | entries entries => rfl
    | scalar _ text told => exact length_of_text told
  · rintro rfl
    cases told : value.text? with
    | some text => exact length_of_text told ▸ .scalar value text told
    | none =>
        cases value with
        | arr items => exact .items items
        | obj entries => exact .entries entries
        | bool b => cases b <;> cases told
        | _ => cases told

private theorem Value.natural_injective : Function.Injective Value.natural := by
  intro first second same
  exact Int.ofNat.inj (Number.integer.inj (num.inj same))

namespace LengthRule

/-- A range. -/
def rangeSpelling (low high : Value) : Value := .obj [("in", .arr [low, high])]

/-- Two bounds, each under its own key. -/
def boundsSpelling (low high : Value) : Value := .obj [("min", low), ("max", high)]

/-- An exact length. -/
def exactSpelling (length : Value) : Value := .obj [("is", length)]

/-- The decoder accepts a value as the rule of a length. -/
def Accepted (registry : Registry) (raw : Value) : Prop :=
  ∃ constraint, Constraint.decode registry "length" raw = .ok constraint

/-- Two bounds do not fall. -/
def Ascends (low high : Value) : Prop :=
  ∀ least greatest, low = .natural least → high = .natural greatest → least ≤ greatest

/-- Whether the length of a value lies between two bounds. A falsy value is not measured. -/
def Admits (least greatest : Nat) (value : Value) : Prop :=
  value.isFalsy ∨ ∃ size, value.HasLength size ∧ least ≤ size ∧ size ≤ greatest

section Written

variable {rule : LengthRule} {low high length : Value}

private theorem written_range_iff :
    rule.Written [("in", .arr [low, high])] ↔ ∃ least greatest, low = .natural least ∧
      high = .natural greatest ∧ least ≤ greatest ∧ rule = .range least greatest := by
  constructor
  · intro written
    cases written with
    | range least greatest given ascends =>
        cases given
        exact ⟨least, greatest, rfl, rfl, ascends, rfl⟩
    | exact _ noRange => cases noRange
    | bounds _ _ noRange => cases noRange
  · rintro ⟨least, greatest, rfl, rfl, ascends, rfl⟩
    exact .range least greatest rfl ascends

private theorem written_bounds_iff :
    rule.Written [("min", low), ("max", high)] ↔ ∃ least greatest, low = .natural least ∧
      high = .natural greatest ∧ rule = .bounds (some least) (some greatest) := by
  constructor
  · intro written
    cases written with
    | range _ _ given => cases given
    | exact _ _ given => cases given
    | bounds _ _ _ _ min max =>
        obtain ⟨least, rfl, rfl⟩ := Option.map_eq_some_iff.mp min.symm
        obtain ⟨greatest, rfl, rfl⟩ := Option.map_eq_some_iff.mp max.symm
        exact ⟨least, greatest, rfl, rfl, rfl⟩
  · rintro ⟨least, greatest, rfl, rfl, rfl⟩
    exact .bounds (some least) (some greatest) rfl rfl rfl rfl (Or.inl nofun)

private theorem written_exact_iff :
    rule.Written [("is", length)] ↔ ∃ size, length = .natural size ∧ rule = .exact size := by
  constructor
  · intro written
    cases written with
    | range _ _ given => cases given
    | exact size _ given =>
        cases given
        exact ⟨size, rfl, rfl⟩
    | bounds _ _ _ noLength => cases noLength
  · rintro ⟨size, rfl, rfl⟩
    exact .exact size rfl rfl

end Written

/-- A mapping is accepted as a length exactly if it is written as a rule. -/
theorem accepted_iff {registry : Registry} {entries : List (String × Value)} :
    Accepted registry (.obj entries) ↔ ∃ rule : LengthRule, rule.Written entries := by
  constructor
  · rintro ⟨constraint, decoded⟩
    cases Constraint.written_of_decode decoded with
    | modifier _ modifier written =>
        cases written with
        | length rule _ written => exact ⟨rule, written⟩
        | numericality _ ofNumber => exact absurd ofNumber (by decide)
        | selection _ noLength => exact (noLength rfl).elim
  · rintro ⟨rule, written⟩
    exact ⟨_, Constraint.decode_of_written (.modifier entries _ (.length rule rfl written))⟩

section Acceptance

variable {registry : Registry} {low high length : Value}

/-- A range is accepted exactly if its bounds are numbers that do not descend. -/
theorem accepted_range_iff :
    Accepted registry (rangeSpelling low high) ↔ ∃ least greatest, low = .natural least ∧
      high = .natural greatest ∧ least ≤ greatest := by
  simp only [rangeSpelling, accepted_iff, written_range_iff]
  constructor
  · rintro ⟨_, least, greatest, lowest, highest, ascends, -⟩
    exact ⟨least, greatest, lowest, highest, ascends⟩
  · rintro ⟨least, greatest, lowest, highest, ascends⟩
    exact ⟨_, least, greatest, lowest, highest, ascends, rfl⟩

/-- Two bounds are accepted exactly if they are numbers. -/
theorem accepted_bounds_iff :
    Accepted registry (boundsSpelling low high) ↔
      ∃ least greatest, low = .natural least ∧ high = .natural greatest := by
  simp only [boundsSpelling, accepted_iff, written_bounds_iff]
  constructor
  · rintro ⟨_, least, greatest, lowest, highest, -⟩
    exact ⟨least, greatest, lowest, highest⟩
  · rintro ⟨least, greatest, lowest, highest⟩
    exact ⟨_, least, greatest, lowest, highest, rfl⟩

/-- An exact length is accepted exactly if it is a number. -/
theorem accepted_exact_iff :
    Accepted registry (exactSpelling length) ↔ ∃ size, length = .natural size := by
  simp only [exactSpelling, accepted_iff, written_exact_iff]
  constructor
  · rintro ⟨_, size, exactly, -⟩
    exact ⟨size, exactly⟩
  · rintro ⟨size, exactly⟩
    exact ⟨_, size, exactly, rfl⟩

/-- A range asks for more than its bounds: they must not fall. -/
theorem accepted_range_iff_bounds :
    Accepted registry (rangeSpelling low high) ↔
      Accepted registry (boundsSpelling low high) ∧ Ascends low high := by
  rw [accepted_range_iff, accepted_bounds_iff]
  constructor
  · rintro ⟨least, greatest, rfl, rfl, ascends⟩
    refine ⟨⟨least, greatest, rfl, rfl⟩, fun lowest highest same other => ?_⟩
    rwa [← Value.natural_injective same, ← Value.natural_injective other]
  · rintro ⟨⟨least, greatest, lowest, highest⟩, ascends⟩
    exact ⟨least, greatest, lowest, highest, ascends least greatest lowest highest⟩

/-- An exact length is accepted exactly if the range from it to itself is. -/
theorem accepted_exact_iff_range :
    Accepted registry (exactSpelling length) ↔
      Accepted registry (rangeSpelling length length) := by
  rw [accepted_exact_iff, accepted_range_iff]
  constructor
  · rintro ⟨size, exactly⟩
    exact ⟨size, size, exactly, exactly, Nat.le_refl size⟩
  · rintro ⟨size, -, exactly, -⟩
    exact ⟨size, exactly⟩

end Acceptance

/-- The rule admits the lengths from one bound to another. -/
def Between (rule : LengthRule) (least greatest : Nat) : Prop :=
  ∀ size, rule.accepts size ↔ least ≤ size ∧ size ≤ greatest

private theorem between_range (least greatest : Nat) :
    (range least greatest).Between least greatest := by
  intro size
  simp only [accepts, Bool.and_eq_true, decide_eq_true_eq]

private theorem between_bounds (least greatest : Nat) :
    (bounds (some least) (some greatest)).Between least greatest := by
  intro size
  simp only [accepts, Option.all_some, Bool.and_eq_true, decide_eq_true_eq]

private theorem between_exact (length : Nat) : (exact length).Between length length := by
  intro size
  rw [accepts, beq_iff_eq, Nat.le_antisymm_iff, and_comm]

private theorem verdictAlone?_of_written {rule : LengthRule} {entries : List (String × Value)}
    (written : rule.Written entries) (registry : Registry) (path : FieldPath) (value : Value)
    (context : Context) :
    CompiledField.verdictAlone? registry path "length" (.obj entries) value context =
      some (value.isFalsy || rule.accepts value.length) := by
  rw [CompiledField.verdictAlone?_obj,
    Modifier.decodeModifier_of_written (.length rule rfl written)]
  rfl

/-- A rule between two bounds accepts what these admit. -/
theorem Between.admits_iff {rule : LengthRule} {least greatest : Nat}
    (between : rule.Between least greatest) (value : Value) :
    (value.isFalsy || rule.accepts value.length) = true ↔ Admits least greatest value := by
  rw [Bool.or_eq_true, between, Admits]
  simp only [Value.hasLength_iff, exists_eq_left']

/-- Rules that admit the same lengths have the same verdicts, however they are written. -/
theorem Between.verdicts_agree {rule other : LengthRule} {least greatest : Nat}
    (between : rule.Between least greatest) (other' : other.Between least greatest)
    {entries others : List (String × Value)} (written : rule.Written entries)
    (otherwise : other.Written others) (registry : Registry) (path : FieldPath) (value : Value)
    (context : Context) :
    ∃ holds,
      CompiledField.verdictAlone? registry path "length" (.obj entries) value context =
        some holds ∧
      CompiledField.verdictAlone? registry path "length" (.obj others) value context =
        some holds ∧
      (holds = true ↔ Admits least greatest value) := by
  refine ⟨_, verdictAlone?_of_written written registry path value context, ?_,
    between.admits_iff value⟩
  rw [verdictAlone?_of_written otherwise, Option.some.injEq, Bool.eq_iff_iff,
    other'.admits_iff, between.admits_iff]

/-- **The spellings of a length agree.** Natural numbers are accepted as bounds by key and as an
exact length. A range is accepted exactly if the same bounds are accepted by key and do not fall,
and an exact length exactly if the range from it to itself is. What is accepted admits the falsy
values and those whose length lies between the bounds, in either spelling. -/
theorem spellings_agree (registry : Registry) (path : FieldPath) (low high length : Value) :
    let verdict? := CompiledField.verdictAlone? registry path "length"
    (Accepted registry (boundsSpelling low high) ↔
      ∃ least greatest, low = .natural least ∧ high = .natural greatest) ∧
    (Accepted registry (exactSpelling length) ↔ ∃ size, length = .natural size) ∧
    (Accepted registry (rangeSpelling low high) ↔
      Accepted registry (boundsSpelling low high) ∧ Ascends low high) ∧
    (Accepted registry (exactSpelling length) ↔
      Accepted registry (rangeSpelling length length)) ∧
    (Accepted registry (rangeSpelling low high) → ∃ least greatest,
      low = .natural least ∧ high = .natural greatest ∧ ∀ value context, ∃ holds,
        verdict? (rangeSpelling low high) value context = some holds ∧
        verdict? (boundsSpelling low high) value context = some holds ∧
        (holds = true ↔ Admits least greatest value)) ∧
    (Accepted registry (exactSpelling length) → ∃ size,
      length = .natural size ∧ ∀ value context, ∃ holds,
        verdict? (exactSpelling length) value context = some holds ∧
        verdict? (rangeSpelling length length) value context = some holds ∧
        (holds = true ↔ Admits size size value)) := by
  intro verdict?
  refine ⟨accepted_bounds_iff, accepted_exact_iff, accepted_range_iff_bounds,
    accepted_exact_iff_range, fun accepted => ?_, fun accepted => ?_⟩
  · obtain ⟨least, greatest, lowest, highest, ascends⟩ := accepted_range_iff.mp accepted
    refine ⟨least, greatest, lowest, highest, fun value context => ?_⟩
    have range := written_range_iff.mpr ⟨least, greatest, lowest, highest, ascends, rfl⟩
    have bounds := written_bounds_iff.mpr ⟨least, greatest, lowest, highest, rfl⟩
    exact (between_range least greatest).verdicts_agree (between_bounds least greatest) range bounds
      registry path value context
  · obtain ⟨size, exactly⟩ := accepted_exact_iff.mp accepted
    refine ⟨size, exactly, fun value context => ?_⟩
    have exact' := written_exact_iff.mpr ⟨size, exactly, rfl⟩
    have range := written_range_iff.mpr ⟨size, size, exactly, exactly, Nat.le_refl size, rfl⟩
    exact (between_exact size).verdicts_agree (between_range size size) exact' range registry path
      value context

/-- Bounds by key may fall, and then they cannot be written as a range. -/
theorem not_agree_fallingBounds :
    ¬ (Accepted .builtin (rangeSpelling (.natural 4) (.natural 2)) ↔
      Accepted .builtin (boundsSpelling (.natural 4) (.natural 2))) := by
  intro agree
  have bounds : Accepted .builtin (boundsSpelling (.natural 4) (.natural 2)) := ⟨_, rfl⟩
  obtain ⟨constraint, decoded⟩ := agree.mpr bounds
  cases decoded

end LengthRule

end FormValidity
