import FormValidity.Predicate.Builtin
import FormValidity.Proofs.Pattern.Language
import FormValidity.Proofs.Pattern.Removal

/-! # Numerals

Which texts are numerals is said without expressions (`Format.IsInteger`, `Format.IsDecimal`). The
predicate `numericality` first takes the matches of a pattern out of a text and then accepts exactly
the numerals (`Predicate.numericality_decides`).
-/

namespace FormValidity

namespace Format

/-- One or more decimal digits. -/
def IsDigitRun (text : List Char) : Prop := text ≠ [] ∧ ∀ c ∈ text, Unicode.isDecimalDigit c

/-- At most one sign. -/
def IsSign (text : List Char) : Prop := text = [] ∨ text = ['+'] ∨ text = ['-']

/-- Digits with an optional fraction, or a fraction alone. -/
def IsMagnitude (text : List Char) : Prop :=
  IsDigitRun text ∨
    (∃ digits fraction, IsDigitRun digits ∧ IsDigitRun fraction ∧
      text = digits ++ '.' :: fraction) ∨
    ∃ fraction, IsDigitRun fraction ∧ text = '.' :: fraction

/-- An optional sign and digits. -/
def IsInteger (text : List Char) : Prop :=
  ∃ sign digits, IsSign sign ∧ IsDigitRun digits ∧ text = sign ++ digits

/-- An optional sign and a magnitude. -/
def IsDecimal (text : List Char) : Prop :=
  ∃ sign magnitude, IsSign sign ∧ IsMagnitude magnitude ∧ text = sign ++ magnitude

/-- Every integer is a decimal numeral. -/
theorem IsInteger.isDecimal {text : List Char} (integer : IsInteger text) : IsDecimal text := by
  obtain ⟨sign, digits, signed, run, rfl⟩ := integer
  exact ⟨sign, digits, signed, Or.inl run, rfl⟩

/-- The empty text is no numeral. -/
theorem not_isDecimal_nil : ¬ IsDecimal [] := by
  rintro ⟨sign, magnitude, _, measured, joined⟩
  obtain ⟨_, rfl⟩ := List.append_eq_nil_iff.mp joined.symm
  rcases measured with ⟨nonempty, _⟩ | ⟨digits, fraction, _, _, split⟩ | ⟨fraction, _, split⟩
  · exact nonempty rfl
  · exact List.append_ne_nil_of_right_ne_nil digits (List.cons_ne_nil _ _) split.symm
  · exact List.cons_ne_nil _ _ split.symm

private theorem mem_language_digits {text : List Char} :
    text ∈ (some digit).language ↔ IsDigitRun text :=
  mem_language_some_oneOf_iff

private theorem mem_language_sign {text : List Char} : text ∈ sign.language ↔ IsSign text := by
  rw [sign, mem_language_maybe_iff, IsSign]
  refine or_congr_right ?_
  change (∃ c, (CharClass.unions _).contains c ∧ text = [c]) ↔ _
  simp only [contains_singles_iff, List.mem_cons, List.not_mem_nil, or_false, or_and_right,
    exists_or, exists_eq_left]

/-- The expression of integers matches integers. -/
theorem matchesIn_integer_iff {text : List Char} : integer.matchesIn text ↔ IsInteger text := by
  rw [integer, Expression.matchesIn_whole_iff rfl]
  simp only [Expression.mem_language_seq_iff, mem_language_sign, mem_language_digits]
  constructor
  · rintro ⟨sign, signed, digits, run, rfl⟩
    exact ⟨sign, digits, signed, run, rfl⟩
  · rintro ⟨sign, digits, signed, run, rfl⟩
    exact ⟨sign, signed, digits, run, rfl⟩

private theorem mem_language_alt_iff {first second : Expression} {text : List Char} :
    text ∈ Expression.language (.alt first second) ↔
      text ∈ first.language ∨ text ∈ second.language :=
  Language.mem_add _ _ _

private theorem mem_language_fraction {text : List Char} :
    text ∈ Expression.language (.seq (char '.') (some digit)) ↔
      ∃ fraction, IsDigitRun fraction ∧ text = '.' :: fraction := by
  simp only [Expression.mem_language_seq_iff, mem_language_char_iff, mem_language_digits,
    exists_eq_left, List.singleton_append, eq_comm]

private theorem mem_language_magnitude {text : List Char} :
    text ∈ Expression.language (.alt (.seq (some digit) (maybe (.seq (char '.') (some digit))))
      (.seq (char '.') (some digit))) ↔ IsMagnitude text := by
  rw [mem_language_alt_iff, mem_language_fraction, Expression.mem_language_seq_iff]
  simp only [mem_language_maybe_iff, mem_language_fraction, mem_language_digits]
  rw [IsMagnitude, ← or_assoc]
  refine or_congr_left ⟨?_, ?_⟩
  · rintro ⟨digits, run, _, rfl | ⟨fraction, more, rfl⟩, rfl⟩
    · exact Or.inl (by rwa [List.append_nil])
    · exact Or.inr ⟨digits, fraction, run, more, rfl⟩
  · rintro (run | ⟨digits, fraction, run, more, rfl⟩)
    · exact ⟨text, run, [], Or.inl rfl, List.append_nil text⟩
    · exact ⟨digits, run, _, Or.inr ⟨fraction, more, rfl⟩, rfl⟩

/-- The expression of numbers matches decimal numerals. -/
theorem matchesIn_number_iff {text : List Char} : number.matchesIn text ↔ IsDecimal text := by
  rw [number, Expression.matchesIn_whole_iff rfl, Expression.mem_language_seq_iff]
  simp only [mem_language_sign, mem_language_magnitude]
  constructor
  · rintro ⟨sign, signed, magnitude, measured, rfl⟩
    exact ⟨sign, magnitude, signed, measured, rfl⟩
  · rintro ⟨sign, magnitude, signed, measured, rfl⟩
    exact ⟨sign, signed, magnitude, measured, rfl⟩

end Format

/-- What a rule leaves of a text to be read as a numeral. -/
def NumericRule.remainder (rule : NumericRule) (text : String) : List Char :=
  match rule.ignore with
  | some pattern => pattern.remove text
  | none => text.toList

namespace Predicate

variable {rule : NumericRule} {text : String}

/-- A text is numeric exactly if what a rule leaves of it is a numeral. -/
theorem isNumeric_str_iff :
    isNumeric rule (.str text) ↔
      if rule.onlyInteger then Format.IsInteger (rule.remainder text)
      else Format.IsDecimal (rule.remainder text) := by
  change (if rule.onlyInteger then Format.integer else Format.number).matchesIn
    (rule.remainder text) = true ↔ _
  split
  · exact Format.matchesIn_integer_iff
  · exact Format.matchesIn_number_iff

/-- What is numeric as an integer is so as a number. -/
theorem isNumeric_of_onlyInteger {value : Value}
    (holds : isNumeric { rule with onlyInteger := true } value) :
    isNumeric { rule with onlyInteger := false } value := by
  cases value with
  | num n => rfl
  | str text =>
      have integer : Format.IsInteger _ := isNumeric_str_iff.mp holds
      exact isNumeric_str_iff.mpr integer.isDecimal
  | null => cases holds
  | bool b => cases holds
  | arr items => cases holds
  | obj entries => cases holds

/-- A text of which nothing is left is not numeric. -/
theorem not_isNumeric_str_of_remainder_nil (empty : rule.remainder text = []) :
    isNumeric rule (.str text) = false := by
  rw [← Bool.not_eq_true, isNumeric_str_iff, empty]
  split
  · exact fun integer => Format.not_isDecimal_nil integer.isDecimal
  · exact Format.not_isDecimal_nil

/-- **`numericality` accepts exactly its grammar.** -/
theorem numericality_decides (rule : NumericRule) {value : Value} (present : value.isFalsy = false)
    (site : Site) :
    ∃ holds, numericality rule value site = .verdict holds ∧
      (∀ n, value = .num n → (holds = true ↔ rule.onlyInteger = false ∨ n.isInteger)) ∧
      (value = .bool true ∨ (∃ items, value = .arr items) ∨ (∃ entries, value = .obj entries) →
        holds = false) ∧
      (∀ text, value = .str text →
        (holds = true ↔
          if rule.onlyInteger then Format.IsInteger (rule.remainder text)
          else Format.IsDecimal (rule.remainder text)) ∧
        (rule.remainder text = [] → holds = false) ∧
        (rule.ignore = none → rule.remainder text = text.toList) ∧
        ∀ pattern, rule.ignore = some pattern →
          Stripped (pattern.expression.Matches text.toList) text.toList 0 (rule.remainder text) ∧
          ∀ left, Stripped (pattern.expression.Prefers text.toList) text.toList 0 left ↔
            left = rule.remainder text) ∧
      (rule.onlyInteger = true → holds = true →
        numericality { rule with onlyInteger := false } value site = .verdict true) := by
  have verdict (rule : NumericRule) :
      numericality rule value site = .verdict (isNumeric rule value) := by
    simp only [numericality, ofOptional, ofTest, present, Bool.false_or]
  refine ⟨isNumeric rule value, verdict rule, ?_, ?_, ?_, ?_⟩
  · rintro n rfl
    rw [isNumeric, Bool.or_eq_true, Bool.not_eq_true']
  · rintro (rfl | ⟨items, rfl⟩ | ⟨entries, rfl⟩) <;> rfl
  · rintro text rfl
    refine ⟨isNumeric_str_iff, not_isNumeric_str_of_remainder_nil, fun plain => ?_, ?_⟩
    · rw [NumericRule.remainder, plain]
    · intro pattern ignored
      rw [NumericRule.remainder, ignored]
      exact ⟨pattern.expression.stripped_removeMatches text.toList,
        fun left => Expression.stripped_prefers_iff⟩
  · intro onlyInteger holds
    have same : { rule with onlyInteger := true } = rule := by rw [← onlyInteger]
    rw [verdict, isNumeric_of_onlyInteger (same ▸ holds)]

/-- A rule that takes the commas out reads a numeral with separators. -/
theorem numericality_decides_separators :
    let commas : Pattern := ⟨",", .oneOf (.single ',')⟩
    let rule : NumericRule := { ignore := some commas, onlyInteger := true }
    Pattern.compile? "," = some commas ∧ (Value.str "-1,234").isFalsy = false ∧
      rule.remainder "-1,234" = ['-', '1', '2', '3', '4'] ∧
      ∀ site, numericality rule (.str "-1,234") site = .verdict true := by
  intro commas rule
  have present : (Value.str "-1,234").isFalsy = false := by decide +kernel
  have removed : rule.remainder "-1,234" = ['-', '1', '2', '3', '4'] := by decide +kernel
  have digits : ['1', '2', '3', '4'].all Unicode.isDecimalDigit := by decide
  have integer : Format.IsInteger ['-', '1', '2', '3', '4'] :=
    ⟨['-'], ['1', '2', '3', '4'], Or.inr (Or.inr rfl), ⟨by decide, List.all_eq_true.mp digits⟩, rfl⟩
  refine ⟨by decide +kernel, present, removed, fun site => ?_⟩
  obtain ⟨holds, verdict, _, _, texts, _⟩ := numericality_decides rule present site
  obtain ⟨accepted, _⟩ := texts "-1,234" rfl
  rw [removed] at accepted
  rw [verdict, accepted.mpr integer]

end Predicate

end FormValidity
