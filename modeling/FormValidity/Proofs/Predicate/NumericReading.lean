import FormValidity.Proofs.Predicate.Format
import FormValidity.Proofs.Predicate.Numeral
import FormValidity.Proofs.Value.LooseEq
import Mathlib.Data.List.TakeWhile

/-! # Numerals and their numeric readings

The digits of a numeral are the decimal digits of any script, but a numeric reading knows the ten of
ASCII only. So a numeral has a numeric reading exactly if it is written with these
(`Value.isSome_number?_iff`). A numeral with other digits passes `numericality` and yet equals no
number: it is refused by a set of members that holds its number, and passes a set of others that
holds it (`Predicate.unread_arabicFive`).
-/

namespace FormValidity

namespace Unicode

variable {c : Char}

/-- A decimal digit is one of ASCII or stands far behind. -/
theorem isDigit_or_le_of_isDecimalDigit (digit : isDecimalDigit c) :
    c.isDigit ∨ 0x660 ≤ c.toNat := by
  obtain ⟨start, member, within⟩ := List.any_eq_true.mp digit
  have starts : ∀ start ∈ digitZeros, start = 0x30 ∨ 0x660 ≤ start := by decide
  simp only [Bool.and_eq_true, decide_eq_true_eq] at within
  rw [isDigit_iff]
  have first := starts start member
  omega

private theorem ne_of_isDecimalDigit (digit : isDecimalDigit c) {other : Char}
    (differs : ¬ isDecimalDigit other) : c ≠ other :=
  fun same => differs (same ▸ digit)

private theorem toLower_of_isDecimalDigit (digit : isDecimalDigit c) : c.toLower = c := by
  have noLetter : ¬ (65 ≤ c.toNat ∧ c.toNat ≤ 90) := by
    rcases isDigit_or_le_of_isDecimalDigit digit with ascii | foreign
    · have bounds := isDigit_iff.mp ascii
      omega
    · omega
  exact dif_neg noLetter

private theorem trim_of_not_white {text : List Char} (noBlank : ∀ c ∈ text, ¬ isWhiteSpace c) :
    trim text = text := by
  have whole (part : List Char) (inside : ∀ c ∈ part, c ∈ text) :
      part.dropWhile isWhiteSpace = part := by
    cases part with
    | nil => rfl
    | cons c rest =>
        exact List.dropWhile_cons_of_neg (noBlank c (inside c List.mem_cons_self))
  rw [trim, whole text fun _ => id, whole text.reverse fun _ => List.mem_reverse.mp,
    List.reverse_reverse]

end Unicode

namespace Format

/-- Every decimal digit of a text is one of ASCII. -/
def HasAsciiDigits (text : List Char) : Prop := ∀ c ∈ text, Unicode.isDecimalDigit c → c.isDigit

private theorem hasAsciiDigits_iff {run : List Char}
    (decimal : ∀ c ∈ run, Unicode.isDecimalDigit c) :
    HasAsciiDigits run ↔ ∀ c ∈ run, c.isDigit :=
  forall₂_congr fun c member => imp_iff_right (decimal c member)

private theorem hasAsciiDigits_append_iff {first second : List Char} :
    HasAsciiDigits (first ++ second) ↔ HasAsciiDigits first ∧ HasAsciiDigits second :=
  List.forall_mem_append

private theorem hasAsciiDigits_cons_iff {c : Char} (other : ¬ Unicode.isDecimalDigit c)
    {text : List Char} : HasAsciiDigits (c :: text) ↔ HasAsciiDigits text :=
  List.forall_mem_cons.trans (and_iff_right fun digit => (other digit).elim)

/-- A run of decimal digits with one that is none of ASCII goes on with ASCII digits up to it. -/
theorem exists_foreign {run : List Char} (decimal : ∀ c ∈ run, Unicode.isDecimalDigit c)
    (mixed : ¬ ∀ c ∈ run, c.isDigit) :
    ∃ digits c rest, run = digits ++ c :: rest ∧ (∀ d ∈ digits, d.isDigit) ∧
      Unicode.isDecimalDigit c ∧ ¬ c.isDigit := by
  have remains : run.dropWhile Char.isDigit ≠ [] := mt List.dropWhile_eq_nil_iff.mp mixed
  obtain ⟨c, rest, dropped⟩ := List.exists_cons_of_ne_nil remains
  have split : run = run.takeWhile Char.isDigit ++ c :: rest := by
    rw [← dropped, List.takeWhile_append_dropWhile]
  have stops := List.head?_dropWhile_not Char.isDigit run
  rw [dropped] at stops
  have member : c ∈ run := by
    rw [split]
    exact List.mem_append_right _ List.mem_cons_self
  exact ⟨_, c, rest, split, fun d => List.mem_takeWhile_imp, decimal c member,
    Bool.not_eq_true _ ▸ stops⟩

section Characters

variable {text : List Char}

/-- A magnitude has digits and a point. -/
theorem IsMagnitude.mem_cases (measured : IsMagnitude text) {c : Char} (member : c ∈ text) :
    Unicode.isDecimalDigit c ∨ c = '.' := by
  rcases measured with run | ⟨digits, fraction, run, more, rfl⟩ | ⟨fraction, more, rfl⟩
  · exact Or.inl (run.2 c member)
  · rcases List.mem_append.mp member with first | second
    · exact Or.inl (run.2 c first)
    · exact (List.mem_cons.mp second).symm.imp_left (more.2 c)
  · exact (List.mem_cons.mp member).symm.imp_left (more.2 c)

/-- A numeral has no white space. -/
theorem IsDecimal.not_isWhiteSpace (decimal : IsDecimal text) {c : Char} (member : c ∈ text) :
    ¬ Unicode.isWhiteSpace c := by
  obtain ⟨sign, magnitude, signed, measured, rfl⟩ := decimal
  rcases List.mem_append.mp member with first | second
  · rcases signed with rfl | rfl | rfl
    · cases first
    · cases List.mem_singleton.mp first
      decide
    · cases List.mem_singleton.mp first
      decide
  · rcases measured.mem_cases second with digit | rfl
    · exact fun blank => Unicode.not_isDecimalDigit_of_isWhiteSpace blank digit
    · decide

end Characters

end Format

namespace Binary64

section Unsigned

variable {digits fraction : List Char} {c : Char}

private theorem readExponent?_of_isDecimalDigit (digit : Unicode.isDecimalDigit c)
    (rest : List Char) :
    readExponent? (c :: rest) = none := by
  have noMark : ¬ (c = 'e' ∨ c = 'E') := not_or.mpr
    ⟨Unicode.ne_of_isDecimalDigit digit (by decide), Unicode.ne_of_isDecimalDigit digit (by decide)⟩
  unfold readExponent?
  simp only [noMark, false_and, ↓reduceIte]

variable (ascii : ∀ d ∈ digits, d.isDigit)
include ascii

private theorem takeWhile_isDigit_append (stop : ¬ c.isDigit) (rest : List Char) :
    (digits ++ c :: rest).takeWhile Char.isDigit = digits := by
  rw [List.takeWhile_append_of_pos ascii, List.takeWhile_cons_of_neg stop, List.append_nil]

private theorem dropWhile_isDigit_append (stop : ¬ c.isDigit) (rest : List Char) :
    (digits ++ c :: rest).dropWhile Char.isDigit = c :: rest := by
  rw [List.dropWhile_append_of_pos ascii, List.dropWhile_cons_of_neg stop]

private theorem isSome_readUnsigned?_digits (nonempty : digits ≠ []) (negative : Bool) :
    (readUnsigned? negative digits).isSome := by
  have taken := List.takeWhile_eq_self_iff.mpr ascii
  have dropped := List.dropWhile_eq_nil_iff.mpr ascii
  simp only [readUnsigned?, taken, dropped, nonempty, false_and, ↓reduceIte, readExponent?,
    Option.map_some, Option.isSome_some]

/-- Reading stops at a digit of another script, and what is left is no exponent. -/
theorem readUnsigned?_digits_foreign (digit : Unicode.isDecimalDigit c) (foreign : ¬ c.isDigit)
    (negative : Bool) (rest : List Char) :
    readUnsigned? negative (digits ++ c :: rest) = none := by
  unfold readUnsigned?
  simp only [takeWhile_isDigit_append ascii foreign, dropWhile_isDigit_append ascii foreign]
  split
  · next point =>
      have same : c = '.' := (List.cons.inj point).1
      exact (Unicode.ne_of_isDecimalDigit digit (by decide) same).elim
  · split
    · rfl
    · rw [readExponent?_of_isDecimalDigit digit, Option.map_none]

private theorem isSome_readUnsigned?_point (more : ∀ d ∈ fraction, d.isDigit)
    (nonempty : fraction ≠ [])
    (negative : Bool) : (readUnsigned? negative (digits ++ '.' :: fraction)).isSome := by
  have point : ¬ '.'.isDigit := by decide
  have taken := List.takeWhile_eq_self_iff.mpr more
  have dropped := List.dropWhile_eq_nil_iff.mpr more
  unfold readUnsigned?
  simp only [takeWhile_isDigit_append ascii point, dropWhile_isDigit_append ascii point, taken,
    dropped, nonempty, and_false, ↓reduceIte, readExponent?, Option.map_some, Option.isSome_some]

private theorem readUnsigned?_point_foreign (more : ∀ d ∈ fraction, d.isDigit)
    (digit : Unicode.isDecimalDigit c) (foreign : ¬ c.isDigit) (negative : Bool)
    (rest : List Char) :
    readUnsigned? negative (digits ++ '.' :: (fraction ++ c :: rest)) = none := by
  have point : ¬ '.'.isDigit := by decide
  unfold readUnsigned?
  simp only [takeWhile_isDigit_append ascii point, dropWhile_isDigit_append ascii point,
    takeWhile_isDigit_append more foreign, dropWhile_isDigit_append more foreign,
    readExponent?_of_isDecimalDigit digit, Option.map_none, ite_self]

end Unsigned

section Magnitude

variable (negative : Bool) {digits fraction magnitude : List Char}

private theorem isSome_readUnsigned?_run_iff (run : Format.IsDigitRun digits) :
    (readUnsigned? negative digits).isSome ↔ Format.HasAsciiDigits digits := by
  obtain ⟨nonempty, decimal⟩ := run
  rw [Format.hasAsciiDigits_iff decimal]
  by_cases ascii : ∀ c ∈ digits, c.isDigit
  · exact iff_of_true (isSome_readUnsigned?_digits ascii nonempty negative) ascii
  · obtain ⟨known, c, rest, rfl, before, digit, foreign⟩ := Format.exists_foreign decimal ascii
    rw [readUnsigned?_digits_foreign before digit foreign]
    exact iff_of_false (by decide) ascii

private theorem isSome_readUnsigned?_point_iff (decimal : ∀ c ∈ digits, Unicode.isDecimalDigit c)
    (run : Format.IsDigitRun fraction) :
    (readUnsigned? negative (digits ++ '.' :: fraction)).isSome ↔
      Format.HasAsciiDigits (digits ++ '.' :: fraction) := by
  obtain ⟨nonempty, more⟩ := run
  rw [Format.hasAsciiDigits_append_iff, Format.hasAsciiDigits_cons_iff (by decide),
    Format.hasAsciiDigits_iff decimal, Format.hasAsciiDigits_iff more]
  by_cases ascii : ∀ c ∈ digits, c.isDigit
  · by_cases asciiToo : ∀ c ∈ fraction, c.isDigit
    · exact iff_of_true (isSome_readUnsigned?_point ascii asciiToo nonempty negative)
        ⟨ascii, asciiToo⟩
    · obtain ⟨known, c, rest, rfl, before, digit, foreign⟩ := Format.exists_foreign more asciiToo
      rw [readUnsigned?_point_foreign ascii before digit foreign]
      exact iff_of_false (by decide) fun both => asciiToo both.2
  · obtain ⟨known, c, rest, rfl, before, digit, foreign⟩ := Format.exists_foreign decimal ascii
    rw [List.append_assoc, List.cons_append, readUnsigned?_digits_foreign before digit foreign]
    exact iff_of_false (by decide) fun both => ascii both.1

/-- An unsigned numeral is read exactly if all its digits are those of ASCII. -/
theorem isSome_readUnsigned?_iff (measured : Format.IsMagnitude magnitude) :
    (readUnsigned? negative magnitude).isSome ↔ Format.HasAsciiDigits magnitude := by
  rcases measured with run | ⟨digits, fraction, run, more, rfl⟩ | ⟨fraction, more, rfl⟩
  · exact isSome_readUnsigned?_run_iff negative run
  · exact isSome_readUnsigned?_point_iff negative run.2 more
  · exact isSome_readUnsigned?_point_iff negative (List.forall_mem_nil _) more

/-- A magnitude begins with a digit or with the point. -/
theorem exists_cons_of_isMagnitude (measured : Format.IsMagnitude magnitude) :
    ∃ c rest, magnitude = c :: rest ∧ (Unicode.isDecimalDigit c ∨ c = '.') := by
  have nonempty : magnitude ≠ [] := by
    rintro rfl
    exact Format.not_isDecimal_nil ⟨[], [], Or.inl rfl, measured, rfl⟩
  obtain ⟨c, rest, rfl⟩ := List.exists_cons_of_ne_nil nonempty
  exact ⟨c, rest, rfl, measured.mem_cases List.mem_cons_self⟩

private theorem toLower_leading {c : Char} (leading : Unicode.isDecimalDigit c ∨ c = '.') :
    c.toLower ≠ 'i' ∧ c.toLower ≠ 'n' := by
  rcases leading with digit | rfl
  · rw [Unicode.toLower_of_isDecimalDigit digit]
    exact ⟨Unicode.ne_of_isDecimalDigit digit (by decide),
      Unicode.ne_of_isDecimalDigit digit (by decide)⟩
  · decide

private theorem exists_takeSign {sign : List Char} (signed : Format.IsSign sign)
    (measured : Format.IsMagnitude magnitude) :
    ∃ negative, takeSign (sign ++ magnitude) = (negative, magnitude) := by
  obtain ⟨c, rest, rfl, leading⟩ := exists_cons_of_isMagnitude measured
  rcases signed with rfl | rfl | rfl
  · refine ⟨false, ?_⟩
    rw [List.nil_append]
    unfold takeSign
    split
    · next minus =>
        cases minus
        exact absurd leading (by decide)
    · next plus =>
        cases plus
        exact absurd leading (by decide)
    · rfl
  · exact ⟨false, rfl⟩
  · exact ⟨true, rfl⟩

/-- A magnitude is none of the words for infinity and for what is no number. -/
theorem read?_of_isMagnitude (measured : Format.IsMagnitude magnitude) {text : List Char}
    (taken : takeSign text = (negative, magnitude)) :
    read? text = readUnsigned? negative magnitude := by
  obtain ⟨c, rest, rfl, leading⟩ := exists_cons_of_isMagnitude measured
  obtain ⟨notI, notN⟩ := toLower_leading leading
  simp only [read?, taken, List.map_cons, List.cons.injEq, notI, notN, false_and, or_self,
    ↓reduceIte]

end Magnitude

/-- A numeral is read exactly if all its digits are those of ASCII. -/
theorem isSome_read?_iff {text : List Char} (decimal : Format.IsDecimal text) :
    (read? text).isSome ↔ Format.HasAsciiDigits text := by
  obtain ⟨sign, magnitude, signed, measured, rfl⟩ := decimal
  obtain ⟨negative, taken⟩ := exists_takeSign signed measured
  have noDigit : Format.HasAsciiDigits sign := by
    rcases signed with rfl | rfl | rfl
    · exact List.forall_mem_nil _
    · exact List.forall_mem_singleton.mpr (by decide)
    · exact List.forall_mem_singleton.mpr (by decide)
  rw [read?_of_isMagnitude negative measured taken, isSome_readUnsigned?_iff negative measured,
    Format.hasAsciiDigits_append_iff, and_iff_right noDigit]

end Binary64

namespace Value

variable {text : String}

/-- A numeral has a numeric reading exactly if all its digits are those of ASCII. -/
theorem isSome_number?_iff (decimal : Format.IsDecimal text.toList) :
    (Value.str text).number?.isSome ↔ Format.HasAsciiDigits text.toList := by
  have trimmed : Unicode.trim text.toList = text.toList :=
    Unicode.trim_of_not_white fun _ => decimal.not_isWhiteSpace
  have nonempty : text.toList ≠ [] := fun nothing => Format.not_isDecimal_nil (nothing ▸ decimal)
  rw [← Binary64.isSome_read?_iff decimal]
  change (textNumber? text).isSome ↔ _
  unfold textNumber?
  rw [trimmed]
  split
  · next nothing => exact (nonempty nothing).elim
  · rfl

/-- A boolean or a number. -/
def IsNumeric (value : Value) : Prop := value.isScalar ∧ value.isText = false

private theorem looseEq_str_of_isNumeric {other : Value} (numeric : other.IsNumeric) :
    (Value.str text).looseEq other = sameNumber (.str text) other := by
  obtain ⟨scalar, noText⟩ := numeric
  rw [looseEq_eq, scalar, noText]
  rfl

end Value

namespace Predicate

/-- A text that is accepted as numeric is a decimal numeral. -/
theorem isDecimal_of_numericality {rule : NumericRule} (plain : rule.ignore = none) {text : String}
    (nonempty : text ≠ "") {site : Site}
    (accepted : numericality rule (.str text) site = .verdict true) :
    Format.IsDecimal text.toList := by
  have present : (Value.str text).isFalsy = false := by
    change text.isEmpty = false
    rwa [Bool.eq_false_iff, ne_eq, String.isEmpty_iff]
  have numeral : isNumeric rule (.str text) = true := by
    simpa only [numericality, ofOptional, ofTest, present, Bool.false_or,
      Outcome.verdict.injEq] using accepted
  have whole : rule.remainder text = text.toList := by rw [NumericRule.remainder, plain]
  rw [isNumeric_str_iff, whole] at numeral
  split at numeral
  · exact numeral.isDecimal
  · exact numeral

/-- **A numeral has a numeric reading exactly if it is written with the digits of ASCII.** Then it
is compared with numbers and booleans by this reading. A numeral with a digit of another script is
accepted as well, but it has no reading and equals no number and no boolean. -/
theorem numericality_reads {rule : NumericRule} (plain : rule.ignore = none) {text : String}
    (nonempty : text ≠ "") {site : Site}
    (accepted : numericality rule (.str text) site = .verdict true) :
    ((Value.str text).number?.isSome ↔ Format.HasAsciiDigits text.toList) ∧
    (∀ x, (Value.str text).number? = some x → ∀ other : Value, other.IsNumeric →
      ((Value.str text).looseEq other ↔ ∃ y, other.number? = some y ∧ x.numEq y)) ∧
    (¬ Format.HasAsciiDigits text.toList → ∀ other : Value, other.IsNumeric →
      (Value.str text).looseEq other = false) := by
  have decimal := isDecimal_of_numericality plain nonempty accepted
  have reads := Value.isSome_number?_iff decimal
  refine ⟨reads, fun x read other numeric => ?_, fun foreign other numeric => ?_⟩
  · rw [Value.looseEq_str_of_isNumeric numeric, Value.sameNumber_iff, read]
    simp only [Option.some.injEq, exists_and_left, exists_eq_left']
  · rw [Value.looseEq_str_of_isNumeric numeric, Value.sameNumber]
    have unread : (Value.str text).number? = none := by
      rw [← Option.not_isSome_iff_eq_none, reads]
      exact foreign
    rw [unread]

/-- The digit five of another script is accepted as a number, and it is neither among the members of
a set that holds five nor excluded by that set. -/
theorem unread_arabicFive (site : Site) :
    let five : Value := .num (.integer 5)
    let written : Value := .str "\u0665"
    numericality {} written site = .verdict true ∧
      numericality { onlyInteger := true } written site = .verdict true ∧
      written.number? = none ∧ written.looseEq five = false ∧
      inclusion [five] written site = .verdict false ∧
      exclusion [five] written site = .verdict true ∧
      inclusion [five] (.str "5") site = .verdict true := by
  intro five written
  have present : written.isFalsy = false := by decide +kernel
  have number : isNumeric {} written = true := by decide +kernel
  have integer : isNumeric { onlyInteger := true } written = true := by decide +kernel
  have unread : written.number? = none := by decide +kernel
  have unequal : written.looseEq five = false := by decide +kernel
  have missing : [five].any (·.looseEq written) = false := by decide +kernel
  have found : [five].any (·.looseEq (.str "5")) = true := by decide +kernel
  simp only [numericality, inclusion, exclusion, ofOptional, ofTest, present, number, integer,
    missing, found, Bool.false_or, Bool.or_true, Bool.not_false]
  exact ⟨trivial, trivial, unread, unequal, trivial, trivial, trivial⟩

end Predicate

end FormValidity
