import FormValidity.Proofs.Pattern.Language
import FormValidity.Proofs.Predicate.Reading

/-! # The built-in formats

Which texts are addresses and which are postal codes is said without expressions
(`Format.IsAddress`, `Format.IsPostalCode`). The domain of an address may contain dots, and so may
the part of it before its last label; since a label consists of letters, there is one way only to
cut a text into mailbox, host and label. The formats of the standard registry accept exactly these
texts (`Registry.builtin_formats_accept`).
-/

namespace FormValidity

namespace Unicode

/-- The code points of white space. -/
def whiteSpaces : List Nat :=
  [0x9, 0xA, 0xB, 0xC, 0xD, 0x20, 0x85, 0xA0, 0x1680, 0x2000, 0x2001, 0x2002, 0x2003, 0x2004,
    0x2005, 0x2006, 0x2007, 0x2008, 0x2009, 0x200A, 0x2028, 0x2029, 0x202F, 0x205F, 0x3000]

private theorem toNat_mem_whiteSpaces {c : Char} (blank : isWhiteSpace c) :
    c.toNat ∈ whiteSpaces := by
  simp only [isWhiteSpace, Bool.or_eq_true, Bool.and_eq_true, decide_eq_true_eq, beq_iff_eq]
    at blank
  simp only [whiteSpaces, List.mem_cons, List.not_mem_nil, or_false]
  omega

/-- White space is no digit. -/
theorem not_isDecimalDigit_of_isWhiteSpace {c : Char} (blank : isWhiteSpace c) :
    ¬ isDecimalDigit c := by
  have disjoint : ∀ n ∈ whiteSpaces,
      ¬ digitZeros.any (fun start => start ≤ n && n < start + 10) := by decide
  exact disjoint c.toNat (toNat_mem_whiteSpaces blank)

private theorem isAlpha_iff {c : Char} :
    c.isAlpha ↔ 65 ≤ c.toNat ∧ c.toNat ≤ 90 ∨ 97 ≤ c.toNat ∧ c.toNat ≤ 122 := by
  change (decide (65 ≤ c.val ∧ c.val ≤ 90) || (decide (97 ≤ c.val) && decide (c.val ≤ 122))) = true
    ↔ _
  simp only [Bool.or_eq_true, Bool.and_eq_true, decide_eq_true_eq, UInt32.le_iff_toNat_le]
  rfl

/-- The digits of ASCII by their code points. -/
theorem isDigit_iff {c : Char} : c.isDigit ↔ 48 ≤ c.toNat ∧ c.toNat ≤ 57 := by
  change (decide (48 ≤ c.val) && decide (c.val ≤ 57)) = true ↔ _
  simp only [Bool.and_eq_true, decide_eq_true_eq, UInt32.le_iff_toNat_le]
  rfl

private theorem isAlphanum_iff {c : Char} :
    c.isAlphanum ↔ (65 ≤ c.toNat ∧ c.toNat ≤ 90 ∨ 97 ≤ c.toNat ∧ c.toNat ≤ 122) ∨
      48 ≤ c.toNat ∧ c.toNat ≤ 57 := by
  rw [← isAlpha_iff, ← isDigit_iff]
  exact Bool.or_eq_true_iff

private theorem not_isAlphanum_of_isWhiteSpace {c : Char} (blank : isWhiteSpace c) :
    ¬ c.isAlphanum := by
  have disjoint : ∀ n ∈ whiteSpaces,
      ¬ ((65 ≤ n ∧ n ≤ 90 ∨ 97 ≤ n ∧ n ≤ 122) ∨ 48 ≤ n ∧ n ≤ 57) := by decide
  rw [isAlphanum_iff]
  exact disjoint c.toNat (toNat_mem_whiteSpaces blank)

end Unicode

namespace Format

/-- A character of a mailbox. -/
def IsMailboxChar (c : Char) : Prop := c.isAlphanum ∨ c ∈ ['.', '_', '%', '+', '-']

/-- A character of a host. -/
def IsHostChar (c : Char) : Prop := c.isAlphanum ∨ c ∈ ['.', '-']

instance : DecidablePred IsMailboxChar := fun _ => inferInstanceAs (Decidable (_ ∨ _))

instance : DecidablePred IsHostChar := fun _ => inferInstanceAs (Decidable (_ ∨ _))

/-- A mailbox and a domain around the only at sign. The domain is a host and, after its last dot, a
label of two to six letters. -/
def IsAddress (text : List Char) : Prop :=
  ∃ mailbox domain, text = mailbox ++ '@' :: domain ∧ '@' ∉ mailbox ∧ '@' ∉ domain ∧
    mailbox ≠ [] ∧ (∀ c ∈ mailbox, IsMailboxChar c) ∧
    ∃ host label, domain = host ++ '.' :: label ∧ '.' ∉ label ∧
      host ≠ [] ∧ (∀ c ∈ host, IsHostChar c) ∧
      2 ≤ label.length ∧ label.length ≤ 6 ∧ ∀ c ∈ label, c.isAlpha

/-- A number of decimal digits and nothing else. -/
def IsDigits (count : Nat) (text : List Char) : Prop :=
  text.length = count ∧ ∀ c ∈ text, Unicode.isDecimalDigit c

/-- Five digits, or five and four with or without a hyphen between them. -/
def IsPostalCode (text : List Char) : Prop :=
  IsDigits 5 text ∨
    ∃ area route, IsDigits 5 area ∧ IsDigits 4 route ∧
      (text = area ++ route ∨ text = area ++ '-' :: route)

private theorem contains_letters_iff {c : Char} : letters.contains c ↔ c.isAlpha := by
  rw [Unicode.isAlpha_iff]
  simp only [letters, CharClass.ranges, CharClass.contains_unions, List.map_cons, List.map_nil,
    List.any_cons, List.any_nil, CharClass.contains, Bool.or_eq_true, Bool.and_eq_true,
    decide_eq_true_eq, Bool.or_false]
  rfl

private theorem contains_alphanum_iff {c : Char} :
    (CharClass.ranges [('A', 'Z'), ('a', 'z'), ('0', '9')]).contains c ↔ c.isAlphanum := by
  rw [Unicode.isAlphanum_iff]
  simp only [CharClass.ranges, CharClass.contains_unions, List.map_cons, List.map_nil,
    List.any_cons, List.any_nil, CharClass.contains, Bool.or_eq_true, Bool.and_eq_true,
    decide_eq_true_eq, Bool.or_false, or_assoc]
  rfl

private theorem contains_mailboxChars_iff {c : Char} :
    mailboxChars.contains c ↔ IsMailboxChar c := by
  rw [mailboxChars, CharClass.contains, Bool.or_eq_true, contains_alphanum_iff,
    contains_singles_iff, IsMailboxChar]

private theorem contains_domainChars_iff {c : Char} : domainChars.contains c ↔ IsHostChar c := by
  rw [domainChars, CharClass.contains, Bool.or_eq_true, contains_alphanum_iff,
    contains_singles_iff, IsHostChar]

private theorem mem_language_label_iff {word : List Char} :
    word ∈ Expression.language (.repeated true 2 (Option.some 6) (.oneOf letters)) ↔
      2 ≤ word.length ∧ word.length ≤ 6 ∧ ∀ c ∈ word, c.isAlpha := by
  change word ∈ Expression.language (.seq (.times 2 _) (.upTo true 4 _)) ↔ _
  simp only [Expression.mem_language_times_upTo_oneOf_iff, contains_letters_iff]

/-- No character of a label is a dot, so the last dot of a domain is the one before the label. -/
theorem matchesIn_email_iff {text : List Char} : email.matchesIn text ↔ IsAddress text := by
  rw [email, Expression.matchesIn_whole_iff rfl]
  change text ∈ Expression.language (.seq (.plus true _) (.seq (char '@') (.seq (.plus true _)
    (.seq (char '.') (.repeated true 2 (Option.some 6) (.oneOf letters)))))) ↔ _
  simp only [Expression.mem_language_seq_iff, Expression.mem_language_plus_oneOf_iff,
    mem_language_char_iff, mem_language_label_iff, contains_mailboxChars_iff,
    contains_domainChars_iff]
  constructor
  · rintro ⟨mailbox, ⟨named, mailboxChars⟩, _, ⟨_, rfl, _, ⟨host, ⟨hosted, hostChars⟩, _,
      ⟨_, rfl, label, ⟨long, short, letters⟩, rfl⟩, rfl⟩, rfl⟩, rfl⟩
    have noDot : '.' ∉ label := fun dot => absurd (letters '.' dot) (by decide)
    have noAt : '@' ∉ mailbox := fun at' => absurd (mailboxChars '@' at') (by decide)
    have noMoreAt : '@' ∉ host ++ '.' :: label := by
      simp only [List.mem_append, List.mem_cons, not_or]
      exact ⟨fun at' => absurd (hostChars '@' at') (by decide), by decide,
        fun at' => absurd (letters '@' at') (by decide)⟩
    exact ⟨mailbox, host ++ '.' :: label, rfl, noAt, noMoreAt, named, mailboxChars,
      host, label, rfl, noDot, hosted, hostChars, long, short, letters⟩
  · rintro ⟨mailbox, _, rfl, -, -, named, mailboxChars, host, label, rfl, -, hosted, hostChars,
      long, short, letters⟩
    exact ⟨mailbox, ⟨named, mailboxChars⟩, _, ⟨_, rfl, _, ⟨host, ⟨hosted, hostChars⟩, _,
      ⟨_, rfl, label, ⟨long, short, letters⟩, rfl⟩, rfl⟩, rfl⟩, rfl⟩

private theorem mem_language_digits_iff {count : Nat} {word : List Char} :
    word ∈ Expression.language (.times count digit) ↔ IsDigits count word :=
  Expression.mem_language_oneOf_pow_iff

/-- **The expression of postal codes matches postal codes.** -/
theorem matchesIn_zip_iff {text : List Char} : zip.matchesIn text ↔ IsPostalCode text := by
  rw [zip, Expression.matchesIn_alt_iff, Expression.matchesIn_whole_iff rfl,
    Expression.matchesIn_whole_iff rfl]
  change _ ∨ text ∈ Expression.language (.seq _ (.seq (maybe (char '-')) (.times 4 digit))) ↔ _
  simp only [Expression.mem_language_seq_iff, mem_language_digits_iff, mem_language_maybe_iff,
    mem_language_char_iff]
  refine or_congr_right ⟨?_, ?_⟩
  · rintro ⟨area, areaDigits, _, ⟨_, rfl | rfl, route, routeDigits, rfl⟩, rfl⟩
    · exact ⟨area, route, areaDigits, routeDigits, Or.inl rfl⟩
    · exact ⟨area, route, areaDigits, routeDigits, Or.inr rfl⟩
  · rintro ⟨area, route, areaDigits, routeDigits, rfl | rfl⟩
    · exact ⟨area, areaDigits, _, ⟨[], Or.inl rfl, route, routeDigits, rfl⟩, rfl⟩
    · exact ⟨area, areaDigits, _, ⟨['-'], Or.inr rfl, route, routeDigits, rfl⟩, rfl⟩

/-- An address has letters, digits and a few marks. -/
theorem IsAddress.mem_cases {text : List Char} (address : IsAddress text) {c : Char}
    (member : c ∈ text) : c.isAlphanum ∨ c ∈ ['@', '.', '_', '%', '+', '-'] := by
  obtain ⟨mailbox, _, rfl, -, -, -, mailboxChars, host, label, rfl, -, -, hostChars, -, -,
    letters⟩ := address
  simp only [List.mem_append, List.mem_cons] at member
  rcases member with inMailbox | rfl | inHost | rfl | inLabel
  case inr.inl => exact Or.inr (by decide)
  case inr.inr.inr.inl => exact Or.inr (by decide)
  · exact (mailboxChars c inMailbox).imp_right (List.mem_cons_of_mem _)
  · refine (hostChars c inHost).imp_right fun special => ?_
    have widen : ['.', '-'] ⊆ ['@', '.', '_', '%', '+', '-'] := by decide
    exact widen special
  · exact Or.inl (Bool.or_eq_true_iff.mpr (Or.inl (letters c inLabel)))

/-- An address has no white space. -/
theorem IsAddress.not_isWhiteSpace {text : List Char} (address : IsAddress text) {c : Char}
    (member : c ∈ text) : ¬ Unicode.isWhiteSpace c := by
  intro blank
  rcases address.mem_cases member with alphanum | special
  · exact Unicode.not_isAlphanum_of_isWhiteSpace blank alphanum
  · have visible : ['@', '.', '_', '%', '+', '-'].all (!Unicode.isWhiteSpace ·) := by decide
    rw [List.all_eq_true] at visible
    exact absurd (visible c special) (by rw [blank]; decide)

/-- A postal code has digits and a hyphen. -/
theorem IsPostalCode.mem_cases {text : List Char} (code : IsPostalCode text) {c : Char}
    (member : c ∈ text) : Unicode.isDecimalDigit c ∨ c = '-' := by
  rcases code with digits | ⟨area, route, areaDigits, routeDigits, rfl | rfl⟩
  · exact Or.inl (digits.2 c member)
  · exact Or.inl ((List.mem_append.mp member).elim (areaDigits.2 c) (routeDigits.2 c))
  · rcases List.mem_append.mp member with inArea | inRest
    · exact Or.inl (areaDigits.2 c inArea)
    · exact (List.mem_cons.mp inRest).symm.imp_left (routeDigits.2 c)

/-- A postal code has no white space. -/
theorem IsPostalCode.not_isWhiteSpace {text : List Char} (code : IsPostalCode text) {c : Char}
    (member : c ∈ text) : ¬ Unicode.isWhiteSpace c := by
  intro blank
  rcases code.mem_cases member with digit | rfl
  · exact Unicode.not_isDecimalDigit_of_isWhiteSpace blank digit
  · exact absurd blank (by decide)

end Format

namespace Predicate

/-- A predicate passes falsy values and tests the text of every other value; arrays and objects have
no text. -/
structure TestsText (predicate : Predicate) (admits : List Char → Prop) : Prop where
  falsy : ∀ value site, value.isFalsy → predicate value site = .verdict true
  array : ∀ items site, items ≠ [] → predicate (.arr items) site = .verdict false
  object : ∀ entries site, entries ≠ [] → predicate (.obj entries) site = .verdict false
  text : ∀ value site text, value.isFalsy = false → value.text? = some text →
    ∃ holds, predicate value site = .verdict holds ∧ (holds = true ↔ admits text.toList)

private theorem testsText_matching {e : Expression} {admits : List Char → Prop}
    (exact : ∀ text, e.matchesIn text ↔ admits text) : (matching e).TestsText admits where
  falsy value site falsy := by simp only [matching, ofOptional, ofTest, falsy, Bool.true_or]
  array items site nonempty := by
    cases items with
    | nil => exact (nonempty rfl).elim
    | cons => rfl
  object entries site nonempty := by
    cases entries with
    | nil => exact (nonempty rfl).elim
    | cons => rfl
  text value site text present found := by
    refine ⟨e.matchesIn text.toList, ?_, exact text.toList⟩
    simp only [matching, ofOptional, ofTest, present, found, Bool.false_or, Option.any_some]

end Predicate

namespace Registry

/-- **The built-in formats accept exactly the addresses and the postal codes.** None of these texts
holds white space, so nothing can stand before or after. -/
theorem builtin_formats_accept :
    (∃ email, builtin.lookup "format" (some "email") = some email ∧
      email.TestsText Format.IsAddress) ∧
    (∃ zip, builtin.lookup "format" (some "zip") = some zip ∧
      zip.TestsText Format.IsPostalCode) ∧
    ∀ text, Format.IsAddress text ∨ Format.IsPostalCode text →
      ∀ c ∈ text, ¬ Unicode.isWhiteSpace c := by
  refine ⟨⟨_, rfl, Predicate.testsText_matching fun _ => Format.matchesIn_email_iff⟩,
    ⟨_, rfl, Predicate.testsText_matching fun _ => Format.matchesIn_zip_iff⟩, ?_⟩
  rintro text (address | code)
  · exact fun c => address.not_isWhiteSpace
  · exact fun c => code.not_isWhiteSpace

/-- An address whose host has a dot is accepted, a postal code before a line break is not. -/
theorem builtin_formats_accept_dottedHost :
    (∃ email, builtin.lookup "format" (some "email") = some email ∧
      ∀ site, email (.str "ann@mail.example.org") site = .verdict true) ∧
    ∃ zip, builtin.lookup "format" (some "zip") = some zip ∧
      ∀ site, zip (.str "12345\n") site = .verdict false := by
  obtain ⟨⟨email, emailFound, emailTests⟩, ⟨zip, zipFound, zipTests⟩, visible⟩ :=
    builtin_formats_accept
  refine ⟨⟨email, emailFound, fun site => ?_⟩, ⟨zip, zipFound, fun site => ?_⟩⟩
  · obtain ⟨holds, verdict, exact⟩ :=
      emailTests.text (.str "ann@mail.example.org") site _ (by decide +kernel) rfl
    have mailbox : "ann".toList.all fun c => Format.IsMailboxChar c := by decide
    have host : "mail.example".toList.all fun c => Format.IsHostChar c := by decide
    have label : "org".toList.all Char.isAlpha := by decide
    simp only [List.all_eq_true, decide_eq_true_eq] at mailbox host label
    have address : Format.IsAddress "ann@mail.example.org".toList :=
      ⟨"ann".toList, "mail.example.org".toList, by decide, by decide, by decide, by decide,
        mailbox, "mail.example".toList, "org".toList, by decide, by decide, by decide, host,
        by decide, by decide, label⟩
    rw [verdict, exact.mpr address]
  · obtain ⟨holds, verdict, exact⟩ := zipTests.text (.str "12345\n") site _ (by decide +kernel) rfl
    have refused : ¬ Format.IsPostalCode "12345\n".toList := fun code =>
      visible _ (Or.inr code) '\n' (by decide) (by decide)
    rw [verdict, Bool.eq_false_iff.mpr fun holds => refused (exact.mp holds)]

end Registry

end FormValidity
