import FormValidity.Text.Quoted

/-! # The grammar of quoted strings

What may stand between double quotes (`Text.IsQuoted`): characters of a line as they are, and
escapes. The reader takes exactly such a text, up to the first quote that is not escaped
(`Text.readQuoted_append`, `Text.exists_isQuoted_of_readQuoted`), and every content has one
(`Text.exists_isQuoted`).
-/

namespace FormValidity

namespace Text

/-- The characters that have a letter or a mark of their own after a backslash. -/
def escapeMarks : List (Char × Char) :=
  [('"', '"'), ('\\', '\\'), ('b', '\x08'), ('t', '\t'), ('n', '\n'), ('f', '\x0c'), ('r', '\r')]

/-- An escape without its backslash, and the character it stands for. -/
inductive IsEscape : List Char → Char → Prop where
  | mark {letter c : Char} (listed : (letter, c) ∈ escapeMarks) : IsEscape [letter] c
  | code {letter c : Char} {digits : List Char} {code : Nat}
      (size : letter = 'u' ∧ digits.length = 4 ∨ letter = 'U' ∧ digits.length = 8)
      (value : readHex 0 digits.length digits = some (code, []))
      (scalar : charOfCode? code = some c) : IsEscape (letter :: digits) c

/-- A text as it stands between quotes, and what it says. -/
inductive IsQuoted : List Char → List Char → Prop where
  | nil : IsQuoted [] []
  | inline {c : Char} {body content : List Char} (inline : isInline c) (noQuote : c ≠ '"')
      (noEscape : c ≠ '\\') (more : IsQuoted body content) : IsQuoted (c :: body) (c :: content)
  | escape {c : Char} {written body content : List Char} (escape : IsEscape written c)
      (more : IsQuoted body content) : IsQuoted ('\\' :: (written ++ body)) (c :: content)

section Escapes

variable {text rest : List Char} {c : Char}

private theorem readHex_append {value count code : Nat} {digits : List Char}
    (read : readHex value count digits = some (code, [])) (rest : List Char) :
    readHex value count (digits ++ rest) = some (code, rest) := by
  induction count generalizing value digits with
  | zero =>
      cases read
      rfl
  | succ count ih =>
      cases digits with
      | nil => cases read
      | cons c digits =>
          rw [readHex] at read
          rw [List.cons_append, readHex]
          cases digit : hexDigit? c with
          | none =>
              rw [digit] at read
              cases read
          | some digit' =>
              rw [digit] at read
              exact ih read

/-- The digits that have been read stand before the rest. -/
theorem exists_digits_of_readHex {value count code : Nat}
    (read : readHex value count text = some (code, rest)) :
    ∃ digits, text = digits ++ rest ∧ digits.length = count ∧
      readHex value count digits = some (code, []) := by
  induction count generalizing value text with
  | zero =>
      cases read
      exact ⟨[], rfl, rfl, rfl⟩
  | succ count ih =>
      cases text with
      | nil => cases read
      | cons c text =>
          rw [readHex] at read
          cases digit : hexDigit? c with
          | none =>
              rw [digit] at read
              cases read
          | some digit' =>
              rw [digit] at read
              obtain ⟨digits, rfl, rfl, exactly⟩ := ih read
              refine ⟨c :: digits, rfl, rfl, ?_⟩
              rw [readHex, digit]
              exact exactly

private theorem readEscape_append {written : List Char} (escape : IsEscape written c)
    (rest : List Char) :
    readEscape (written ++ rest) = some (c, rest) := by
  cases escape with
  | mark listed =>
      simp only [escapeMarks, List.mem_cons, Prod.mk.injEq, List.not_mem_nil, or_false] at listed
      rcases listed with ⟨rfl, rfl⟩ | ⟨rfl, rfl⟩ | ⟨rfl, rfl⟩ | ⟨rfl, rfl⟩ | ⟨rfl, rfl⟩ |
        ⟨rfl, rfl⟩ | ⟨rfl, rfl⟩ <;> rfl
  | code size value scalar =>
      have read := readHex_append value rest
      rcases size with ⟨rfl, four⟩ | ⟨rfl, eight⟩
      · rw [four] at read
        simp only [List.cons_append, readEscape, read, Option.bind_some, scalar, Option.map_some]
      · rw [eight] at read
        simp only [List.cons_append, readEscape, read, Option.bind_some, scalar, Option.map_some]

private theorem exists_digits_of_readCode {count : Nat}
    (read : ((readHex 0 count text).bind fun (code, rest) => (charOfCode? code).map (·, rest)) =
      some (c, rest)) :
    ∃ digits code, text = digits ++ rest ∧ digits.length = count ∧
      readHex 0 digits.length digits = some (code, []) ∧ charOfCode? code = some c := by
  obtain ⟨⟨code, after⟩, hex, told⟩ := Option.bind_eq_some_iff.mp read
  obtain ⟨_, scalar, same⟩ := Option.map_eq_some_iff.mp told
  cases same
  obtain ⟨digits, split, rfl, value⟩ := exists_digits_of_readHex hex
  exact ⟨digits, code, split, rfl, value, scalar⟩

private theorem exists_isEscape_of_readEscape (read : readEscape text = some (c, rest)) :
    ∃ written, text = written ++ rest ∧ IsEscape written c := by
  unfold readEscape at read
  split at read
  case h_8 =>
    obtain ⟨digits, code, rfl, size, value, scalar⟩ := exists_digits_of_readCode read
    exact ⟨'u' :: digits, rfl, .code (Or.inl ⟨rfl, size⟩) value scalar⟩
  case h_9 =>
    obtain ⟨digits, code, rfl, size, value, scalar⟩ := exists_digits_of_readCode read
    exact ⟨'U' :: digits, rfl, .code (Or.inr ⟨rfl, size⟩) value scalar⟩
  case h_10 => cases read
  all_goals
    cases read
    exact ⟨[_], rfl, .mark (by decide)⟩

end Escapes

section Bodies

variable {text rest body content : List Char}

private theorem readQuotedTail_append (quoted : IsQuoted body content) {fuel : Nat}
    (enough : body.length < fuel) (rest : List Char) :
    readQuotedTail fuel (body ++ '"' :: rest) = some (content, rest) := by
  induction quoted generalizing fuel with
  | nil =>
      obtain ⟨fuel, rfl⟩ := Nat.exists_eq_succ_of_ne_zero (Nat.ne_of_gt enough)
      rfl
  | @inline c body content inline noQuote noEscape more ih =>
      obtain ⟨fuel, rfl⟩ := Nat.exists_eq_succ_of_ne_zero (Nat.ne_zero_of_lt enough)
      rw [List.cons_append, readQuotedTail, if_pos inline, ih (Nat.lt_of_succ_lt_succ enough)]
      · rfl
      · exact noQuote
      · exact noEscape
  | @escape c written body content escape more ih =>
      obtain ⟨fuel, rfl⟩ := Nat.exists_eq_succ_of_ne_zero (Nat.ne_zero_of_lt enough)
      rw [List.length_cons, List.length_append] at enough
      rw [List.cons_append, List.append_assoc, readQuotedTail, readEscape_append escape]
      have shorter : body.length < fuel := by omega
      simp only [Option.bind_eq_bind, Option.bind_some, ih shorter]

/-- A quoted string is read up to its closing quote. -/
theorem readQuoted_append (quoted : IsQuoted body content) (rest : List Char) :
    readQuoted (body ++ '"' :: rest) = some (content, rest) := by
  refine readQuotedTail_append quoted ?_ rest
  rw [List.length_append]
  omega

private theorem exists_isQuoted_of_readQuotedTail {fuel : Nat}
    (read : readQuotedTail fuel text = some (content, rest)) :
    ∃ body, text = body ++ '"' :: rest ∧ IsQuoted body content := by
  induction fuel generalizing text content with
  | zero => cases read
  | succ fuel ih =>
      cases text with
      | nil => cases read
      | cons c text =>
          by_cases closes : c = '"'
          · subst closes
            cases read
            exact ⟨[], rfl, .nil⟩
          · by_cases escapes : c = '\\'
            · subst escapes
              simp only [readQuotedTail, Option.bind_eq_bind, Option.bind_eq_some_iff] at read
              obtain ⟨⟨c, after⟩, escape, ⟨more, last⟩, tail, same⟩ := read
              cases same
              obtain ⟨written, rfl, isEscape⟩ := exists_isEscape_of_readEscape escape
              obtain ⟨body, rfl, quoted⟩ := ih tail
              exact ⟨'\\' :: (written ++ body), by rw [List.cons_append, List.append_assoc],
                .escape isEscape quoted⟩
            · rw [readQuotedTail] at read
              · split at read
                · next inline =>
                    obtain ⟨⟨more, last⟩, tail, same⟩ := Option.map_eq_some_iff.mp read
                    cases same
                    obtain ⟨body, rfl, quoted⟩ := ih tail
                    exact ⟨c :: body, rfl, .inline inline closes escapes quoted⟩
                · cases read
              · exact closes
              · exact escapes

/-- What the reader takes is a quoted string with its closing quote. -/
theorem exists_isQuoted_of_readQuoted (read : readQuoted text = some (content, rest)) :
    ∃ body, text = body ++ '"' :: rest ∧ IsQuoted body content :=
  exists_isQuoted_of_readQuotedTail read

/-- A quoted string says no more characters than it has. -/
theorem IsQuoted.length_le (quoted : IsQuoted body content) : content.length ≤ body.length := by
  induction quoted with
  | nil => exact Nat.le_refl _
  | inline _ _ _ _ ih => exact Nat.succ_le_succ ih
  | escape _ _ ih =>
      rw [List.length_cons, List.length_cons, List.length_append]
      omega

private theorem charOfCode?_toNat (c : Char) : charOfCode? c.toNat = some c := by
  have valid : c.toNat.isValidChar := c.valid
  rw [charOfCode?, if_pos valid, Char.ofNat_toNat]

/-- Only characters of ASCII may not stand between quotes as they are. -/
theorem isInline_or_ascii (c : Char) :
    (isInline c ∧ c ≠ '"' ∧ c ≠ '\\') ∨ c.toNat < 0x80 := by
  refine Decidable.or_iff_not_imp_right.mpr fun large => ⟨?_, ?_, ?_⟩
  · have many : 0x20 ≤ c.toNat ∧ c.toNat ≠ 0x7F := by omega
    simp only [isInline, many.1, many.2, decide_true, ne_eq, not_false_eq_true, Bool.and_self,
      Bool.or_true]
  · rintro rfl
    exact large (by decide)
  · rintro rfl
    exact large (by decide)

/-- Every character of ASCII has an escape by its code. -/
theorem exists_isEscape {c : Char} (ascii : c.toNat < 0x80) : ∃ written, IsEscape written c := by
  have value : ∀ code < 0x80,
      readHex 0 4 ['0', '0', Nat.digitChar (code / 16), Nat.digitChar (code % 16)] =
        some (code, []) := by decide
  exact ⟨'u' :: ['0', '0', Nat.digitChar (c.toNat / 16), Nat.digitChar (c.toNat % 16)],
    .code (Or.inl ⟨rfl, rfl⟩) (value c.toNat ascii) (charOfCode?_toNat c)⟩

/-- Every content can be quoted. -/
theorem exists_isQuoted (content : List Char) : ∃ body, IsQuoted body content := by
  induction content with
  | nil => exact ⟨[], .nil⟩
  | cons c content ih =>
      obtain ⟨body, more⟩ := ih
      rcases isInline_or_ascii c with ⟨inline, noQuote, noEscape⟩ | ascii
      · exact ⟨c :: body, .inline inline noQuote noEscape more⟩
      · obtain ⟨written, escape⟩ := exists_isEscape ascii
        exact ⟨'\\' :: (written ++ body), .escape escape more⟩

end Bodies

end Text

end FormValidity
