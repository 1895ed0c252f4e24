import FormValidity.Form.Config.Environment
import FormValidity.Proofs.Text.Quoted
import Mathlib.Data.List.TakeWhile

/-! # The notation of environment values

The value of a variable is a word, a quoted string or character, a list, a table, or plain text
up to the next separator (`Environment.Written`). The reader takes exactly the texts of this
notation (`Environment.readValue_append`, `Environment.exists_written_of_readValue`). So a text of
the notation sets what it is written for, and every other text is a setting as it stands
(`Environment.settingOf_of_written`, `Environment.settingOf_of_unwritten`).
-/

namespace FormValidity

namespace Environment

open Text (IsQuoted)

/-- The words that are values. -/
def words : List String := ["true", "false"]

/-- The marks that begin values of their own. -/
def marks : List Char := ['"', '\'', '[', '\x7b']

def IsBlank (text : List Char) : Prop := ∀ c ∈ text, isSpace c

/-- The key of a table's entry. -/
inductive IsKey : List Char → Prop where
  | bare {name : List Char} (nonempty : name ≠ []) (chars : ∀ c ∈ name, isKeyChar c) : IsKey name
  | quoted {body content : List Char} (quoted : IsQuoted body content) :
      IsKey ('"' :: (body ++ ['"']))

/-- Text without separators that begins like no other value. -/
structure IsPlain (text : List Char) : Prop where
  whole : ∀ c ∈ text, ¬ isSeparator c
  unmarked : ∀ c, text.head? = some c → ¬ isSpace c ∧ c ∉ marks
  wordless : ∀ word ∈ words, ¬ word.toList <+: text

/-- What plain text sets: white space at its ends does not count, and a number is no text. -/
def plainSetting (text : List Char) : Setting :=
  if isNumber (Unicode.trim text) then .other else .text (String.ofList (Unicode.trim text))

/-- What has members between its marks. -/
inductive Container where
  | list
  | table

namespace Container

def opening : Container → Char
  | list => '['
  | table => '\x7b'

def closing : Container → Char
  | list => ']'
  | table => '\x7d'

end Container

/-- The parts of the notation. -/
inductive Part where
  /-- A value without white space around it, if it is no plain text. -/
  | marked (setting : Setting)
  | value (setting : Setting)
  | member (container : Container)
  | members (container : Container)

/-- The texts of the notation. A comma may follow the last member. -/
inductive Written : Part → List Char → Prop where
  | word {word : String} (listed : word ∈ words) : Written (.marked .other) word.toList
  | quoted {body content : List Char} (quoted : IsQuoted body content) :
      Written (.marked (.text (String.ofList content))) ('"' :: (body ++ ['"']))
  | character (c : Char) : Written (.marked (.text c.toString)) ['\'', c, '\'']
  | container (container : Container) {inner : List Char}
      (members : Written (.members container) inner) :
      Written (.marked .other) (container.opening :: (inner ++ [container.closing]))
  | padded {before text after : List Char} {setting : Setting} (leading : IsBlank before)
      (marked : Written (.marked setting) text) (trailing : IsBlank after) :
      Written (.value setting) (before ++ (text ++ after))
  | plain {before text : List Char} (leading : IsBlank before) (plain : IsPlain text) :
      Written (.value (plainSetting text)) (before ++ text)
  | item {text : List Char} {setting : Setting} (value : Written (.value setting) text) :
      Written (.member .list) text
  | entry {before key after text : List Char} {setting : Setting} (leading : IsBlank before)
      (isKey : IsKey key) (trailing : IsBlank after) (value : Written (.value setting) text) :
      Written (.member .table) (before ++ (key ++ (after ++ '=' :: text)))
  | none (container : Container) : Written (.members container) []
  | last {container : Container} {member : List Char}
      (written : Written (.member container) member) : Written (.members container) member
  | more {container : Container} {member rest : List Char}
      (written : Written (.member container) member)
      (others : Written (.members container) rest) :
      Written (.members container) (member ++ ',' :: rest)

/-- No white space stands before the text. -/
def IsSolid (text : List Char) : Prop := ∀ c, text.head? = some c → ¬ isSpace c

/-- The marks that end a member. -/
def IsStop (c : Char) : Prop := c = ',' ∨ ∃ container : Container, c = container.closing

/-- The text begins with a character of its own, as words, marks and keys do. -/
def Opens (text : List Char) : Prop := ∃ c rest, text = c :: rest ∧ ¬ isSpace c ∧ ¬ IsStop c

/-- Nothing follows a value, or what ends a member. -/
def Stops (rest : List Char) : Prop := ∀ c, rest.head? = some c → IsStop c

/-- What a member may begin with. -/
def Starts (text : List Char) : Prop := ∀ c, text.head? = some c → ¬ IsStop c

section Reading

/-- The reader of a member. -/
def readMember (fuel : Nat) : Container → List Char → Option (List Char)
  | .list, text => (readValue fuel text).map Prod.snd
  | .table, text => (readKey text).bind fun text => (readValue fuel text).map Prod.snd

/-- The reader of the members of a container. -/
def readInner (fuel : Nat) (container : Container) (text : List Char) : Option (List Char) :=
  readMembers (readMember fuel container) container.closing (text.length + 1) text

/-- The reader of the words. -/
def readWords (text : List Char) : Option (List Char) :=
  (readWord "true" text).orElse fun _ => readWord "false" text

/-- The reader of a value that is no word. -/
def readWordless (fuel : Nat) : List Char → Option (Setting × List Char)
  | '[' :: rest => (readInner fuel .list rest).map fun rest => (.other, rest)
  | '\x7b' :: rest => (readInner fuel .table rest).map fun rest => (.other, rest)
  | '"' :: rest =>
      (Text.readQuoted rest).map fun (chars, rest) => (.text (String.ofList chars), rest)
  | '\'' :: c :: '\'' :: rest => some (.text c.toString, rest)
  | '\'' :: _ => none
  | text => some (readPlain text)

/-- The reader of a value after the white space before it. -/
def readMarked (fuel : Nat) (text : List Char) : Option (Setting × List Char) :=
  match readWords text with
  | some rest => some (.other, rest)
  | none => readWordless fuel text

private theorem readValue_succ (fuel : Nat) (text : List Char) :
    readValue (fuel + 1) text =
      (readMarked fuel (skipSpace text)).map fun found => (found.1, skipSpace found.2) := rfl

private theorem readMarked_of_word {text rest : List Char} (found : readWords text = some rest)
    (fuel : Nat) : readMarked fuel text = some (.other, rest) := by
  rw [readMarked, found]

private theorem readMarked_of_wordless {text : List Char} (absent : readWords text = none)
    (fuel : Nat) :
    readMarked fuel text = readWordless fuel text := by
  rw [readMarked, absent]

end Reading

section Stops

variable {c : Char} {rest : List Char}

instance : DecidablePred IsStop := fun c =>
  decidable_of_iff (c = ',' ∨ c = Container.list.closing ∨ c = Container.table.closing) <|
    or_congr_right ⟨Or.rec (⟨.list, ·⟩) (⟨.table, ·⟩), fun ⟨container, closes⟩ => by
      cases container with
      | list => exact Or.inl closes
      | table => exact Or.inr closes⟩

private theorem stops_nil : Stops [] := nofun

private theorem stops_comma (rest : List Char) : Stops (',' :: rest) := by
  rintro _ ⟨⟩
  exact Or.inl rfl

private theorem stops_closing (container : Container) (rest : List Char) :
    Stops (container.closing :: rest) := by
  rintro _ ⟨⟩
  exact Or.inr ⟨container, rfl⟩

private theorem IsStop.isSeparator (stop : IsStop c) : isSeparator c := by
  rcases stop with rfl | ⟨_ | _, rfl⟩ <;> decide

private theorem not_isSpace_of_isSeparator (separator : isSeparator c) : ¬ isSpace c := by
  simp only [isSeparator, List.contains_iff_mem, List.mem_cons, List.not_mem_nil, or_false]
    at separator
  rcases separator with rfl | rfl | rfl | rfl | rfl <;> decide

private theorem IsStop.not_mem_marks (stop : IsStop c) : c ∉ marks := by
  rcases stop with rfl | ⟨_ | _, rfl⟩ <;> decide

private theorem Stops.isSolid (stops : Stops rest) : IsSolid rest :=
  fun c first => not_isSpace_of_isSeparator (stops c first).isSeparator

private theorem Opens.isSolid {text : List Char} (opens : Opens text) (rest : List Char) :
    IsSolid (text ++ rest) := by
  obtain ⟨c, text, rfl, noSpace, -⟩ := opens
  rintro _ ⟨⟩
  exact noSpace

private theorem Opens.starts {text : List Char} (opens : Opens text) (rest : List Char) :
    Starts (text ++ rest) := by
  obtain ⟨c, text, rfl, -, noStop⟩ := opens
  rintro _ ⟨⟩
  exact noStop

end Stops

section Spans

private theorem enclosed_append (opening closing : Char) (inner rest : List Char) :
    opening :: (inner ++ [closing]) ++ rest = opening :: (inner ++ closing :: rest) := by
  rw [List.cons_append, List.append_assoc, List.singleton_append]

variable {p : Char → Bool} {taken rest : List Char}

private theorem takeWhile_append (all : ∀ c ∈ taken, p c)
    (ends : ∀ c, rest.head? = some c → ¬ p c) :
    (taken ++ rest).takeWhile p = taken := by
  rw [List.takeWhile_append_of_pos all]
  cases rest with
  | nil => exact List.append_nil taken
  | cons c rest => rw [List.takeWhile_cons_of_neg (ends c rfl), List.append_nil]

private theorem dropWhile_append (all : ∀ c ∈ taken, p c)
    (ends : ∀ c, rest.head? = some c → ¬ p c) :
    (taken ++ rest).dropWhile p = rest := by
  rw [List.dropWhile_append_of_pos all]
  cases rest with
  | nil => rfl
  | cons c rest => exact List.dropWhile_cons_of_neg (ends c rfl)

end Spans

section Spaces

variable {text before : List Char}

private theorem skipSpace_append (blank : IsBlank before) (solid : IsSolid text) :
    skipSpace (before ++ text) = text :=
  dropWhile_append blank solid

private theorem skipSpace_eq (solid : IsSolid text) : skipSpace text = text := by
  have empty : IsBlank [] := nofun
  exact skipSpace_append empty solid

private theorem exists_blank (text : List Char) :
    ∃ before, text = before ++ skipSpace text ∧ IsBlank before ∧ IsSolid (skipSpace text) := by
  refine ⟨text.takeWhile isSpace, List.takeWhile_append_dropWhile.symm,
    fun c => List.mem_takeWhile_imp, fun c first => ?_⟩
  have stops := List.head?_dropWhile_not isSpace text
  rw [skipSpace] at first
  rw [first] at stops
  exact Bool.not_eq_true _ ▸ stops

end Spaces

section Words

variable {word : String} {text rest : List Char}

private theorem readWord_append (word : String) (rest : List Char) :
    readWord word (word.toList ++ rest) = some rest := by
  rw [readWord, if_pos (List.isPrefixOf_iff_prefix.mpr (List.prefix_append _ _)),
    ← String.length_toList, List.drop_left]

private theorem readWord_eq_none_iff : readWord word text = none ↔ ¬ word.toList <+: text := by
  rw [readWord, ← List.isPrefixOf_iff_prefix]
  split
  · next begins => exact iff_of_false nofun (not_not_intro begins)
  · next differs => exact iff_of_true rfl differs

private theorem eq_append_of_readWord (read : readWord word text = some rest) :
    text = word.toList ++ rest := by
  rw [readWord] at read
  split at read
  · next begins =>
      cases read
      obtain ⟨after, rfl⟩ := List.isPrefixOf_iff_prefix.mp begins
      rw [← String.length_toList, List.drop_left]
  · cases read

private theorem readWords_append (listed : word ∈ words) (rest : List Char) :
    readWords (word.toList ++ rest) = some rest := by
  simp only [words, List.mem_cons, List.not_mem_nil, or_false] at listed
  rcases listed with rfl | rfl
  · rw [readWords, readWord_append, Option.orElse_some]
  · have other : readWord "true" ("false".toList ++ rest) = none :=
      readWord_eq_none_iff.mpr fun begins => by
        have heads := List.cons_prefix_cons.mp begins
        exact absurd heads.1 (by decide)
    rw [readWords, other, Option.orElse_none, readWord_append]

private theorem readWords_eq_none_iff :
    readWords text = none ↔ ∀ word ∈ words, ¬ word.toList <+: text := by
  rw [readWords, Option.orElse_eq_or, Option.or_eq_none_iff, readWord_eq_none_iff,
    readWord_eq_none_iff, words, List.forall_mem_cons, List.forall_mem_singleton]

private theorem exists_word_of_readWords (read : readWords text = some rest) :
    ∃ word ∈ words, text = word.toList ++ rest := by
  rw [readWords, Option.orElse_eq_or, Option.or_eq_some_iff] at read
  rcases read with found | ⟨-, found⟩
  · exact ⟨"true", by decide, eq_append_of_readWord found⟩
  · exact ⟨"false", by decide, eq_append_of_readWord found⟩

/-- A word does not go on past plain text. -/
theorem not_prefix_append_of_stops (listed : word ∈ words) (absent : ¬ word.toList <+: text)
    (stops : Stops rest) : ¬ word.toList <+: text ++ rest := by
  intro begins
  rcases List.prefix_or_prefix_of_prefix begins (List.prefix_append text rest) with
    within | ⟨beyond, split⟩
  · exact absent within
  · cases beyond with
    | nil => exact absent ⟨[], by rw [← split, List.append_nil, List.append_nil]⟩
    | cons c beyond =>
        rw [← split, List.prefix_append_right_inj] at begins
        obtain ⟨after, rfl⟩ := begins
        have separator := (stops c rfl).isSeparator
        have letters : ∀ word ∈ words, word.toList.all fun c => !isSeparator c := by decide
        have letter := List.all_eq_true.mp (letters word listed) c
          (split ▸ List.mem_append_right _ List.mem_cons_self)
        rw [separator] at letter
        cases letter

end Words

section Keys

variable {text rest key : List Char}

/-- The reader of a key without white space around it. -/
def readName : List Char → Option (List Char)
  | '"' :: rest => (Text.readQuoted rest).map Prod.snd
  | text =>
      if (text.takeWhile isKeyChar).isEmpty then none else some (text.dropWhile isKeyChar)

/-- The reader of the equals sign, if there was a key before it. -/
def readEquals : Option (List Char) → Option (List Char)
  | some ('=' :: rest) => some rest
  | _ => none

private theorem readKey_eq_some_iff :
    readKey text = some rest ↔
      ∃ after, readName (skipSpace text) = some after ∧ skipSpace after = '=' :: rest := by
  have spelled : readKey text = readEquals ((readName (skipSpace text)).map skipSpace) := rfl
  rw [spelled]
  constructor
  · intro read
    unfold readEquals at read
    split at read
    · next found =>
        cases read
        exact Option.map_eq_some_iff.mp found
    · cases read
  · rintro ⟨after, found, equals⟩
    rw [found, Option.map_some, equals]
    rfl

private theorem not_isKeyChar_of_isSpace {c : Char} (space : isSpace c) : ¬ isKeyChar c := by
  simp only [isSpace, Char.isWhitespace, Bool.or_eq_true, beq_iff_eq, decide_eq_true_eq] at space
  rcases space with (((rfl | rfl) | rfl) | rfl) | rfl <;> decide

private theorem IsKey.opens (isKey : IsKey key) : Opens key := by
  cases isKey with
  | bare nonempty chars =>
      obtain ⟨c, text, rfl⟩ := List.exists_cons_of_ne_nil nonempty
      have keyChar := chars c List.mem_cons_self
      refine ⟨c, text, rfl, fun space => not_isKeyChar_of_isSpace space keyChar, ?_⟩
      rintro (rfl | ⟨_ | _, rfl⟩) <;> exact absurd keyChar (by decide)
  | quoted => exact ⟨_, _, rfl, by decide, by decide⟩

private theorem readName_of_ne {c : Char} (noQuote : c ≠ '"') (text : List Char) :
    readName (c :: text) =
      if ((c :: text).takeWhile isKeyChar).isEmpty then none
      else some ((c :: text).dropWhile isKeyChar) := by
  rw [readName]
  rintro _ ⟨⟩
  exact noQuote rfl

private theorem readName_append (isKey : IsKey key)
    (ends : ∀ c, rest.head? = some c → ¬ isKeyChar c) :
    readName (key ++ rest) = some rest := by
  cases isKey with
  | bare nonempty chars =>
      have taken := takeWhile_append chars ends
      have dropped := dropWhile_append chars ends
      cases key with
      | nil => exact absurd rfl nonempty
      | cons c name =>
          have noQuote : c ≠ '"' := by
            rintro rfl
            exact absurd (chars _ List.mem_cons_self) (by decide)
          rw [List.cons_append] at taken dropped ⊢
          rw [readName_of_ne noQuote, taken, dropped]
          rfl
  | @quoted body content quoted =>
      rw [enclosed_append, readName, Text.readQuoted_append quoted]
      rfl

private theorem exists_isKey_of_readName (read : readName text = some rest) :
    ∃ key, text = key ++ rest ∧ IsKey key := by
  unfold readName at read
  split at read
  · obtain ⟨⟨content, _⟩, quoted, rfl⟩ := Option.map_eq_some_iff.mp read
    obtain ⟨body, rfl, isQuoted⟩ := Text.exists_isQuoted_of_readQuoted quoted
    exact ⟨'"' :: (body ++ ['"']), (enclosed_append _ _ _ _).symm, .quoted isQuoted⟩
  · split at read
    · cases read
    · next nonempty =>
        cases read
        exact ⟨text.takeWhile isKeyChar, List.takeWhile_append_dropWhile.symm,
          .bare (mt List.isEmpty_iff.mpr nonempty) fun c => List.mem_takeWhile_imp⟩

private theorem readKey_append {before after : List Char} (leading : IsBlank before)
    (isKey : IsKey key)
    (trailing : IsBlank after) (rest : List Char) :
    readKey (before ++ (key ++ (after ++ '=' :: rest))) = some rest := by
  have ends : ∀ c, (after ++ '=' :: rest).head? = some c → ¬ isKeyChar c := by
    cases after with
    | nil =>
        rintro _ ⟨⟩
        decide
    | cons c after =>
        rintro _ ⟨⟩
        exact not_isKeyChar_of_isSpace (trailing c List.mem_cons_self)
  rw [readKey_eq_some_iff, skipSpace_append leading (isKey.opens.isSolid _)]
  refine ⟨_, readName_append isKey ends, skipSpace_append trailing ?_⟩
  rintro _ ⟨⟩
  decide

private theorem exists_parts_of_readKey (read : readKey text = some rest) :
    ∃ before key after, text = before ++ (key ++ (after ++ '=' :: rest)) ∧ IsBlank before ∧
      IsKey key ∧ IsBlank after := by
  obtain ⟨beyond, named, equals⟩ := readKey_eq_some_iff.mp read
  obtain ⟨before, split, leading, -⟩ := exists_blank text
  obtain ⟨key, taken, isKey⟩ := exists_isKey_of_readName named
  obtain ⟨after, blank, trailing, -⟩ := exists_blank beyond
  refine ⟨before, key, after, ?_, leading, isKey, trailing⟩
  rw [← equals, ← blank, ← taken, ← split]

end Keys

section Members

variable {member : List Char → Option (List Char)} {closing c : Char} {text rest : List Char}

private theorem readMembers_closing (member : List Char → Option (List Char)) (closing : Char)
    (steps : Nat)
    (rest : List Char) : readMembers member closing (steps + 1) (closing :: rest) = some rest := by
  rw [readMembers, if_pos rfl]

private theorem readMembers_last (goesOn : c ≠ closing) (noComma : closing ≠ ',')
    (read : member (c :: text) = some (closing :: rest)) (steps : Nat) :
    readMembers member closing (steps + 1) (c :: text) = some rest := by
  rw [readMembers, if_neg goesOn, read]
  split
  · next same =>
      cases same
      exact absurd rfl noComma
  · next same =>
      cases same
      exact if_pos rfl
  · next differs => exact absurd rfl (differs _ _)

private theorem readMembers_more (goesOn : c ≠ closing)
    (read : member (c :: text) = some (',' :: rest))
    (steps : Nat) :
    readMembers member closing (steps + 1) (c :: text) = readMembers member closing steps rest := by
  rw [readMembers, if_neg goesOn, read]
  rfl

/-- What members can be written as is closed under the ways the reader has. -/
theorem exists_inner_of_readMembers {written inner : List Char → Prop} {steps : Nat}
    (sound : ∀ {text rest}, member text = some rest → ∃ part, text = part ++ rest ∧ written part)
    (none : inner []) (last : ∀ {part}, written part → inner part)
    (more : ∀ {part others}, written part → inner others → inner (part ++ ',' :: others))
    (read : readMembers member closing steps text = some rest) :
    ∃ body, text = body ++ closing :: rest ∧ inner body := by
  induction steps generalizing text with
  | zero => cases read
  | succ steps ih =>
      cases text with
      | nil => cases read
      | cons c text =>
          rw [readMembers] at read
          split at read
          · next same =>
              cases same
              cases read
              exact ⟨[], rfl, none⟩
          · split at read
            · next found =>
                obtain ⟨part, split, isPart⟩ := sound found
                obtain ⟨others, rfl, isInner⟩ := ih read
                exact ⟨part ++ ',' :: others, by rw [split, List.append_assoc, List.cons_append],
                  more isPart isInner⟩
            · next found =>
                split at read
                · next same =>
                    cases same
                    cases read
                    obtain ⟨part, split, isPart⟩ := sound found
                    exact ⟨part, split, last isPart⟩
                · cases read
            · cases read

end Members

section Completeness

variable {part : Part} {setting : Setting} {text rest : List Char}

private theorem Written.opens (marked : Written (.marked setting) text) : Opens text := by
  cases marked with
  | word listed =>
      simp only [words, List.mem_cons, List.not_mem_nil, or_false] at listed
      rcases listed with rfl | rfl
      · exact ⟨'t', ['r', 'u', 'e'], rfl, by decide, by decide⟩
      · exact ⟨'f', ['a', 'l', 's', 'e'], rfl, by decide, by decide⟩
  | quoted => exact ⟨'"', _, rfl, by decide, by decide⟩
  | character => exact ⟨'\'', _, rfl, by decide, by decide⟩
  | container container =>
      refine ⟨container.opening, _, rfl, ?_, ?_⟩ <;> cases container <;> decide

private theorem starts_append {before : List Char} (leading : IsBlank before)
    (starts : Starts text) :
    Starts (before ++ text) := by
  cases before with
  | nil => exact starts
  | cons c before =>
      rintro _ ⟨⟩ stop
      exact not_isSpace_of_isSeparator stop.isSeparator (leading c List.mem_cons_self)

private theorem Written.starts_value (value : Written (.value setting) text) : Starts text := by
  cases value with
  | padded leading marked trailing => exact starts_append leading (marked.opens.starts _)
  | plain leading plain =>
      exact starts_append leading fun c first stop =>
        plain.whole c (List.mem_of_head? first) stop.isSeparator

/-- No member begins with what ends one. -/
theorem Written.starts_member {container : Container} (written : Written (.member container) text) :
    Starts text := by
  cases written with
  | item value => exact value.starts_value
  | entry leading isKey => exact starts_append leading (isKey.opens.starts _)

private theorem readMarked_word {word : String} (listed : word ∈ words) (fuel : Nat)
    (rest : List Char) :
    readMarked fuel (word.toList ++ rest) = some (.other, rest) :=
  readMarked_of_word (readWords_append listed rest) fuel

/-- A word begins with a letter. -/
theorem readWords_cons_of_not_isAlpha {c : Char} (noLetter : ¬ c.isAlpha) (text : List Char) :
    readWords (c :: text) = none := by
  have letters : ∀ word ∈ words, word.toList.head?.any Char.isAlpha := by decide
  refine readWords_eq_none_iff.mpr fun word listed begins => ?_
  have letter := letters word listed
  rcases List.prefix_cons_iff.mp begins with empty | ⟨more, split, -⟩
  · rw [empty] at letter
    cases letter
  · rw [split] at letter
    exact noLetter letter

private theorem readMarked_quoted {body content : List Char} (quoted : IsQuoted body content)
    (fuel : Nat)
    (rest : List Char) :
    readMarked fuel ('"' :: (body ++ ['"']) ++ rest) =
      some (.text (String.ofList content), rest) := by
  rw [enclosed_append, readMarked_of_wordless (readWords_cons_of_not_isAlpha (by decide) _),
    readWordless, Text.readQuoted_append quoted]
  rfl

private theorem readMarked_character (c : Char) (fuel : Nat) (rest : List Char) :
    readMarked fuel (['\'', c, '\''] ++ rest) = some (.text c.toString, rest) :=
  readMarked_of_wordless (readWords_cons_of_not_isAlpha (by decide) _) fuel

private theorem readMarked_container (container : Container) {fuel : Nat}
    (inner : readInner fuel container text = some rest) :
    readMarked fuel (container.opening :: text) = some (.other, rest) := by
  have noWord : readWords (container.opening :: text) = none :=
    readWords_cons_of_not_isAlpha (by cases container <;> decide) text
  rw [readMarked_of_wordless noWord]
  cases container <;> rw [Container.opening, readWordless, inner] <;> rfl

/-- What begins with no mark is read as plain text. -/
theorem readWordless_plain (unmarked : ∀ c, text.head? = some c → c ∉ marks) (fuel : Nat) :
    readWordless fuel text = some (readPlain text) := by
  unfold readWordless
  split
  case h_6 => rfl
  all_goals exact absurd (by decide) (unmarked _ rfl)

private theorem readPlain_append (whole : ∀ c ∈ text, ¬ isSeparator c) (stops : Stops rest) :
    readPlain (text ++ rest) = (plainSetting text, rest) := by
  have chars : ∀ c ∈ text, !isSeparator c := fun c member => by
    simp only [whole c member, Bool.not_false]
  have ends : ∀ c, rest.head? = some c → ¬ (!isSeparator c) = true := fun c first => by
    rw [(stops c first).isSeparator]
    decide
  rw [readPlain, takeWhile_append chars ends, dropWhile_append chars ends]
  rfl

private theorem readValue_padded {before after : List Char} (leading : IsBlank before)
    (marked : Written (.marked setting) text) (trailing : IsBlank after) {fuel : Nat}
    (read : readMarked fuel (text ++ (after ++ rest)) = some (setting, after ++ rest))
    (stops : Stops rest) :
    readValue (fuel + 1) (before ++ (text ++ after) ++ rest) = some (setting, rest) := by
  rw [List.append_assoc, List.append_assoc, readValue_succ,
    skipSpace_append leading (marked.opens.isSolid _), read, Option.map_some,
    skipSpace_append trailing stops.isSolid]

private theorem readValue_plain {before : List Char} (leading : IsBlank before)
    (plain : IsPlain text)
    (stops : Stops rest) (fuel : Nat) :
    readValue (fuel + 1) (before ++ text ++ rest) = some (plainSetting text, rest) := by
  have unmarked : ∀ c, (text ++ rest).head? = some c → ¬ isSpace c ∧ c ∉ marks := by
    cases text with
    | nil => exact fun c first => ⟨stops.isSolid c first, (stops c first).not_mem_marks⟩
    | cons c text => exact plain.unmarked
  have noWord : readWords (text ++ rest) = none :=
    readWords_eq_none_iff.mpr fun word listed =>
      not_prefix_append_of_stops listed (plain.wordless word listed) stops
  rw [List.append_assoc, readValue_succ,
    skipSpace_append leading fun c first => (unmarked c first).1, readMarked_of_wordless noWord,
    readWordless_plain fun c first => (unmarked c first).2, readPlain_append plain.whole stops,
    Option.map_some, skipSpace_eq stops.isSolid]

/-- The reader of a part takes the text, with enough fuel and whatever may follow. -/
def IsTaken : Part → List Char → Prop
  | .marked setting, text => ∀ fuel rest, text.length ≤ fuel →
      readMarked fuel (text ++ rest) = some (setting, rest)
  | .value setting, text => ∀ fuel rest, text.length < fuel → Stops rest →
      readValue fuel (text ++ rest) = some (setting, rest)
  | .member container, text => ∀ fuel rest, text.length < fuel → Stops rest →
      readMember fuel container (text ++ rest) = some rest
  | .members container, text => ∀ fuel steps rest, text.length < fuel → text.length < steps →
      readMembers (readMember fuel container) container.closing steps
        (text ++ container.closing :: rest) = some rest

private theorem isTaken_container {container : Container}
    (inner : IsTaken (.members container) text) :
    IsTaken (.marked .other) (container.opening :: (text ++ [container.closing])) := by
  intro fuel rest enough
  rw [List.length_cons, List.length_append, List.length_singleton] at enough
  rw [enclosed_append]
  refine readMarked_container container (inner fuel _ rest (by omega) ?_)
  rw [List.length_append]
  omega

private theorem isTaken_entry {before key after : List Char} (leading : IsBlank before)
    (isKey : IsKey key)
    (trailing : IsBlank after) (value : IsTaken (.value setting) text) :
    IsTaken (.member .table) (before ++ (key ++ (after ++ '=' :: text))) := by
  intro fuel rest enough stops
  simp only [List.length_append, List.length_cons] at enough
  have read := readKey_append leading isKey trailing (text ++ rest)
  simp only [List.append_assoc, List.cons_append, readMember]
  rw [read, Option.bind_some, value fuel rest (by omega) stops]
  rfl

private theorem isTaken_last {container : Container} (written : Written (.member container) text)
    (member : IsTaken (.member container) text) : IsTaken (.members container) text := by
  intro fuel steps rest enough room
  obtain ⟨steps, rfl⟩ := Nat.exists_eq_succ_of_ne_zero (Nat.ne_zero_of_lt room)
  cases text with
  | nil => exact readMembers_closing _ _ _ _
  | cons c text =>
      have goesOn : c ≠ container.closing := fun same =>
        written.starts_member c rfl (Or.inr ⟨container, same⟩)
      have noComma : container.closing ≠ ',' := by cases container <;> decide
      have taken := member fuel _ enough (stops_closing container rest)
      exact readMembers_last goesOn noComma taken steps

private theorem isTaken_more {container : Container} {others : List Char}
    (written : Written (.member container) text) (member : IsTaken (.member container) text)
    (inner : IsTaken (.members container) others) :
    IsTaken (.members container) (text ++ ',' :: others) := by
  intro fuel steps rest enough room
  rw [List.length_append, List.length_cons] at enough room
  obtain ⟨steps, rfl⟩ := Nat.exists_eq_succ_of_ne_zero (Nat.ne_zero_of_lt room)
  have taken := member fuel _ (by omega) (stops_comma (others ++ container.closing :: rest))
  have goesOn : ∀ c, (text ++ ',' :: (others ++ container.closing :: rest)).head? = some c →
      c ≠ container.closing := by
    cases text with
    | nil =>
        rintro _ ⟨⟩
        cases container <;> decide
    | cons c text =>
        rintro _ ⟨⟩ same
        exact written.starts_member c rfl (Or.inr ⟨container, same⟩)
  obtain ⟨c, after, split⟩ := List.exists_cons_of_ne_nil (List.append_ne_nil_of_right_ne_nil text
    (List.cons_ne_nil ',' (others ++ container.closing :: rest)))
  rw [List.append_assoc, List.cons_append]
  rw [split] at taken goesOn ⊢
  rw [readMembers_more (goesOn c rfl) taken]
  exact inner fuel steps rest (by omega) (by omega)

/-- **Completeness.** What is written by the notation is taken, whatever comes after it. -/
theorem Written.isTaken (written : Written part text) : IsTaken part text := by
  induction written with
  | word listed => exact fun fuel rest _ => readMarked_word listed fuel rest
  | quoted quoted => exact fun fuel rest _ => readMarked_quoted quoted fuel rest
  | character c => exact fun fuel rest _ => readMarked_character c fuel rest
  | container container members ih => exact isTaken_container ih
  | padded leading marked trailing ih =>
      intro fuel rest enough stops
      obtain ⟨fuel, rfl⟩ := Nat.exists_eq_succ_of_ne_zero (Nat.ne_zero_of_lt enough)
      simp only [List.length_append] at enough
      exact readValue_padded leading marked trailing (ih fuel _ (by omega)) stops
  | plain leading plain =>
      intro fuel rest enough stops
      obtain ⟨fuel, rfl⟩ := Nat.exists_eq_succ_of_ne_zero (Nat.ne_zero_of_lt enough)
      exact readValue_plain leading plain stops fuel
  | item value ih =>
      intro fuel rest enough stops
      rw [readMember, ih fuel rest enough stops]
      rfl
  | entry leading isKey trailing value ih => exact isTaken_entry leading isKey trailing ih
  | none container =>
      intro fuel steps rest _ room
      obtain ⟨steps, rfl⟩ := Nat.exists_eq_succ_of_ne_zero (Nat.ne_zero_of_lt room)
      exact readMembers_closing _ _ _ _
  | last written ih => exact isTaken_last written ih
  | more written others ihMember ihOthers => exact isTaken_more written ihMember ihOthers

/-- A written value is read as what it sets, up to what ends it. -/
theorem readValue_append (written : Written (.value setting) text) (stops : Stops rest) {fuel : Nat}
    (enough : text.length < fuel) : readValue fuel (text ++ rest) = some (setting, rest) :=
  written.isTaken fuel rest enough stops

end Completeness

section Soundness

variable {setting : Setting} {text rest : List Char} {fuel : Nat}

/-- After any white space the text says a value, up to the rest. -/
def SaysBefore (setting : Setting) (text rest : List Char) : Prop :=
  ∃ value, text = value ++ rest ∧
    ∀ before, IsBlank before → Written (.value setting) (before ++ value)

private theorem saysBefore_of_marked (marked : Written (.marked setting) text) (rest : List Char) :
    SaysBefore setting (text ++ rest) (skipSpace rest) := by
  obtain ⟨after, split, trailing, -⟩ := exists_blank rest
  refine ⟨text ++ after, ?_, fun before leading => .padded leading marked trailing⟩
  rw [List.append_assoc, ← split]

private theorem saysBefore_readPlain (solid : ∀ c, text.head? = some c → ¬ isSpace c ∧ c ∉ marks)
    (wordless : readWords text = none) :
    SaysBefore (readPlain text).1 text (skipSpace (readPlain text).2) := by
  have begins : text.takeWhile (fun c => !isSeparator c) <+: text := List.takeWhile_prefix _
  have ends : IsSolid (readPlain text).2 := by
    intro c first
    have stops := List.head?_dropWhile_not (fun c => !isSeparator c) text
    rw [readPlain] at first
    rw [first] at stops
    exact not_isSpace_of_isSeparator (by simpa using stops)
  have plain : IsPlain (text.takeWhile fun c => !isSeparator c) :=
    { whole := fun c member => by simpa using List.mem_takeWhile_imp member
      unmarked := fun c first => by
        obtain ⟨after, split⟩ := begins
        exact solid c (by rw [← split, List.head?_append, first, Option.some_or])
      wordless := fun word listed within =>
        readWords_eq_none_iff.mp wordless word listed (within.trans begins) }
  refine ⟨text.takeWhile fun c => !isSeparator c, ?_, fun before leading => .plain leading plain⟩
  rw [skipSpace_eq ends]
  exact List.takeWhile_append_dropWhile.symm

variable (sound : ∀ {text rest setting}, readValue fuel text = some (setting, rest) →
  ∃ value, text = value ++ rest ∧ Written (.value setting) value)
include sound

private theorem exists_written_of_readMember {container : Container}
    (read : readMember fuel container text = some rest) :
    ∃ member, text = member ++ rest ∧ Written (.member container) member := by
  cases container with
  | list =>
      obtain ⟨⟨setting, _⟩, found, rfl⟩ := Option.map_eq_some_iff.mp read
      obtain ⟨value, split, written⟩ := sound found
      exact ⟨value, split, .item written⟩
  | table =>
      obtain ⟨beyond, named, told⟩ := Option.bind_eq_some_iff.mp read
      obtain ⟨⟨setting, _⟩, found, rfl⟩ := Option.map_eq_some_iff.mp told
      obtain ⟨before, key, after, rfl, leading, isKey, trailing⟩ := exists_parts_of_readKey named
      obtain ⟨value, rfl, written⟩ := sound found
      exact ⟨before ++ (key ++ (after ++ '=' :: value)),
        by simp only [List.append_assoc, List.cons_append], .entry leading isKey trailing written⟩

private theorem saysBefore_of_readInner {container : Container}
    (read : (readInner fuel container text).map (fun rest => (Setting.other, rest)) =
      some (setting, rest)) :
    SaysBefore setting (container.opening :: text) (skipSpace rest) := by
  obtain ⟨_, inner, same⟩ := Option.map_eq_some_iff.mp read
  cases same
  obtain ⟨body, rfl, members⟩ : ∃ body, text = body ++ container.closing :: rest ∧
      Written (.members container) body :=
    exists_inner_of_readMembers (exists_written_of_readMember sound) (.none container) .last .more
      inner
  rw [← enclosed_append]
  exact saysBefore_of_marked (.container container members) rest

private theorem saysBefore_of_readWordless (solid : IsSolid text) (wordless : readWords text = none)
    (read : readWordless fuel text = some (setting, rest)) :
    SaysBefore setting text (skipSpace rest) := by
  unfold readWordless at read
  split at read
  · exact saysBefore_of_readInner sound read
  · exact saysBefore_of_readInner sound read
  · obtain ⟨⟨content, _⟩, found, same⟩ := Option.map_eq_some_iff.mp read
    cases same
    obtain ⟨body, rfl, quoted⟩ := Text.exists_isQuoted_of_readQuoted found
    rw [← enclosed_append]
    exact saysBefore_of_marked (.quoted quoted) rest
  · cases read
    exact saysBefore_of_marked (.character _) rest
  · cases read
  · next noList noTable noQuote _ noMark =>
      cases read
      refine saysBefore_readPlain (fun c first => ⟨solid c first, fun marked => ?_⟩) wordless
      obtain ⟨tail, rfl⟩ := List.head?_eq_some_iff.mp first
      simp only [marks, List.mem_cons, List.not_mem_nil, or_false] at marked
      rcases marked with rfl | rfl | rfl | rfl
      · exact noQuote _ rfl
      · exact noMark _ rfl
      · exact noList _ rfl
      · exact noTable _ rfl

/-- **Soundness.** What is read is written by the notation, up to the blanks after it. -/
theorem saysBefore_of_readMarked (solid : IsSolid text)
    (read : readMarked fuel text = some (setting, rest)) :
    SaysBefore setting text (skipSpace rest) := by
  cases found : readWords text with
  | none =>
      rw [readMarked_of_wordless found] at read
      exact saysBefore_of_readWordless sound solid found read
  | some after =>
      rw [readMarked_of_word found] at read
      cases read
      obtain ⟨word, listed, rfl⟩ := exists_word_of_readWords found
      exact saysBefore_of_marked (.word listed) rest

omit sound in
/-- What the reader takes is written for what it reads. -/
theorem exists_written_of_readValue (read : readValue fuel text = some (setting, rest)) :
    ∃ value, text = value ++ rest ∧ Written (.value setting) value := by
  induction fuel generalizing text setting rest with
  | zero => cases read
  | succ fuel ih =>
      rw [readValue_succ] at read
      obtain ⟨⟨_, after⟩, marked, same⟩ := Option.map_eq_some_iff.mp read
      cases same
      obtain ⟨before, split, leading, solid⟩ := exists_blank text
      obtain ⟨value, taken, written⟩ := saysBefore_of_readMarked ih solid marked
      exact ⟨before ++ value, by rw [List.append_assoc, ← taken, ← split], written before leading⟩

end Soundness

/-- What is written for a value is what the reader takes whole. -/
theorem written_value_iff {setting : Setting} {text : List Char} :
    Written (.value setting) text ↔ readValue (text.length + 1) text = some (setting, []) := by
  constructor
  · intro written
    have read := readValue_append written stops_nil (Nat.lt_succ_self text.length)
    rwa [List.append_nil] at read
  · intro read
    obtain ⟨value, split, written⟩ := exists_written_of_readValue read
    rw [List.append_nil] at split
    exact split ▸ written

instance (setting : Setting) (text : List Char) : Decidable (Written (.value setting) text) :=
  decidable_of_iff _ written_value_iff.symm

/-- The text is no value of the notation. -/
def Unwritten (text : List Char) : Prop := ∀ setting, ¬ Written (.value setting) text

private theorem unwritten_iff {text : List Char} :
    Unwritten text ↔ ∀ found ∈ readValue (text.length + 1) text, found.2 ≠ [] := by
  constructor
  · rintro unwritten ⟨setting, rest⟩ read rfl
    exact unwritten setting (written_value_iff.mpr read)
  · exact fun left setting written => left _ (written_value_iff.mp written) rfl

instance (text : List Char) : Decidable (Unwritten text) := decidable_of_iff _ unwritten_iff.symm

section Settings

variable {setting : Setting} {text : String}

/-- A written value sets what it is written for. -/
theorem settingOf_of_written (written : Written (.value setting) text.toList) :
    settingOf text = setting := by
  have read := written_value_iff.mp written
  rw [String.length_toList] at read
  rw [settingOf, read]

/-- Any other text stands for itself. -/
theorem settingOf_of_unwritten (unwritten : Unwritten text.toList) :
    settingOf text = .text text := by
  rw [settingOf]
  split
  · next setting read =>
      rw [← String.length_toList] at read
      exact absurd (written_value_iff.mpr read) (unwritten setting)
  · rfl

private theorem length_trim_le (text : List Char) : (Unicode.trim text).length ≤ text.length := by
  rw [Unicode.trim, List.length_reverse]
  calc _ ≤ _ := (List.dropWhile_sublist _).length_le
    _ = _ := List.length_reverse
    _ ≤ _ := (List.dropWhile_sublist _).length_le

/-- Quotes say less than they are. -/
theorem Written.length_lt {content : String} {text : List Char}
    (marked : Written (.marked (.text content)) text) : content.length < text.length := by
  cases marked with
  | quoted quoted =>
      have shorter := quoted.length_le
      rw [String.length_ofList, List.length_cons, List.length_append]
      omega
  | character c =>
      have single : c.toString.length = 1 := String.length_singleton
      rw [single]
      exact (by decide : 1 < 3)

/-- Plain text without white space at its ends that is no number. -/
structure IsVerbatim (text : List Char) : Prop extends IsPlain text where
  trimmed : Unicode.trim text = text
  noNumber : ¬ isNumber text

private theorem plainSetting_of_isVerbatim {text : List Char} (verbatim : IsVerbatim text) :
    plainSetting text = .text (String.ofList text) := by
  rw [plainSetting, verbatim.trimmed]
  exact if_neg verbatim.noNumber

/-- A written value that says all of itself is plain. -/
theorem Written.isVerbatim {text : List Char} (value : Written (.value setting) text)
    (same : setting = .text (String.ofList text)) : IsVerbatim text := by
  cases value with
  | padded leading marked trailing =>
      subst same
      have shorter := marked.length_lt
      simp only [String.length_ofList, List.length_append] at shorter
      omega
  | @plain before text leading plain =>
      unfold plainSetting at same
      split at same
      · cases same
      · next noNumber =>
          have whole : Unicode.trim text = before ++ text :=
            String.ofList_injective (Setting.text.inj same)
          have within := length_trim_le text
          rw [whole, List.length_append] at within
          obtain rfl : before = [] := List.eq_nil_of_length_eq_zero (by omega)
          exact { plain with trimmed := whole, noNumber := whole ▸ noNumber }

/-- The texts that are settings as they stand. -/
theorem settingOf_eq_text_iff :
    settingOf text = .text text ↔ Unwritten text.toList ∨ IsVerbatim text.toList := by
  constructor
  · intro same
    refine or_iff_not_imp_left.mpr fun some => ?_
    obtain ⟨setting, written⟩ := not_forall_not.mp some
    rw [settingOf_of_written written] at same
    exact written.isVerbatim (by rw [same, String.ofList_toList])
  · rintro (unwritten | verbatim)
    · exact settingOf_of_unwritten unwritten
    · have written : Written _ ([] ++ text.toList) := .plain nofun verbatim.toIsPlain
      rw [List.nil_append, plainSetting_of_isVerbatim verbatim, String.ofList_toList] at written
      exact settingOf_of_written written

end Settings

end Environment

end FormValidity
