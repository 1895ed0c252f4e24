import FormValidity.Predicate.Format
import FormValidity.Proofs.Pattern.Matching
import Mathlib.Computability.Language

/-! # The language of an expression

An expression without conditions on positions reads the words of a language, wherever in a text it
begins (`Expression.matches_iff_reads`). Anchored at both ends it matches in a text if and only if
the text is one of these words (`Expression.matchesIn_whole_iff`).
-/

namespace FormValidity

open scoped Computability

namespace Expression

/-- The words that an expression reads, its conditions on positions being taken as met. -/
def language : Expression → Language Char
  | .empty => 1
  | .oneOf c => {word | ∃ char, c.contains char ∧ word = [char]}
  | .look _ => 1
  | .seq first second => language first * language second
  | .alt first second => language first + language second
  | .optional _ body => 1 + language body
  | .star _ body => (language body)∗
  | .plus _ body => language body * (language body)∗
  | .times count body => language body ^ count
  | .upTo _ most body => {word | ∃ count ≤ most, word ∈ language body ^ count}

/-- Whether an expression is free of conditions on positions. -/
def isPlain : Expression → Bool
  | .empty => true
  | .oneOf _ => true
  | .look _ => false
  | .seq first second => isPlain first && isPlain second
  | .alt first second => isPlain first && isPlain second
  | .optional _ body => isPlain body
  | .star _ body => isPlain body
  | .plus _ body => isPlain body
  | .times _ body => isPlain body
  | .upTo _ _ body => isPlain body

end Expression

/-- A word of a language stands in a text between two positions. -/
def Reads (words : Language Char) (text : List Char) (start stop : Nat) : Prop :=
  ∃ word ∈ words, word <+: text.drop start ∧ stop = start + word.length

namespace Reads

variable {first second words : Language Char} {text : List Char} {start stop : Nat}

private theorem one_iff : Reads 1 text start stop ↔ stop = start := by
  simp only [Reads, Language.mem_one, exists_eq_left, List.nil_prefix, true_and, List.length_nil,
    Nat.add_zero]

/-- A word of a sum is read exactly if it is one of the first language or of the second. -/
theorem add_iff :
    Reads (first + second) text start stop ↔
      Reads first text start stop ∨ Reads second text start stop := by
  simp only [Reads, Language.mem_add, or_and_right, exists_or]

private theorem append_prefix_iff {before after text : List Char} :
    before ++ after <+: text ↔ before <+: text ∧ after <+: text.drop before.length := by
  constructor
  · rintro ⟨rest, rfl⟩
    simp only [List.append_assoc, List.prefix_append, List.drop_left, and_self]
  · rintro ⟨⟨rest, rfl⟩, later⟩
    rw [List.drop_left] at later
    exact (List.prefix_append_right_inj before).mpr later

/-- A product is read in two parts. -/
theorem mul_iff :
    Reads (first * second) text start stop ↔
      ∃ middle, Reads first text start middle ∧ Reads second text middle stop := by
  constructor
  · rintro ⟨_, product, stands, rfl⟩
    obtain ⟨before, among, after, follows, rfl⟩ := Language.mem_mul.mp product
    rw [append_prefix_iff, List.drop_drop] at stands
    refine ⟨_, ⟨before, among, stands.1, rfl⟩, after, follows, stands.2, ?_⟩
    rw [List.length_append, Nat.add_assoc]
  · rintro ⟨_, ⟨before, among, stands, rfl⟩, after, follows, later, rfl⟩
    refine ⟨_, Language.append_mem_mul among follows, ?_, ?_⟩
    · rw [append_prefix_iff, List.drop_drop]
      exact ⟨stands, later⟩
    · rw [List.length_append, Nat.add_assoc]

/-- A power is read in as many turns. -/
theorem pow_iff (count : Nat) :
    Reads (words ^ count) text start stop ↔ Turns (Reads words text) count start stop := by
  induction count generalizing start with
  | zero => rw [pow_zero, one_iff, Turns, eq_comm]
  | succ count ih => simp only [pow_succ', mul_iff, ih, Turns, Relation.Comp]

/-- Any number of turns reads a word of the star. -/
theorem kstar_iff :
    Reads words∗ text start stop ↔ ∃ count, Turns (Reads words text) count start stop := by
  simp only [← pow_iff, Reads, Language.kstar_eq_iSup_pow, Language.mem_iSup]
  constructor
  · rintro ⟨word, ⟨count, among⟩, stands⟩
    exact ⟨count, word, among, stands⟩
  · rintro ⟨count, word, among, stands⟩
    exact ⟨word, ⟨count, among⟩, stands⟩

private theorem upTo_iff (most : Nat) :
    Reads {word | ∃ count ≤ most, word ∈ words ^ count} text start stop ↔
      ∃ count ≤ most, Turns (Reads words text) count start stop := by
  simp only [← pow_iff]
  constructor
  · rintro ⟨word, ⟨count, few, among⟩, stands⟩
    exact ⟨count, few, word, among, stands⟩
  · rintro ⟨count, few, word, among, stands⟩
    exact ⟨word, ⟨count, few, among⟩, stands⟩

private theorem oneOf_iff {c : CharClass} :
    Reads (Expression.language (.oneOf c)) text start stop ↔
      start ∈ c.places text ∧ stop = start + 1 := by
  rw [CharClass.mem_places_iff, ← List.head?_drop]
  constructor
  · rintro ⟨_, ⟨char, inside, rfl⟩, ⟨rest, split⟩, rfl⟩
    exact ⟨⟨char, by rw [← split]; rfl, inside⟩, rfl⟩
  · rintro ⟨⟨char, found, inside⟩, rfl⟩
    obtain ⟨rest, split⟩ := List.head?_eq_some_iff.mp found
    exact ⟨[char], ⟨char, inside, rfl⟩, ⟨rest, split.symm⟩, rfl⟩

end Reads

namespace Expression

variable {e : Expression} {text : List Char}

/-- **An expression without conditions on positions matches where one of its words stands.** -/
theorem matches_eq_reads (plain : e.isPlain) : e.Matches text = Reads e.language text := by
  induction e with
  | empty =>
      ext start stop
      exact Reads.one_iff.symm
  | oneOf c =>
      ext start stop
      exact Reads.oneOf_iff.symm
  | look condition => cases plain
  | seq first second ihFirst ihSecond =>
      obtain ⟨plainFirst, plainSecond⟩ := Bool.and_eq_true_iff.mp plain
      ext start stop
      rw [language, Reads.mul_iff, ← ihFirst plainFirst, ← ihSecond plainSecond]
      rfl
  | alt first second ihFirst ihSecond =>
      obtain ⟨plainFirst, plainSecond⟩ := Bool.and_eq_true_iff.mp plain
      ext start stop
      rw [language, Reads.add_iff, ← ihFirst plainFirst, ← ihSecond plainSecond]
      rfl
  | optional _ body ih =>
      ext start stop
      rw [language, Reads.add_iff, Reads.one_iff, ← ih plain]
      rfl
  | star _ body ih =>
      ext start stop
      rw [language, Reads.kstar_iff, ← ih plain]
      rfl
  | plus _ body ih =>
      ext start stop
      simp only [language, Reads.mul_iff, Reads.kstar_iff, ← ih plain]
      constructor
      · rintro ⟨count, middle, first, later⟩
        exact ⟨middle, first, count, later⟩
      · rintro ⟨middle, first, count, later⟩
        exact ⟨count, middle, first, later⟩
  | times count body ih =>
      ext start stop
      rw [language, Reads.pow_iff, ← ih plain]
      rfl
  | upTo _ most body ih =>
      ext start stop
      rw [language, Reads.upTo_iff, ← ih plain]
      rfl

private theorem mem_places_textStart_iff {position : Nat} :
    position ∈ Look.textStart.places text ↔ position = 0 := by
  simp only [Look.mem_places_iff, Look.holds, Option.isNone_iff_eq_none]
  cases position with
  | zero => simp only [before?, Nat.zero_le, and_self]
  | succ position =>
      simp only [before?, List.getElem?_eq_none_iff]
      omega

private theorem mem_places_textEnd_iff {position : Nat} :
    position ∈ Look.textEnd.places text ↔ position = text.length := by
  simp only [Look.mem_places_iff, Look.holds, Option.isNone_iff_eq_none,
    List.getElem?_eq_none_iff]
  omega

private theorem reads_whole_iff {words : Language Char} :
    Reads words text 0 text.length ↔ text ∈ words := by
  constructor
  · rintro ⟨word, among, stands, long⟩
    rw [List.drop_zero] at stands
    exact stands.eq_of_length (by omega) ▸ among
  · intro among
    exact ⟨text, among, List.prefix_rfl, (Nat.zero_add _).symm⟩

/-- Between the ends of the text a plain expression matches the words of its language. -/
theorem matches_whole_iff (plain : e.isPlain) {start stop : Nat} :
    (Format.whole e).Matches text start stop ↔
      start = 0 ∧ stop = text.length ∧ text ∈ e.language := by
  have unfolded : (Format.whole e).Matches text start stop ↔
      ∃ first, (start ∈ Look.textStart.places text ∧ first = start) ∧
        ∃ last, e.Matches text first last ∧ last ∈ Look.textEnd.places text ∧ stop = last := Iff.rfl
  rw [unfolded, matches_eq_reads plain, mem_places_textStart_iff]
  simp only [mem_places_textEnd_iff]
  constructor
  · rintro ⟨_, ⟨rfl, rfl⟩, _, reads, rfl, rfl⟩
    exact ⟨rfl, rfl, reads_whole_iff.mp reads⟩
  · rintro ⟨rfl, rfl, among⟩
    exact ⟨0, ⟨rfl, rfl⟩, text.length, reads_whole_iff.mpr among, rfl, rfl⟩

/-- **Anchored at both ends an expression matches in the texts that are its words.** -/
theorem matchesIn_whole_iff (plain : e.isPlain) :
    (Format.whole e).matchesIn text ↔ text ∈ e.language := by
  simp only [matchesIn_iff, matches_whole_iff plain]
  constructor
  · rintro ⟨_, _, _, _, _, among⟩
    exact among
  · intro among
    exact ⟨0, Nat.zero_le _, text.length, rfl, rfl, among⟩

/-- One of two expressions matches in a text exactly if the first or the second does. -/
theorem matchesIn_alt_iff {first second : Expression} :
    matchesIn (.alt first second) text ↔ first.matchesIn text ∨ second.matchesIn text := by
  simp only [matchesIn_iff, ← exists_or, ← and_or_left]
  rfl

variable {c : CharClass} {word : List Char}

/-- A word of a sequence is one of the first expression before one of the second. -/
theorem mem_language_seq_iff {first second : Expression} :
    word ∈ language (.seq first second) ↔
      ∃ before ∈ first.language, ∃ after ∈ second.language, before ++ after = word :=
  Language.mem_mul

/-- The powers of a class are its words of one length. -/
theorem mem_language_oneOf_pow_iff {count : Nat} :
    word ∈ language (.oneOf c) ^ count ↔ word.length = count ∧ ∀ char ∈ word, c.contains char := by
  induction count generalizing word with
  | zero =>
      rw [pow_zero, Language.mem_one, List.length_eq_zero_iff]
      exact ⟨fun nil => ⟨nil, by simp [nil]⟩, And.left⟩
  | succ count ih =>
      rw [pow_succ', Language.mem_mul]
      constructor
      · rintro ⟨_, ⟨char, inside, rfl⟩, rest, among, rfl⟩
        obtain ⟨rfl, all⟩ := ih.mp among
        exact ⟨rfl, List.forall_mem_cons.mpr ⟨inside, all⟩⟩
      · rintro ⟨long, all⟩
        obtain ⟨char, rest, rfl⟩ := List.exists_cons_of_length_eq_add_one long
        obtain ⟨inside, all⟩ := List.forall_mem_cons.mp all
        exact ⟨[char], ⟨char, inside, rfl⟩, rest, ih.mpr ⟨Nat.succ.inj long, all⟩, rfl⟩

private theorem mem_mul_kstar_iff {words : Language Char} :
    word ∈ words * words∗ ↔ ∃ count, word ∈ words ^ (count + 1) := by
  simp only [Language.kstar_eq_iSup_pow, Language.mul_iSup, Language.mem_iSup, pow_succ']

/-- A class repeated at least once has its nonempty words. -/
theorem mem_language_plus_oneOf_iff {greedy : Bool} :
    word ∈ language (.plus greedy (.oneOf c)) ↔ word ≠ [] ∧ ∀ char ∈ word, c.contains char := by
  change word ∈ language (.oneOf c) * (language (.oneOf c))∗ ↔ _
  simp only [mem_mul_kstar_iff, mem_language_oneOf_pow_iff, exists_and_right]
  refine and_congr_left fun _ => ?_
  rw [← List.length_pos_iff]
  exact ⟨fun ⟨count, long⟩ => by omega, fun long => ⟨word.length - 1, by omega⟩⟩

/-- A class at least `least` times and at most `extra` times more. -/
theorem mem_language_times_upTo_oneOf_iff {greedy : Bool} {least extra : Nat} :
    word ∈ language (.seq (.times least (.oneOf c)) (.upTo greedy extra (.oneOf c))) ↔
      least ≤ word.length ∧ word.length ≤ least + extra ∧ ∀ char ∈ word, c.contains char := by
  have counted : word ∈ language (.seq (.times least (.oneOf c)) (.upTo greedy extra (.oneOf c))) ↔
      ∃ count ≤ extra, word ∈ language (.oneOf c) ^ (least + count) := by
    simp only [mem_language_seq_iff, pow_add, Language.mem_mul]
    constructor
    · rintro ⟨before, among, after, ⟨count, few, more⟩, joined⟩
      exact ⟨count, few, before, among, after, more, joined⟩
    · rintro ⟨count, few, before, among, after, more, joined⟩
      exact ⟨before, among, after, ⟨count, few, more⟩, joined⟩
  simp only [counted, mem_language_oneOf_pow_iff]
  constructor
  · rintro ⟨count, few, long, all⟩
    exact ⟨by omega, by omega, all⟩
  · rintro ⟨long, short, all⟩
    exact ⟨word.length - least, by omega, by omega, all⟩

end Expression

namespace Format

variable {word : List Char}

/-- A class of single characters has those characters. -/
theorem contains_singles_iff {c : Char} {members : List Char} :
    (CharClass.unions (members.map .single)).contains c ↔ c ∈ members := by
  simp only [CharClass.contains_unions, List.any_map, List.any_eq_true, Function.comp_apply,
    CharClass.contains_single, decide_eq_true_eq, exists_eq_right']

/-- The language of a character is that one word. -/
theorem mem_language_char_iff {c : Char} :
    word ∈ (char c).language ↔ word = [c] := by
  change (∃ other, (CharClass.single c).contains other ∧ word = [other]) ↔ _
  simp only [CharClass.contains_single, decide_eq_true_eq, exists_eq_left]

/-- An optional expression has its words and the empty one. -/
theorem mem_language_maybe_iff {e : Expression} :
    word ∈ (maybe e).language ↔ word = [] ∨ word ∈ e.language :=
  Language.mem_add _ _ _

/-- Some characters of a class are its nonempty words. -/
theorem mem_language_some_oneOf_iff {c : CharClass} :
    word ∈ (some (.oneOf c)).language ↔ word ≠ [] ∧ ∀ char ∈ word, c.contains char :=
  Expression.mem_language_plus_oneOf_iff

end Format

end FormValidity
