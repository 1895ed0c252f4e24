import FormValidity.Pattern.Matching
import Mathlib.Logic.Relation

/-! # What an expression matches

An expression relates the positions of a text where a match begins to those where it ends
(`Regular.Matches`). The search carries a set of positions through the expression at once and ends a
repetition as soon as a turn adds nothing; it reaches exactly the ends of the matches that begin in
the set (`Regular.mem_reach_map_iff`), so an expression matches somewhere in a text if and only if
some positions of the text are related (`Expression.matchesIn_iff`).
-/

namespace FormValidity

/-- Where a number of turns leads, each beginning where the one before has ended. -/
def Turns (turn : Nat → Nat → Prop) : Nat → Nat → Nat → Prop
  | 0 => Eq
  | count + 1 => Relation.Comp turn (Turns turn count)

namespace Turns

variable {turn : Nat → Nat → Prop} {size count start stop : Nat}

/-- Turns that do not go back and stay in the text do so together. -/
theorem advances
    (forward : ∀ start stop, turn start stop → stop = start ∨ start < stop ∧ stop ≤ size)
    (turns : Turns turn count start stop) : stop = start ∨ start < stop ∧ stop ≤ size := by
  induction count generalizing start with
  | zero => exact Or.inl (Eq.symm turns)
  | succ count ih =>
      obtain ⟨middle, first, later⟩ := turns
      have := forward start middle first
      have := ih later
      omega

/-- Turns that stay where they are can be left out, so no more are needed than there are
characters on the way. -/
theorem exists_le_sub
    (forward : ∀ start stop, turn start stop → stop = start ∨ start < stop ∧ stop ≤ size)
    (turns : Turns turn count start stop) :
    ∃ fewer ≤ stop - start, Turns turn fewer start stop := by
  induction count generalizing start with
  | zero => exact ⟨0, Nat.zero_le _, turns⟩
  | succ count ih =>
      obtain ⟨middle, first, later⟩ := turns
      obtain ⟨fewer, few, short⟩ := ih later
      rcases forward start middle first with rfl | ⟨ahead, _⟩
      · exact ⟨fewer, few, short⟩
      · have := later.advances forward
        exact ⟨fewer + 1, by omega, middle, first, short⟩

private theorem exists_le
    (forward : ∀ start stop, turn start stop → stop = start ∨ start < stop ∧ stop ≤ size)
    (turns : Turns turn count start stop) : ∃ fewer ≤ size, Turns turn fewer start stop := by
  rcases turns.advances forward with rfl | ⟨_, within⟩
  · exact ⟨0, Nat.zero_le _, rfl⟩
  · obtain ⟨fewer, few, short⟩ := turns.exists_le_sub forward
    exact ⟨fewer, by omega, short⟩

/-- A turn and then any number of turns are at least one turn. -/
theorem comp_exists_iff (start stop : Nat) :
    Relation.Comp turn (fun middle stop => ∃ count, Turns turn count middle stop) start stop ↔
      ∃ count, Turns turn (count + 1) start stop := by
  constructor
  · rintro ⟨middle, first, count, later⟩
    exact ⟨count, middle, first, later⟩
  · rintro ⟨count, middle, first, later⟩
    exact ⟨middle, first, count, later⟩

/-- Any number of turns are at least one turn or none. -/
theorem exists_succ_or_eq_iff (start stop : Nat) :
    ((∃ count, Turns turn (count + 1) start stop) ∨ stop = start) ↔
      ∃ count, Turns turn count start stop := by
  constructor
  · rintro (⟨count, turns⟩ | rfl)
    · exact ⟨count + 1, turns⟩
    · exact ⟨0, rfl⟩
  · rintro ⟨_ | count, turns⟩
    · exact Or.inr (Eq.symm turns)
    · exact Or.inl ⟨count, turns⟩

/-- No turn stays where it is. -/
theorem eq_iff_exists_le_zero (start stop : Nat) :
    stop = start ↔ ∃ count ≤ 0, Turns turn count start stop := by
  constructor
  · rintro rfl
    exact ⟨0, Nat.le_refl _, rfl⟩
  · rintro ⟨count, few, turns⟩
    obtain rfl := Nat.le_zero.mp few
    exact Eq.symm turns

/-- At most some number of turns: none, or one and at most one less. -/
theorem exists_le_succ_iff {most : Nat} (start stop : Nat) :
    (Relation.Comp turn (fun middle stop => ∃ count ≤ most, Turns turn count middle stop) start stop
        ∨ stop = start) ↔
      ∃ count ≤ most + 1, Turns turn count start stop := by
  constructor
  · rintro (⟨middle, first, count, few, later⟩ | rfl)
    · exact ⟨count + 1, Nat.succ_le_succ few, middle, first, later⟩
    · exact ⟨0, Nat.zero_le _, rfl⟩
  · rintro ⟨_ | count, few, turns⟩
    · exact Or.inr (Eq.symm turns)
    · obtain ⟨middle, first, later⟩ := turns
      exact Or.inl ⟨middle, first, count, Nat.le_of_succ_le_succ few, later⟩

end Turns

namespace Bitset

private theorem not_isEmpty_iff {s : Bitset} : (!s.isEmpty) = true ↔ ∃ n, n ∈ s := by
  rw [Bool.not_eq_true', ← Bool.not_eq_true, isEmpty_iff, Bitset.ext_iff]
  simp only [not_mem_empty, iff_false, Classical.not_forall, Classical.not_not]

/-- An operation on sets leads from each member where a turn leads. -/
def Follows (operation : Bitset → Bitset) (turn : Nat → Nat → Prop) : Prop :=
  ∀ s stop, stop ∈ operation s ↔ ∃ start ∈ s, turn start stop

variable {operation : Bitset → Bitset} {turn : Nat → Nat → Prop}

/-- A set that an operation leaves as it is stays so under any number of turns. -/
theorem Follows.mem_fixed_iff (follows : Follows operation turn) {s : Bitset}
    (fixed : operation s = s) (count stop : Nat) :
    stop ∈ s ↔ ∃ start ∈ s, Turns turn count start stop := by
  induction count with
  | zero => exact ⟨fun member => ⟨stop, member, rfl⟩, fun ⟨_, member, same⟩ => same ▸ member⟩
  | succ count ih =>
      rw [ih]
      constructor
      · rintro ⟨middle, member, later⟩
        obtain ⟨start, first, moves⟩ := (follows s middle).mp (fixed.symm ▸ member)
        exact ⟨start, first, middle, moves, later⟩
      · rintro ⟨start, first, middle, moves, later⟩
        exact ⟨middle, fixed ▸ (follows s middle).mpr ⟨start, first, moves⟩, later⟩

/-- A repetition of an exact count reaches what so many turns reach. -/
theorem Follows.mem_iterate_iff (follows : Follows operation turn) (count : Nat) (s : Bitset)
    (stop : Nat) : stop ∈ iterate operation count s ↔ ∃ start ∈ s, Turns turn count start stop := by
  induction count generalizing s with
  | zero => exact ⟨fun member => ⟨stop, member, rfl⟩, fun ⟨_, member, same⟩ => same ▸ member⟩
  | succ count ih =>
      simp only [iterate]
      split
      case isTrue fixed => exact follows.mem_fixed_iff fixed (count + 1) stop
      case isFalse =>
        rw [ih]
        constructor
        · rintro ⟨middle, member, later⟩
          obtain ⟨start, first, moves⟩ := (follows s middle).mp member
          exact ⟨start, first, middle, moves, later⟩
        · rintro ⟨start, first, middle, moves, later⟩
          exact ⟨middle, (follows s middle).mpr ⟨start, first, moves⟩, later⟩

/-- No number of turns leads out of a set that one turn does not leave. -/
theorem Follows.mem_of_closed (follows : Follows operation turn) {s : Bitset}
    (closed : s ∪ operation s = s) {count start stop : Nat} (member : start ∈ s)
    (turns : Turns turn count start stop) : stop ∈ s := by
  induction count generalizing start with
  | zero => exact Eq.subst turns member
  | succ count ih =>
      obtain ⟨middle, moves, later⟩ := turns
      have moved : middle ∈ s := by
        rw [← closed, mem_union]
        exact Or.inr ((follows s middle).mpr ⟨start, member, moves⟩)
      exact ih moved later

/-- A repetition of at most a count reaches what at most so many turns reach. -/
theorem Follows.mem_spread_iff (follows : Follows operation turn) (most : Nat) (s : Bitset)
    (stop : Nat) :
    stop ∈ spread operation most s ↔ ∃ start ∈ s, ∃ count ≤ most, Turns turn count start stop := by
  induction most generalizing s with
  | zero =>
      constructor
      · exact fun member => ⟨stop, member, 0, Nat.le_refl _, rfl⟩
      · rintro ⟨start, member, count, few, turns⟩
        obtain rfl := Nat.le_zero.mp few
        exact Eq.subst turns member
  | succ most ih =>
      simp only [spread]
      split
      case isTrue closed =>
        constructor
        · exact fun member => ⟨stop, member, 0, Nat.zero_le _, rfl⟩
        · rintro ⟨start, member, count, _, turns⟩
          exact follows.mem_of_closed closed member turns
      case isFalse =>
        rw [ih]
        constructor
        · rintro ⟨middle, member, count, few, later⟩
          rcases mem_union.mp member with member | moved
          · exact ⟨middle, member, count, Nat.le_succ_of_le few, later⟩
          · obtain ⟨start, first, moves⟩ := (follows s middle).mp moved
            exact ⟨start, first, count + 1, Nat.succ_le_succ few, middle, moves, later⟩
        · rintro ⟨start, member, count, few, turns⟩
          cases count with
          | zero => exact ⟨start, mem_union.mpr (Or.inl member), 0, Nat.zero_le _, turns⟩
          | succ count =>
              obtain ⟨middle, moves, later⟩ := turns
              have moved := (follows s middle).mpr ⟨start, member, moves⟩
              exact ⟨middle, mem_union.mpr (Or.inr moved), count, Nat.le_of_succ_le_succ few, later⟩

end Bitset

namespace Regular

variable {σ κ : Type}

/-- An expression matches between two positions, where `takes` tells which characters the conditions
on characters admit and `holds` at which positions the conditions on positions hold. -/
def Matches (takes : σ → Nat → Prop) (holds : κ → Nat → Prop) : Regular σ κ → Nat → Nat → Prop
  | .empty, start, stop => stop = start
  | .oneOf property, start, stop => takes property start ∧ stop = start + 1
  | .look condition, start, stop => holds condition start ∧ stop = start
  | .seq first second, start, stop =>
      ∃ middle, Matches takes holds first start middle ∧ Matches takes holds second middle stop
  | .alt first second, start, stop =>
      Matches takes holds first start stop ∨ Matches takes holds second start stop
  | .optional _ body, start, stop => stop = start ∨ Matches takes holds body start stop
  | .star _ body, start, stop => ∃ count, Turns (Matches takes holds body) count start stop
  | .plus _ body, start, stop => ∃ count, Turns (Matches takes holds body) (count + 1) start stop
  | .times count body, start, stop => Turns (Matches takes holds body) count start stop
  | .upTo _ most body, start, stop =>
      ∃ count ≤ most, Turns (Matches takes holds body) count start stop

variable {takes : σ → Nat → Prop} {holds : κ → Nat → Prop} {size start stop : Nat}

/-- A match goes forward and stays in the text. -/
theorem Matches.advances (inText : ∀ property position, takes property position → position < size)
    {e : Regular σ κ} (found : e.Matches takes holds start stop) :
    stop = start ∨ start < stop ∧ stop ≤ size := by
  induction e generalizing start stop with
  | empty => exact Or.inl found
  | oneOf property =>
      obtain ⟨taken, rfl⟩ := found
      exact Or.inr ⟨Nat.lt_succ_self _, inText property start taken⟩
  | look condition => exact Or.inl found.2
  | seq first second ihFirst ihSecond =>
      obtain ⟨middle, before, after⟩ := found
      have := ihFirst before
      have := ihSecond after
      omega
  | alt first second ihFirst ihSecond => exact found.elim ihFirst ihSecond
  | optional _ body ih => exact found.elim Or.inl ih
  | star _ body ih =>
      obtain ⟨count, turns⟩ := found
      exact turns.advances fun _ _ => ih
  | plus _ body ih =>
      obtain ⟨count, turns⟩ := found
      exact turns.advances fun _ _ => ih
  | times count body ih => exact Turns.advances (fun _ _ => ih) found
  | upTo _ most body ih =>
      obtain ⟨count, _, turns⟩ := found
      exact turns.advances fun _ _ => ih

/-- An expression matches with replaced conditions what it matches with the conditions themselves.
-/
theorem matches_map {σ' κ' : Type} {onChar : σ → σ'} {onPosition : κ → κ'}
    {takes : σ' → Nat → Prop} {holds : κ' → Nat → Prop} (e : Regular σ κ) :
    (e.map onChar onPosition).Matches takes holds =
      e.Matches (fun property => takes (onChar property))
        (fun condition => holds (onPosition condition)) := by
  induction e with
  | empty => rfl
  | oneOf property => rfl
  | look condition => rfl
  | seq first second ihFirst ihSecond => ext; simp only [map, Matches, ihFirst, ihSecond]
  | alt first second ihFirst ihSecond => ext; simp only [map, Matches, ihFirst, ihSecond]
  | optional _ body ih => ext; simp only [map, Matches, ih]
  | star _ body ih => ext; simp only [map, Matches, ih]
  | plus _ body ih => ext; simp only [map, Matches, ih]
  | times _ body ih => ext; simp only [map, Matches, ih]
  | upTo _ _ body ih => ext; simp only [map, Matches, ih]

variable {onChar : σ → Bitset} {onPosition : κ → Bitset}

/-- **The search reaches exactly the ends of the matches that begin at a given position.** -/
theorem mem_reach_map_iff
    (inText : ∀ property position, position ∈ onChar property → position < size)
    (e : Regular σ κ) (starts : Bitset) (stop : Nat) :
    stop ∈ (e.map onChar onPosition).reach size starts ↔
      ∃ start ∈ starts,
        e.Matches (fun property => (· ∈ onChar property))
          (fun condition => (· ∈ onPosition condition)) start stop := by
  induction e generalizing starts stop with
  | empty => simp only [map, reach, Matches, exists_eq_right']
  | oneOf property => simp only [map, reach, Matches, Bitset.mem_next, Bitset.mem_inter, and_assoc]
  | look condition =>
      simp only [map, reach, Matches, Bitset.mem_inter, ← and_assoc, exists_eq_right']
  | seq first second ihFirst ihSecond =>
      simp only [map, reach, Matches, ihFirst, ihSecond]
      constructor
      · rintro ⟨middle, ⟨start, member, before⟩, after⟩
        exact ⟨start, member, middle, before, after⟩
      · rintro ⟨start, member, middle, before, after⟩
        exact ⟨middle, ⟨start, member, before⟩, after⟩
  | alt first second ihFirst ihSecond =>
      simp only [map, reach, Matches, Bitset.mem_union, ihFirst, ihSecond, and_or_left, exists_or]
  | optional greedy body ih =>
      simp only [map, reach, Matches, Bitset.mem_union, ih, and_or_left, exists_or,
        exists_eq_right']
  | star greedy body ih =>
      have follows : Bitset.Follows ((body.map onChar onPosition).reach size) _ := ih
      simp only [map, reach, Matches, follows.mem_spread_iff]
      refine exists_congr fun start => and_congr_right fun _ => ?_
      constructor
      · rintro ⟨count, _, turns⟩
        exact ⟨count, turns⟩
      · rintro ⟨count, turns⟩
        exact turns.exists_le fun _ _ moves => Matches.advances inText moves
  | plus greedy body ih =>
      have follows : Bitset.Follows ((body.map onChar onPosition).reach size) _ := ih
      simp only [map, reach, Matches, follows.mem_spread_iff, ih]
      constructor
      · rintro ⟨middle, ⟨start, member, moves⟩, count, _, later⟩
        exact ⟨start, member, count, middle, moves, later⟩
      · rintro ⟨start, member, count, middle, moves, later⟩
        exact ⟨middle, ⟨start, member, moves⟩,
          later.exists_le fun _ _ moves => Matches.advances inText moves⟩
  | times count body ih =>
      have follows : Bitset.Follows ((body.map onChar onPosition).reach size) _ := ih
      exact follows.mem_iterate_iff count starts stop
  | upTo greedy most body ih =>
      have follows : Bitset.Follows ((body.map onChar onPosition).reach size) _ := ih
      exact follows.mem_spread_iff most starts stop

end Regular

/-- The character before a position. -/
def before? (text : List Char) : Nat → Option Char
  | 0 => none
  | position + 1 => text[position]?

/-- The places of a class are the positions before its characters. -/
theorem CharClass.mem_places_iff {c : CharClass} {text : List Char} {position : Nat} :
    position ∈ c.places text ↔ ∃ char, text[position]? = some char ∧ c.contains char := by
  simp only [places, Bitset.mem_ofTests, List.getElem?_map, Option.map_eq_some_iff]

private theorem CharClass.lt_length_of_mem_places {c : CharClass} {text : List Char}
    {position : Nat}
    (taken : position ∈ c.places text) : position < text.length := by
  obtain ⟨char, found, _⟩ := mem_places_iff.mp taken
  exact (List.getElem?_eq_some_iff.mp found).1

private theorem getElem?_surroundings {text : List Char} {position : Nat}
    (inText : position ≤ text.length) :
    (Look.surroundings text)[position]? = some (before? text position, text[position]?) := by
  rw [Look.surroundings, List.getElem?_zip_eq_some]
  constructor
  · cases position with
    | zero => rfl
    | succ position =>
        simp only [List.getElem?_cons_succ, List.getElem?_map, before?]
        rw [List.getElem?_eq_getElem inText, Option.map_some]
  · rcases Nat.lt_or_eq_of_le inText with inside | atEnd
    · rw [List.getElem?_append_left (by rwa [List.length_map]), List.getElem?_map,
        List.getElem?_eq_getElem inside, Option.map_some]
    · have mapped : (text.map some).length = position := by rw [List.length_map, atEnd]
      rw [List.getElem?_append_right (Nat.le_of_eq mapped), atEnd, List.length_map,
        Nat.sub_self, List.getElem?_eq_none (Nat.le_refl _)]
      rfl

/-- The places of a condition are the positions where it holds. -/
theorem Look.mem_places_iff {condition : Look} {text : List Char} {position : Nat} :
    position ∈ condition.places text ↔
      position ≤ text.length ∧ condition.holds (before? text position) text[position]? := by
  rw [places, Bitset.mem_ofTests, List.getElem?_map]
  by_cases inText : position ≤ text.length
  · simp only [getElem?_surroundings inText, Option.map_some, Option.some.injEq, inText, true_and]
  · have outside : (surroundings text)[position]? = none := by
      rw [List.getElem?_eq_none]
      simp only [surroundings, List.length_zip, List.length_cons, List.length_append,
        List.length_map, List.length_nil]
      omega
    simp only [outside, Option.map_none, reduceCtorEq, inText, false_and]

namespace Expression

/-- An expression matches a text between two positions. -/
def Matches (e : Expression) (text : List Char) : Nat → Nat → Prop :=
  Regular.Matches (fun c => (· ∈ c.places text)) (fun condition => (· ∈ condition.places text)) e

variable {e : Expression} {text : List Char} {start stop : Nat}

/-- A match does not go back and stays in the text. -/
theorem Matches.advances (found : e.Matches text start stop) :
    stop = start ∨ start < stop ∧ stop ≤ text.length :=
  Regular.Matches.advances (fun _ _ => CharClass.lt_length_of_mem_places) found

/-- **An expression matches somewhere in a text if it matches between two positions, and only
then.** -/
theorem matchesIn_iff :
    e.matchesIn text ↔ ∃ start ≤ text.length, ∃ stop, e.Matches text start stop := by
  rw [matchesIn, Bitset.not_isEmpty_iff]
  have reached (stop : Nat) : stop ∈ (e.locate text).reach text.length (.upTo text.length) ↔
      ∃ start ∈ Bitset.upTo text.length, e.Matches text start stop :=
    Regular.mem_reach_map_iff (fun _ _ => CharClass.lt_length_of_mem_places) e _ stop
  constructor
  · rintro ⟨stop, member⟩
    obtain ⟨start, among, found⟩ := (reached stop).mp member
    exact ⟨start, Bitset.mem_upTo.mp among, stop, found⟩
  · rintro ⟨start, inText, stop, found⟩
    exact ⟨stop, (reached stop).mpr ⟨start, Bitset.mem_upTo.mpr inText, found⟩⟩

end Expression

end FormValidity
