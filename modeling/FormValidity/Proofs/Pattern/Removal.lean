import FormValidity.Pattern.Removal
import FormValidity.Proofs.Pattern.Search

/-! # Removal of matches

What it means to go through a text from left to right and to leave out the matches that do not
overlap (`Stripped`). Where one match at most begins at each position, this determines what is left
(`Stripped.unique`); and a text without its matches is what is left when the preferred matches of
the expression are left out (`Expression.stripped_prefers_iff`).
-/

namespace FormValidity

/-- What is left of a text from a position on. A character stays where no match begins, or where an
empty match has been found; other matches are left out, and what follows begins where they end. -/
inductive Stripped (isMatch : Nat → Nat → Prop) (text : List Char) : Nat → List Char → Prop
  | finished : Stripped isMatch text text.length []
  | kept {position : Nat} {c : Char} {rest : List Char} (at' : text[position]? = some c)
      (free : ∀ stop, ¬ isMatch position stop) (later : Stripped isMatch text (position + 1) rest) :
      Stripped isMatch text position (c :: rest)
  | passed {position : Nat} {c : Char} {rest : List Char} (at' : text[position]? = some c)
      (empty : isMatch position position) (later : Stripped isMatch text (position + 1) rest) :
      Stripped isMatch text position (c :: rest)
  | cut {position stop : Nat} {rest : List Char} (found : isMatch position stop)
      (ahead : position < stop) (later : Stripped isMatch text stop rest) :
      Stripped isMatch text position rest

namespace Stripped

variable {isMatch fewer : Nat → Nat → Prop} {text left other : List Char} {position : Nat}

/-- If one match at most begins at each position, and matches end in the text, then the rest of a
text is determined. -/
theorem unique (inText : ∀ start stop, isMatch start stop → start < stop → stop ≤ text.length)
    (single : ∀ start stop other, isMatch start stop → isMatch start other → stop = other)
    (first : Stripped isMatch text position left) (second : Stripped isMatch text position other) :
    left = other := by
  have no_char {c : Char} : text[text.length]? ≠ some c := by
    rw [List.getElem?_eq_none (Nat.le_refl _)]
    exact Option.some_ne_none c ∘ Eq.symm
  have no_match {stop : Nat} (found : isMatch text.length stop) : ¬ text.length < stop :=
    fun ahead => Nat.not_le.mpr ahead (inText _ _ found ahead)
  induction first generalizing other with
  | finished =>
      cases second with
      | finished => rfl
      | kept at' _ _ => exact (no_char at').elim
      | passed at' _ _ => exact (no_char at').elim
      | cut found ahead _ => exact (no_match found ahead).elim
  | kept at' free _ ih =>
      cases second with
      | finished => exact (no_char at').elim
      | kept same _ later =>
          obtain rfl := Option.some.inj (at'.symm.trans same)
          rw [ih later]
      | passed _ empty _ => exact (free _ empty).elim
      | cut found _ _ => exact (free _ found).elim
  | passed at' empty _ ih =>
      cases second with
      | finished => exact (no_char at').elim
      | kept _ free _ => exact (free _ empty).elim
      | passed same _ later =>
          obtain rfl := Option.some.inj (at'.symm.trans same)
          rw [ih later]
      | cut found ahead _ => exact (Nat.ne_of_lt ahead (single _ _ _ empty found)).elim
  | cut found ahead _ ih =>
      cases second with
      | finished => exact (no_match found ahead).elim
      | kept _ free _ => exact (free _ found).elim
      | passed _ empty _ => exact (Nat.ne_of_lt ahead (single _ _ _ empty found)).elim
      | cut also _ later =>
          obtain rfl := single _ _ _ found also
          exact ih later

/-- What is left does not change with further matches that begin where others do. -/
theorem mono (sound : ∀ start stop, fewer start stop → isMatch start stop)
    (complete : ∀ start < text.length, (∃ stop, isMatch start stop) → ∃ stop, fewer start stop)
    (stripped : Stripped fewer text position left) : Stripped isMatch text position left := by
  induction stripped with
  | finished => exact .finished
  | kept at' free _ ih =>
      refine .kept at' (fun stop found => ?_) ih
      obtain ⟨stop, found⟩ := complete _ (List.getElem?_eq_some_iff.mp at').1 ⟨stop, found⟩
      exact free stop found
  | passed at' empty _ ih => exact .passed at' (sound _ _ empty) ih
  | cut found ahead _ ih => exact .cut (sound _ _ found) ahead ih

end Stripped

namespace Pattern

open Fragment

variable {isMatch : Nat → Nat → Prop} {text : List Char} {find? : Nat → Option Span}
  {position : Nat} {span : Span}

/-- A text in which no match begins stays as it is. -/
theorem stripped_of_free (inText : position ≤ text.length)
    (free : ∀ start stop, position ≤ start → start ≤ text.length → ¬ isMatch start stop) :
    Stripped isMatch text position (text.drop position) := by
  induction remaining : text.length - position generalizing position with
  | zero =>
      obtain rfl : position = text.length := by omega
      rw [List.drop_length]
      exact .finished
  | succ remaining ih =>
      have inside : position < text.length := by omega
      rw [List.drop_eq_getElem_cons inside]
      have later := ih inside (fun start stop least => free start stop (by omega)) (by omega)
      exact .kept (List.getElem?_eq_getElem inside)
        (fun stop => free position stop (Nat.le_refl _) inText) later

/-- From within a match the removal goes on where the match ends. -/
theorem uncovered_within (begun : span.start ≤ position) (within : position < span.stop)
    (inText : span.stop ≤ text.length) :
    uncovered find? position (some span) (text.drop position) =
      uncovered find? span.stop (find? span.stop) (text.drop span.stop) := by
  induction remaining : span.stop - position generalizing position with
  | zero => omega
  | succ remaining ih =>
      rw [List.drop_eq_getElem_cons (Nat.lt_of_lt_of_le within inText), uncovered,
        if_neg (Nat.not_lt.mpr begun)]
      by_cases more : position + 1 < span.stop
      · rw [if_pos more]
        exact ih (by omega) more (by omega)
      · obtain same : position + 1 = span.stop := by omega
        rw [if_neg more, same]
        exact if_pos within

/-- What no match of a leftmost search covers is what is left without the matches. -/
theorem stripped_uncovered
    (forward : ∀ start stop, isMatch start stop →
      stop = start ∨ start < stop ∧ stop ≤ text.length)
    (finds : ∀ origin ≤ text.length, IsLeftmost isMatch origin text.length (find? origin))
    (inText : position ≤ text.length) {first : Option Span}
    (leftmost : IsLeftmost isMatch position text.length first) :
    Stripped isMatch text position (uncovered find? position first (text.drop position)) := by
  induction remaining : text.length - position using Nat.strongRecOn
    generalizing position first with
  | ind remaining ih =>
      cases first with
      | none =>
          rw [uncovered]
          refine stripped_of_free inText fun start stop least most found => ?_
          obtain ⟨_, none, _⟩ := leftmost.leftmost start stop least most found
          cases none
      | some span =>
          obtain ⟨ahead, found⟩ := leftmost.found span rfl
          have earlier (stop : Nat) (found : isMatch position stop) : span.start ≤ position := by
            obtain ⟨_, same, le⟩ := leftmost.leftmost position stop (Nat.le_refl _) inText found
            exact Option.some.inj same ▸ le
          rcases Nat.eq_or_lt_of_le inText with rfl | inside
          · rw [List.drop_length]
            exact .finished
          have at' := List.getElem?_eq_getElem inside
          rcases Nat.lt_or_eq_of_le ahead with before | rfl
          · rw [List.drop_eq_getElem_cons inside, uncovered, if_pos before]
            refine .kept at' (fun stop found => Nat.not_le.mpr before (earlier stop found)) ?_
            refine ih _ (by omega) inside ⟨fun other same => ?_, fun start stop least => ?_⟩ rfl
            · obtain rfl := Option.some.inj same
              exact ⟨before, found⟩
            · exact leftmost.leftmost start stop (Nat.le_of_succ_le least)
          · rcases forward span.start span.stop found with empty | ⟨longer, within⟩
            · rw [List.drop_eq_getElem_cons inside, uncovered, if_neg (Nat.lt_irrefl _),
                if_neg (by omega), if_neg (by omega)]
              refine .passed at' (empty ▸ found) ?_
              exact ih _ (by omega) inside (finds _ inside) rfl
            · rw [uncovered_within (Nat.le_refl _) longer within]
              exact .cut found longer (ih _ (by omega) within (finds _ within) rfl)

end Pattern

namespace Expression

open Pattern

/-- **The text without its matches is what is left when the preferred matches are left out.** -/
theorem stripped_prefers_iff {e : Expression} {text left : List Char} :
    Stripped (e.Prefers text) text 0 left ↔ left = e.removeMatches text := by
  have forward (start stop : Nat) (preferred : e.Prefers text start stop) :
      stop = start ∨ start < stop ∧ stop ≤ text.length := preferred.matches.advances
  have removed : Stripped (e.Prefers text) text 0 (e.removeMatches text) :=
    stripped_uncovered forward (fun _ => e.isLeftmost_find? text) (Nat.zero_le _)
      (e.isLeftmost_find? text (Nat.zero_le _))
  constructor
  · intro stripped
    refine stripped.unique (fun start stop preferred ahead => ?_)
      (fun _ _ _ first second => first.unique second) removed
    have := forward start stop preferred
    omega
  · rintro rfl
    exact removed

/-- Of two matches at one place, the one of the first alternative is left out. -/
example :
    let a : Expression := .oneOf (.single 'a')
    let ab : Expression := .seq a (.oneOf (.single 'b'))
    Expression.removeMatches (.alt a ab) ['a', 'b'] = ['b'] ∧
      Expression.removeMatches (.alt ab a) ['a', 'b'] = [] := by
  decide +kernel

/-- **The text that is left after a removal is the text without its matches.** -/
theorem stripped_removeMatches (e : Expression) (text : List Char) :
    Stripped (e.Matches text) text 0 (e.removeMatches text) :=
  (stripped_prefers_iff.mpr rfl).mono (fun _ _ preferred => preferred.matches)
    fun _ inside => (exists_prefers_iff (Nat.le_of_lt inside)).mpr

end Expression

end FormValidity
