import FormValidity.Proofs.Pattern.Program
import Mathlib.Data.Finset.Card

/-! # Backtracking

Which of its matches an expression prefers is said by trying the ways through its program one after
the other: at a fork the preferred way is tried first, and the other one if that has failed
(`Pattern.attempt`). A way fails where it comes to a step for the second time without a character in
between, so every attempt ends. An attempt succeeds if and only if a way through the fresh steps
leads to success (`Pattern.isSome_attempt_iff`); what is preferred is therefore a match
(`Expression.Prefers.matches`), and there is one wherever a match begins
(`Expression.exists_prefers_iff`).
-/

namespace FormValidity

namespace Pattern

variable {steps : Array Step} {step : Step} {later : Nat → Option Nat} {fresh larger : Finset Nat}
  {number position stop last left count : Nat}

/-- Where the text has matched from a step on, the preferred way being tried first at every fork.
The way may still come to the `fresh` steps at this position, and `later` tells where the text has
matched from a step on after the next character. -/
def attempt (steps : Array Step) (position : Nat) (later : Nat → Option Nat) (fresh : Finset Nat)
    (number : Nat) : Option Nat :=
  if _ : number ∈ fresh then
    match steps[number]? with
    | none => none
    | some .accept => some position
    | some (.take places next) => if position ∈ places then later next else none
    | some (.check places next) =>
        if position ∈ places then attempt steps position later (fresh.erase number) next else none
    | some (.fork preferred other) =>
        (attempt steps position later (fresh.erase number) preferred).or
          (attempt steps position later (fresh.erase number) other)
  else none
termination_by fresh.card
decreasing_by all_goals exact Finset.card_erase_lt_of_mem ‹_›

/-- Where the text has matched from a step on, the preferred way being tried first at every fork.
With the position of the way, `left` positions are left. -/
def outcome (steps : Array Step) : Nat → Nat → Nat → Option Nat
  | 0, _, _ => none
  | left + 1, position, number =>
      attempt steps position (outcome steps left (position + 1)) (.range steps.size) number

/-- Where the text has matched from a step on that does not go on at the same position. -/
def Step.leaf (position : Nat) (later : Nat → Option Nat) : Step → Option Nat
  | .accept => some position
  | .take places next => if position ∈ places then later next else none
  | .check _ _ => none
  | .fork _ _ => none

/-- An attempt from a step that is not fresh fails. -/
theorem attempt_of_not_mem (stale : number ∉ fresh) :
    attempt steps position later fresh number = none := by
  rw [attempt, dif_neg stale]

/-- An attempt tries the steps on which a step goes on, in their order. -/
theorem attempt_of_step (free : number ∈ fresh) (at' : steps[number]? = some step) :
    attempt steps position later fresh number =
      (step.leaf position later).or
        ((step.stay position).findSome? (attempt steps position later (fresh.erase number))) := by
  rw [attempt, dif_pos free]
  cases step with
  | accept => simp only [at', Step.leaf, Option.some_or]
  | take places next =>
      simp only [at', Step.leaf, Step.stay, List.findSome?_nil, Option.or_none]
  | check places next =>
      simp only [at', Step.leaf, Step.stay, Option.none_or]
      split <;> simp
  | fork preferred other =>
      simp only [at', Step.leaf, Step.stay, Option.none_or, List.findSome?_cons,
        List.findSome?_nil]
      cases attempt steps position later (fresh.erase number) preferred with
      | some stop => rfl
      | none => cases attempt steps position later (fresh.erase number) other <;> rfl

/-- Over fresh steps a way leads from a step to one from which the text has matched. -/
inductive Promising (steps : Array Step) (position : Nat) (later : Nat → Option Nat)
    (fresh : Finset Nat) : Nat → Prop
  | leaf {number : Nat} {step : Step} (free : number ∈ fresh) (at' : steps[number]? = some step)
      (matched : (step.leaf position later).isSome) : Promising steps position later fresh number
  | onward {number next : Nat} {step : Step} (free : number ∈ fresh)
      (at' : steps[number]? = some step) (stays : next ∈ step.stay position)
      (promising : Promising steps position later fresh next) :
      Promising steps position later fresh number

namespace Promising

/-- A promising step is fresh. -/
theorem mem (promising : Promising steps position later fresh number) : number ∈ fresh := by
  cases promising <;> assumption

/-- A way over fresh steps stays one when more steps are fresh. -/
theorem mono (promising : Promising steps position later fresh number) (subset : fresh ⊆ larger) :
    Promising steps position later larger number := by
  induction promising with
  | leaf free at' matched => exact .leaf (subset free) at' matched
  | onward free at' stays _ ih => exact .onward (subset free) at' stays ih

/-- A way leaves a set of steps at one that is promising itself, if it does not stay in it. -/
theorem within_or_exists (promising : Promising steps position later larger number)
    (fresh : Finset Nat) :
    Promising steps position later fresh number ∨
      ∃ outer ∈ larger, outer ∉ fresh ∧ Promising steps position later larger outer := by
  induction promising with
  | @leaf number step free at' matched =>
      by_cases within : number ∈ fresh
      · exact Or.inl (.leaf within at' matched)
      · exact Or.inr ⟨number, free, within, .leaf free at' matched⟩
  | @onward number next step free at' stays promising ih =>
      by_cases within : number ∈ fresh
      · exact ih.imp_left (.onward within at' stays)
      · exact Or.inr ⟨number, free, within, .onward free at' stays promising⟩

/-- A way that comes to a step does so for a last time, and goes on over the others. -/
theorem without_or_exists (promising : Promising steps position later fresh number)
    (avoided : Nat) :
    Promising steps position later (fresh.erase avoided) number ∨
      ∃ step, steps[avoided]? = some step ∧
        ((step.leaf position later).isSome ∨
          ∃ next ∈ step.stay position,
            Promising steps position later (fresh.erase avoided) next) := by
  induction promising with
  | @leaf number step free at' matched =>
      by_cases same : number = avoided
      · exact Or.inr ⟨step, same ▸ at', Or.inl matched⟩
      · exact Or.inl (.leaf (Finset.mem_erase_of_ne_of_mem same free) at' matched)
  | @onward number next step free at' stays _ ih =>
      rcases ih with promising | crossing
      · by_cases same : number = avoided
        · exact Or.inr ⟨step, same ▸ at', Or.inr ⟨next, stays, promising⟩⟩
        · exact Or.inl (.onward (Finset.mem_erase_of_ne_of_mem same free) at' stays promising)
      · exact Or.inr crossing

end Promising

/-- **An attempt succeeds if and only if a way over fresh steps leads to success.** A way that comes
to a step twice can be cut short, so the steps that an attempt leaves out are not missed. -/
theorem isSome_attempt_iff :
    (attempt steps position later fresh number).isSome ↔
      Promising steps position later fresh number := by
  induction fresh using Finset.strongInduction generalizing number with
  | H fresh ih =>
      by_cases free : number ∈ fresh
      · cases at' : steps[number]? with
        | none =>
            rw [attempt, dif_pos free]
            simp only [at', Option.isSome_none, Bool.false_eq_true, false_iff]
            rintro (⟨_, found, _⟩ | ⟨_, found, _, _⟩) <;> cases at'.symm.trans found
        | some step =>
            rw [attempt_of_step free at', Option.isSome_or, Bool.or_eq_true,
              List.findSome?_isSome_iff]
            simp only [ih _ (Finset.erase_ssubset free)]
            constructor
            · rintro (matched | ⟨next, stays, promising⟩)
              · exact .leaf free at' matched
              · exact .onward free at' stays (promising.mono (Finset.erase_subset _ _))
            · intro promising
              rcases promising.without_or_exists number with promising | ⟨_, found, reached⟩
              · exact (Finset.notMem_erase _ _ promising.mem).elim
              · cases at'.symm.trans found
                exact reached
      · rw [attempt_of_not_mem free]
        simp only [Option.isSome_none, Bool.false_eq_true, false_iff]
        exact fun promising => free promising.mem

/-- An attempt fails if and only if no way over fresh steps leads to success. -/
theorem attempt_eq_none_iff :
    attempt steps position later fresh number = none ↔
      ¬ Promising steps position later fresh number := by
  rw [← isSome_attempt_iff, Bool.not_eq_true, Option.isSome_eq_false_iff, Option.isNone_iff_eq_none]

/-- Where an attempt says that the text has matched, the program accepts. -/
theorem accepts_of_attempt
    (sound : ∀ next, later next = some stop → Accepts steps stop next (position + 1))
    (matched : attempt steps position later fresh number = some stop) :
    Accepts steps stop number position := by
  induction fresh using Finset.strongInduction generalizing number with
  | H fresh ih =>
      have promising := isSome_attempt_iff.mp (Option.isSome_of_eq_some matched)
      obtain ⟨step, at'⟩ : ∃ step, steps[number]? = some step := by
        cases promising <;> exact ⟨_, ‹_›⟩
      rw [attempt_of_step promising.mem at', Option.or_eq_some_iff] at matched
      rw [accepts_iff_of_step at']
      rcases matched with matched | ⟨_, matched⟩
      · cases step with
        | accept => exact Or.inl ⟨rfl, Option.some.inj matched⟩
        | take places next =>
            rw [Step.leaf, Option.ite_none_right_eq_some] at matched
            rw [Step.move, if_pos matched.1]
            exact Or.inr (Or.inr ⟨next, List.mem_singleton_self next, sound next matched.2⟩)
        | check places next => cases matched
        | fork preferred other => cases matched
      · obtain ⟨next, stays, matched⟩ := List.exists_of_findSome?_eq_some matched
        exact Or.inr (Or.inl ⟨next, stays, ih _ (Finset.erase_ssubset promising.mem) matched⟩)

/-- Where the text has matched by an outcome, the program accepts. -/
theorem accepts_of_outcome (matched : outcome steps left position number = some stop) :
    Accepts steps stop number position := by
  induction left generalizing position number with
  | zero => cases matched
  | succ left ih => exact accepts_of_attempt (fun _ => ih) matched

/-- Where the program accepts within the text, there is an outcome. -/
theorem AcceptsIn.isSome_outcome (accepts : AcceptsIn steps stop count number position)
    (reach : position + left = last + 1) (inText : stop ≤ last) :
    (outcome steps left position number).isSome := by
  induction left generalizing count number position with
  | zero =>
      have := accepts.le_stop
      omega
  | succ left ihLeft =>
      refine isSome_attempt_iff.mpr ?_
      induction count generalizing number with
      | zero => exact accepts.elim
      | succ count ih =>
          obtain ⟨step, at'⟩ := accepts.exists_step
          have free := Finset.mem_range.mpr (Array.getElem?_eq_some_iff.mp at').1
          rcases (acceptsIn_succ_iff at').mp accepts with
            ⟨rfl, _⟩ | ⟨next, stays, accepts⟩ | ⟨next, moves, accepts⟩
          · exact .leaf free at' rfl
          · exact .onward free at' stays (ih accepts)
          · have found := ihLeft accepts (by omega)
            refine .leaf free at' ?_
            cases step with
            | take places beyond =>
                rw [Step.move, List.mem_ite_nil_right, List.mem_singleton] at moves
                rw [Step.leaf, if_pos moves.1]
                exact moves.2 ▸ found
            | accept => cases moves
            | check places beyond => cases moves
            | fork preferred other => cases moves

end Pattern

namespace Expression

open Pattern

variable {e : Expression} {text : List Char} {start stop : Nat}

/-- Of the matches that begin at a position an expression prefers the one that is tried first. -/
def Prefers (e : Expression) (text : List Char) (start stop : Nat) : Prop :=
  outcome (e.program text).steps (text.length + 1 - start) start (e.program text).entry = some stop

/-- What an expression prefers is a match. -/
theorem Prefers.matches (preferred : e.Prefers text start stop) : e.Matches text start stop :=
  accepts_program_iff.mp (accepts_of_outcome preferred)

/-- At one position an expression prefers one match. -/
theorem Prefers.unique {other : Nat} (first : e.Prefers text start stop)
    (second : e.Prefers text start other) : stop = other :=
  Option.some.inj (Eq.trans (Eq.symm first) second)

/-- **An expression prefers a match wherever one begins.** -/
theorem exists_prefers_iff (inText : start ≤ text.length) :
    (∃ stop, e.Prefers text start stop) ↔ ∃ stop, e.Matches text start stop := by
  constructor
  · rintro ⟨stop, preferred⟩
    exact ⟨stop, preferred.matches⟩
  · rintro ⟨stop, found⟩
    obtain ⟨count, accepts⟩ := accepts_program_iff.mpr found
    have reach : start + (text.length + 1 - start) = text.length + 1 := by omega
    have within : stop ≤ text.length := by
      have := found.advances
      omega
    exact Option.isSome_iff_exists.mp (accepts.isSome_outcome reach within)

end Expression

end FormValidity
