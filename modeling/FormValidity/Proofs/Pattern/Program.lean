import FormValidity.Pattern.Program
import FormValidity.Proofs.Pattern.Matching

/-! # Programs of expressions

Whether a program accepts is said of its steps alone, whatever order its ways are tried in
(`Pattern.Accepts`). The part of a program between two steps implements a relation of positions if
the ways through it lead from a position to the related ones (`Pattern.Implements`). The program of
an expression implements its matches up to the step at which it is left
(`Pattern.Fragment.prepend_adds`), so the whole program accepts exactly the matches
(`Expression.accepts_program_iff`).
-/

namespace FormValidity

namespace Pattern

variable {steps program : Array Step} {step : Step}
  {number entry exit middle stop position count : Nat}

/-- A program that has come to a step and a position goes on to accept at `stop`, in at most `count`
steps. -/
def AcceptsIn (steps : Array Step) (stop : Nat) : Nat → Nat → Nat → Prop
  | 0, _, _ => False
  | count + 1, number, position =>
      match steps[number]? with
      | none => False
      | some .accept => position = stop
      | some (.take places next) =>
          position ∈ places ∧ AcceptsIn steps stop count next (position + 1)
      | some (.check places next) => position ∈ places ∧ AcceptsIn steps stop count next position
      | some (.fork preferred other) =>
          AcceptsIn steps stop count preferred position ∨ AcceptsIn steps stop count other position

/-- A program that has come to a step and a position goes on to accept at `stop`. -/
def Accepts (steps : Array Step) (stop number position : Nat) : Prop :=
  ∃ count, AcceptsIn steps stop count number position

namespace Step

/-- The steps on which a step goes on at the same position, the preferred one first. -/
def stay (position : Nat) : Step → List Nat
  | .accept => []
  | .take _ _ => []
  | .check places next => if position ∈ places then [next] else []
  | .fork preferred other => [preferred, other]

/-- The steps on which a step goes on after the next character. -/
def move (position : Nat) : Step → List Nat
  | .accept => []
  | .take places next => if position ∈ places then [next] else []
  | .check _ _ => []
  | .fork _ _ => []

/-- A step goes on in at most two ways. -/
theorem length_stay_le (step : Step) (position : Nat) : (step.stay position).length ≤ 2 := by
  cases step with
  | accept => exact Nat.zero_le _
  | take places next => exact Nat.zero_le _
  | check places next =>
      rw [stay]
      split
      · exact Nat.le_succ 1
      · exact Nat.zero_le _
  | fork preferred other => exact Nat.le_refl _

end Step

/-- What a step accepts, by the steps on which it goes on. -/
theorem acceptsIn_succ_iff (at' : steps[number]? = some step) :
    AcceptsIn steps stop (count + 1) number position ↔
      (step = .accept ∧ position = stop) ∨
      (∃ next ∈ step.stay position, AcceptsIn steps stop count next position) ∨
      ∃ next ∈ step.move position, AcceptsIn steps stop count next (position + 1) := by
  cases step <;> simp [AcceptsIn, at', Step.stay, Step.move, and_assoc]

/-- A program that goes on to accept has come to one of its steps. -/
theorem AcceptsIn.exists_step (accepts : AcceptsIn steps stop (count + 1) number position) :
    ∃ step, steps[number]? = some step := by
  cases found : steps[number]? with
  | none => simp only [AcceptsIn, found] at accepts
  | some step => exact ⟨step, rfl⟩

/-- What is accepted in some steps is accepted in more. -/
theorem AcceptsIn.succ (accepts : AcceptsIn steps stop count number position) :
    AcceptsIn steps stop (count + 1) number position := by
  induction count generalizing number position with
  | zero => exact accepts.elim
  | succ count ih =>
      obtain ⟨step, at'⟩ := accepts.exists_step
      rw [acceptsIn_succ_iff at'] at accepts ⊢
      rcases accepts with accepted | ⟨next, stays, accepts⟩ | ⟨next, moves, accepts⟩
      · exact Or.inl accepted
      · exact Or.inr (Or.inl ⟨next, stays, ih accepts⟩)
      · exact Or.inr (Or.inr ⟨next, moves, ih accepts⟩)

/-- No step goes back. -/
theorem AcceptsIn.le_stop (accepts : AcceptsIn steps stop count number position) :
    position ≤ stop := by
  induction count generalizing number position with
  | zero => exact accepts.elim
  | succ count ih =>
      obtain ⟨step, at'⟩ := accepts.exists_step
      rcases (acceptsIn_succ_iff at').mp accepts with
        ⟨_, same⟩ | ⟨next, _, accepts⟩ | ⟨next, _, accepts⟩
      · exact Nat.le_of_eq same
      · exact ih accepts
      · exact Nat.le_of_succ_le (ih accepts)

private theorem accepts_iff_succ :
    Accepts steps stop number position ↔
      ∃ count, AcceptsIn steps stop (count + 1) number position :=
  ⟨fun ⟨count, accepts⟩ => ⟨count, accepts.succ⟩, fun ⟨_, accepts⟩ => ⟨_, accepts⟩⟩

/-- What a program accepts from a step, by the steps on which this one goes on. -/
theorem accepts_iff_of_step (at' : steps[number]? = some step) :
    Accepts steps stop number position ↔
      (step = .accept ∧ position = stop) ∨
      (∃ next ∈ step.stay position, Accepts steps stop next position) ∨
      ∃ next ∈ step.move position, Accepts steps stop next (position + 1) := by
  rw [accepts_iff_succ]
  simp only [acceptsIn_succ_iff at', exists_or, exists_const, Accepts]
  refine or_congr_right (or_congr ?_ ?_)
  · exact ⟨fun ⟨count, next, stays, accepts⟩ => ⟨next, stays, count, accepts⟩,
      fun ⟨next, stays, count, accepts⟩ => ⟨count, next, stays, accepts⟩⟩
  · exact ⟨fun ⟨count, next, moves, accepts⟩ => ⟨next, moves, count, accepts⟩,
      fun ⟨next, moves, count, accepts⟩ => ⟨count, next, moves, accepts⟩⟩

section Steps

variable {places : Bitset} {next turn leave : Nat} {greedy : Bool}

private theorem acceptsIn_of_accept (found : steps[number]? = some .accept) :
    AcceptsIn steps stop (count + 1) number position ↔ position = stop := by
  simp only [AcceptsIn, found]

private theorem acceptsIn_of_take (found : steps[number]? = some (.take places next)) :
    AcceptsIn steps stop (count + 1) number position ↔
      position ∈ places ∧ AcceptsIn steps stop count next (position + 1) := by
  simp only [AcceptsIn, found]

private theorem acceptsIn_of_check (found : steps[number]? = some (.check places next)) :
    AcceptsIn steps stop (count + 1) number position ↔
      position ∈ places ∧ AcceptsIn steps stop count next position := by
  simp only [AcceptsIn, found]

/-- Which of the two ways of a choice is preferred does not count for what it accepts. -/
theorem acceptsIn_of_choice (found : steps[number]? = some (.choice greedy turn leave)) :
    AcceptsIn steps stop (count + 1) number position ↔
      AcceptsIn steps stop count turn position ∨ AcceptsIn steps stop count leave position := by
  cases greedy with
  | false => simp only [AcceptsIn, found, Step.choice, Bool.false_eq_true, if_false, or_comm]
  | true => simp only [AcceptsIn, found, Step.choice, if_true]

private theorem accepts_of_accept (found : steps[number]? = some .accept) :
    Accepts steps stop number position ↔ position = stop := by
  rw [accepts_iff_succ]
  simp only [acceptsIn_of_accept found, exists_const]

private theorem accepts_of_take (found : steps[number]? = some (.take places next)) :
    Accepts steps stop number position ↔
      position ∈ places ∧ Accepts steps stop next (position + 1) := by
  rw [accepts_iff_succ]
  simp only [acceptsIn_of_take found, exists_and_left, Accepts]

private theorem accepts_of_check (found : steps[number]? = some (.check places next)) :
    Accepts steps stop number position ↔ position ∈ places ∧ Accepts steps stop next position := by
  rw [accepts_iff_succ]
  simp only [acceptsIn_of_check found, exists_and_left, Accepts]

private theorem accepts_of_choice (found : steps[number]? = some (.choice greedy turn leave)) :
    Accepts steps stop number position ↔
      Accepts steps stop turn position ∨ Accepts steps stop leave position := by
  rw [accepts_iff_succ]
  simp only [acceptsIn_of_choice found, exists_or, Accepts]

end Steps

/-- Between two steps of a program the ways lead from a position to the related ones. A way that
accepts comes through the second step, and has no more steps to go from there. -/
structure Implements (program : Array Step) (entry exit : Nat) (leads : Nat → Nat → Prop) :
    Prop where
  sound : ∀ {count stop position}, AcceptsIn program stop count entry position →
    ∃ middle, leads position middle ∧ AcceptsIn program stop count exit middle
  complete : ∀ {stop position middle}, leads position middle → Accepts program stop exit middle →
    Accepts program stop entry position

namespace Implements

variable {leads more : Nat → Nat → Prop} {places : Bitset} {next : Nat}

/-- From a step to itself nothing is done. -/
theorem refl (program : Array Step) (entry : Nat) :
    Implements program entry entry fun position middle => middle = position where
  sound accepts := ⟨_, rfl, accepts⟩
  complete same accepts := same ▸ accepts

/-- One part of a program comes after another. -/
theorem comp (first : Implements program entry middle leads)
    (second : Implements program middle exit more) :
    Implements program entry exit (Relation.Comp leads more) where
  sound accepts := by
    obtain ⟨_, leads, accepts⟩ := first.sound accepts
    obtain ⟨last, more, accepts⟩ := second.sound accepts
    exact ⟨last, ⟨_, leads, more⟩, accepts⟩
  complete := by
    rintro stop position last ⟨_, leads, more⟩ accepts
    exact first.complete leads (second.complete more accepts)

private theorem congr (implements : Implements program entry exit leads)
    (same : ∀ position middle, leads position middle ↔ more position middle) :
    Implements program entry exit more := by
  have : leads = more := funext₂ fun position middle => propext (same position middle)
  exact this ▸ implements

/-- A step over a character implements its move. -/
theorem take (found : program[entry]? = some (.take places next)) :
    Implements program entry next fun position middle =>
      position ∈ places ∧ middle = position + 1 where
  sound := by
    rintro (_ | count) stop position accepts
    · exact accepts.elim
    · obtain ⟨taken, accepts⟩ := (acceptsIn_of_take found).mp accepts
      exact ⟨_, ⟨taken, rfl⟩, accepts.succ⟩
  complete := by
    rintro stop position _ ⟨taken, rfl⟩ accepts
    exact (accepts_of_take found).mpr ⟨taken, accepts⟩

/-- A check implements staying where its condition holds. -/
theorem check (found : program[entry]? = some (.check places next)) :
    Implements program entry next fun position middle =>
      position ∈ places ∧ middle = position where
  sound := by
    rintro (_ | count) stop position accepts
    · exact accepts.elim
    · obtain ⟨held, accepts⟩ := (acceptsIn_of_check found).mp accepts
      exact ⟨_, ⟨held, rfl⟩, accepts.succ⟩
  complete := by
    rintro stop position _ ⟨held, rfl⟩ accepts
    exact (accepts_of_check found).mpr ⟨held, accepts⟩

variable {greedy : Bool} {turn leave : Nat}

/-- A choice implements what one of its two ways does. -/
theorem choice (found : program[entry]? = some (.choice greedy turn leave))
    (turning : Implements program turn exit leads) (leaving : Implements program leave exit more) :
    Implements program entry exit fun position middle =>
      leads position middle ∨ more position middle where
  sound := by
    rintro (_ | count) stop position accepts
    · exact accepts.elim
    rcases (acceptsIn_of_choice found).mp accepts with accepts | accepts
    · obtain ⟨middle, leads, accepts⟩ := turning.sound accepts
      exact ⟨middle, Or.inl leads, accepts.succ⟩
    · obtain ⟨middle, more, accepts⟩ := leaving.sound accepts
      exact ⟨middle, Or.inr more, accepts.succ⟩
  complete := by
    rintro stop position middle (leads | more) accepts
    · exact (accepts_of_choice found).mpr (Or.inl (turning.complete leads accepts))
    · exact (accepts_of_choice found).mpr (Or.inr (leaving.complete more accepts))

/-- A choice between leaving and a turn that comes back to the choice implements any number of
turns. Soundness is by induction on the number of steps to go, which every turn lowers. -/
theorem loop (found : program[entry]? = some (.choice greedy turn leave))
    (turning : Implements program turn entry leads) :
    Implements program entry leave fun position middle =>
      ∃ count, Turns leads count position middle where
  sound := by
    intro count stop position accepts
    induction count generalizing position with
    | zero => exact accepts.elim
    | succ count ih =>
        rcases (acceptsIn_of_choice found).mp accepts with accepts | accepts
        · obtain ⟨back, leads, accepts⟩ := turning.sound accepts
          obtain ⟨middle, ⟨turns, later⟩, accepts⟩ := ih accepts
          exact ⟨middle, ⟨turns + 1, back, leads, later⟩, accepts.succ⟩
        · exact ⟨position, ⟨0, rfl⟩, accepts.succ⟩
  complete := by
    rintro stop position middle ⟨count, turns⟩ accepts
    induction count generalizing position with
    | zero => exact (accepts_of_choice found).mpr (Or.inr (Eq.subst (Eq.symm turns) accepts))
    | succ count ih =>
        obtain ⟨back, leads, later⟩ := turns
        exact (accepts_of_choice found).mpr (Or.inl (turning.complete leads (ih later)))

end Implements

/-- A program goes on where another one ends, without a change to it. -/
structure Grows (smaller larger : Array Step) : Prop where
  size_le : smaller.size ≤ larger.size
  same : ∀ number < smaller.size, larger[number]? = smaller[number]?

/-- A program has the steps of another one from some number on. -/
def Holds (program steps : Array Step) (low : Nat) : Prop :=
  ∀ number, low ≤ number → number < steps.size → program[number]? = steps[number]?

section Growth

variable {smaller larger : Array Step} {low : Nat} {step : Step}

private theorem Grows.refl (steps : Array Step) :
    Grows steps steps := ⟨Nat.le_refl _, fun _ _ => rfl⟩

private theorem Grows.trans (first : Grows smaller steps) (second : Grows steps larger) :
    Grows smaller larger where
  size_le := Nat.le_trans first.size_le second.size_le
  same number below :=
    (second.same number (Nat.lt_of_lt_of_le below first.size_le)).trans (first.same number below)

private theorem Grows.push (steps : Array Step) (step : Step) : Grows steps (steps.push step) where
  size_le := by
    rw [Array.size_push]
    exact Nat.le_succ _
  same number below := by rw [Array.getElem?_push, if_neg (Nat.ne_of_lt below)]

private theorem Holds.narrow (holds : Holds program larger low) (grows : Grows smaller larger)
    {higher : Nat} (above : low ≤ higher) : Holds program smaller higher :=
  fun number least below =>
    (holds number (Nat.le_trans above least) (Nat.lt_of_lt_of_le below grows.size_le)).trans
      (grows.same number below)

private theorem Holds.getElem?_size (holds : Holds program (steps.push step) low)
    (above : low ≤ steps.size) : program[steps.size]? = some step := by
  rw [holds steps.size above (by rw [Array.size_push]; exact Nat.lt_succ_self _),
    Array.getElem?_push_size]

end Growth

namespace Fragment

variable {fragment rest between : Fragment} {leads more : Nat → Nat → Prop}

/-- A fragment adds steps to a program, and every program with the added steps implements a relation
from its entry to that of the rest. Of a program with these steps nothing else is known, because a
loop replaces a step that comes before its turn. -/
structure Adds (fragment rest : Fragment) (leads : Nat → Nat → Prop) : Prop where
  grows : Grows rest.steps fragment.steps
  implements : ∀ program, Holds program fragment.steps rest.steps.size →
    Implements program fragment.entry rest.entry leads

namespace Adds

/-- A fragment adds nothing to itself. -/
theorem refl (rest : Fragment) : rest.Adds rest fun position middle => middle = position where
  grows := .refl _
  implements program _ := .refl program rest.entry

/-- A fragment before another one adds the relations one after the other. -/
theorem comp (first : fragment.Adds between leads) (second : between.Adds rest more) :
    fragment.Adds rest (Relation.Comp leads more) where
  grows := second.grows.trans first.grows
  implements program holds :=
    (first.implements program (holds.narrow (.refl _) second.grows.size_le)).comp
      (second.implements program (holds.narrow first.grows (Nat.le_refl _)))

private theorem congr (adds : fragment.Adds rest leads)
    (same : ∀ position middle, leads position middle ↔ more position middle) :
    fragment.Adds rest more where
  grows := adds.grows
  implements program holds := (adds.implements program holds).congr same

/-- Steps added later do not count. -/
theorem widen (adds : fragment.Adds rest leads) {steps : Array Step}
    (grows : Grows fragment.steps steps) :
    (⟨steps, fragment.entry⟩ : Fragment).Adds rest leads where
  grows := adds.grows.trans grows
  implements program holds := adds.implements program (holds.narrow grows (Nat.le_refl _))

/-- Steps added before do not count. -/
theorem rebase {steps : Array Step} (adds : fragment.Adds ⟨steps, rest.entry⟩ leads)
    (grows : Grows rest.steps steps) : fragment.Adds rest leads where
  grows := grows.trans adds.grows
  implements program holds := adds.implements program (holds.narrow (.refl _) grows.size_le)

private theorem push_take (rest : Fragment) (places : Bitset) :
    (rest.push (.take places rest.entry)).Adds rest fun position middle =>
      position ∈ places ∧ middle = position + 1 where
  grows := .push _ _
  implements _ holds := .take (holds.getElem?_size (Nat.le_refl _))

private theorem push_check (rest : Fragment) (places : Bitset) :
    (rest.push (.check places rest.entry)).Adds rest fun position middle =>
      position ∈ places ∧ middle = position where
  grows := .push _ _
  implements _ holds := .check (holds.getElem?_size (Nat.le_refl _))

/-- A choice before two fragments adds what either of them does. -/
theorem push_choice (greedy : Bool) {steps : Array Step} {entry turn leave : Nat}
    (turning : (⟨steps, turn⟩ : Fragment).Adds rest leads)
    (leaving : (⟨steps, leave⟩ : Fragment).Adds rest more) :
    (push ⟨steps, entry⟩ (.choice greedy turn leave)).Adds rest fun position middle =>
      leads position middle ∨ more position middle where
  grows := turning.grows.trans (.push _ _)
  implements program holds := by
    have narrow := holds.narrow (.push steps _) (Nat.le_refl _)
    exact .choice (holds.getElem?_size turning.grows.size_le)
      (turning.implements program narrow) (leaving.implements program narrow)

end Adds

section Loop

variable {turn : Fragment → Fragment} {greedy : Bool}

private theorem grows_loop (turning : ∀ rest, (turn rest).Adds rest leads) (rest : Fragment) :
    Grows rest.steps (rest.loop greedy turn).1.steps := by
  have turned : Grows rest.steps (turn (rest.push .accept)).steps :=
    (Grows.push rest.steps .accept).trans (turning (rest.push .accept)).grows
  constructor
  · rw [loop, Array.size_setIfInBounds]
    exact turned.size_le
  · intro number below
    exact (Array.getElem?_setIfInBounds_ne (Nat.ne_of_gt below)).trans (turned.same number below)

/-- The step that a loop has reserved is replaced by the choice; the steps of the turn stay. -/
theorem implements_loop (turning : ∀ rest, (turn rest).Adds rest leads) (rest : Fragment)
    {program : Array Step} (holds : Holds program (rest.loop greedy turn).1.steps rest.steps.size) :
    Implements program (rest.loop greedy turn).2 rest.steps.size leads ∧
      program[rest.steps.size]? =
        some (.choice greedy (rest.loop greedy turn).2 rest.entry) := by
  have turned := turning (rest.push .accept)
  have reserved : rest.steps.size < (turn (rest.push .accept)).steps.size := by
    have := turned.grows.size_le
    rw [push, Array.size_push] at this
    exact this
  rw [Holds, loop] at holds
  simp only [Array.size_setIfInBounds] at holds
  constructor
  · refine turned.implements program fun number least below => ?_
    rw [push, Array.size_push] at least
    rw [holds number (Nat.le_of_succ_le least) below]
    exact Array.getElem?_setIfInBounds_ne (Nat.ne_of_lt least)
  · rw [holds rest.steps.size (Nat.le_refl _) reserved]
    exact Array.getElem?_setIfInBounds_self_of_lt reserved

/-- A loop adds any number of turns. -/
theorem loop_adds (turning : ∀ rest, (turn rest).Adds rest leads) (greedy : Bool)
    (rest : Fragment) :
    (rest.loop greedy turn).1.Adds rest fun position middle =>
      ∃ count, Turns leads count position middle where
  grows := grows_loop turning rest
  implements program holds := by
    obtain ⟨turns, chosen⟩ := implements_loop turning rest holds
    exact .loop chosen turns

/-- A loop that begins with a turn adds at least one. -/
theorem turn_adds (turning : ∀ rest, (turn rest).Adds rest leads) (greedy : Bool)
    (rest : Fragment) :
    (⟨(rest.loop greedy turn).1.steps, (rest.loop greedy turn).2⟩ : Fragment).Adds rest
      fun position middle => ∃ count, Turns leads (count + 1) position middle where
  grows := grows_loop turning rest
  implements program holds := by
    obtain ⟨turns, chosen⟩ := implements_loop turning rest holds
    exact (turns.comp (.loop chosen turns)).congr Turns.comp_exists_iff

end Loop

/-- Repeated fragments add as many turns. -/
theorem repeat_adds {turn : Fragment → Fragment} (turning : ∀ rest, (turn rest).Adds rest leads)
    (rest : Fragment) (count : Nat) :
    (Nat.repeat turn count rest).Adds rest (Turns leads count) := by
  induction count with
  | zero => exact (Adds.refl rest).congr fun _ _ => eq_comm
  | succ count ih => exact (turning _).comp ih

/-- Repeated fragments that may each be left add at most as many turns. -/
theorem repeat_choice_adds {turn : Fragment → Fragment}
    (turning : ∀ rest, (turn rest).Adds rest leads) (greedy : Bool) (rest : Fragment) (most : Nat) :
    (Nat.repeat (fun after => push (turn after) (.choice greedy (turn after).entry rest.entry)) most
      rest).Adds rest fun position middle => ∃ count ≤ most, Turns leads count position middle := by
  induction most with
  | zero => exact (Adds.refl rest).congr Turns.eq_iff_exists_le_zero
  | succ most ih =>
      have turned := (turning _).comp ih
      exact (Adds.push_choice greedy turned ((Adds.refl rest).widen turned.grows)).congr
        Turns.exists_le_succ_iff

/-- **The program of an expression implements its matches.** -/
theorem prepend_adds (e : Regular Bitset Bitset) (rest : Fragment) :
    (prepend e rest).Adds rest
      (e.Matches (fun places => (· ∈ places)) (fun places => (· ∈ places))) := by
  induction e generalizing rest with
  | empty => exact .refl rest
  | oneOf places => exact .push_take rest places
  | look places => exact .push_check rest places
  | seq first second ihFirst ihSecond => exact (ihFirst _).comp (ihSecond rest)
  | alt first second ihFirst ihSecond =>
      have preferred := ihFirst ⟨(prepend second rest).steps, rest.entry⟩
      exact .push_choice true (preferred.rebase (ihSecond rest).grows)
        ((ihSecond rest).widen preferred.grows)
  | optional greedy body ih =>
      exact (Adds.push_choice greedy (ih rest) ((Adds.refl rest).widen (ih rest).grows)).congr
        fun _ _ => or_comm
  | star greedy body ih =>
      simp only [prepend]
      split
      · exact loop_adds ih greedy rest
      · have turned := turn_adds ih greedy rest
        exact (Adds.push_choice greedy turned ((Adds.refl rest).widen turned.grows)).congr
          Turns.exists_succ_or_eq_iff
  | plus greedy body ih => exact turn_adds ih greedy rest
  | times count body ih => exact repeat_adds ih rest count
  | upTo greedy most body ih => exact repeat_choice_adds ih greedy rest most

end Fragment

end Pattern

namespace Expression

open Pattern

/-- The program that finds the matches of an expression in a text. -/
def program (e : Expression) (text : List Char) : Fragment :=
  .prepend (e.locate text) .accepting

/-- **The program of an expression accepts exactly its matches.** -/
theorem accepts_program_iff {e : Expression} {text : List Char} {start stop : Nat} :
    Accepts (e.program text).steps stop (e.program text).entry start ↔
      e.Matches text start stop := by
  have adds := Fragment.prepend_adds (e.locate text) .accepting
  rw [locate, Regular.matches_map] at adds
  have implements := adds.implements (e.program text).steps fun _ _ _ => rfl
  have accepting : (e.program text).steps[0]? = some .accept := adds.grows.same 0 Nat.zero_lt_one
  constructor
  · rintro ⟨count, accepts⟩
    obtain ⟨middle, found, accepts⟩ := implements.sound accepts
    obtain rfl := (accepts_of_accept accepting).mp ⟨count, accepts⟩
    exact found
  · intro found
    exact implements.complete found ((accepts_of_accept accepting).mpr rfl)

end Expression

end FormValidity
