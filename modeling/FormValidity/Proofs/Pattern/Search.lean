import FormValidity.Proofs.Pattern.Backtracking

/-! # The first match

The search runs a program on all ways at once and drops a way that comes to a step which a preferred
one has come to. At one position this explores the steps depth first (`Pattern.Advance.Followed`).
It finds what backtracking finds (`Pattern.Advance.Followed.yield_eq`): where a way is dropped, an
attempt would fail, or one that comes before it succeeds. So a search returns the match that the
expression prefers at the first position where it prefers one (`Expression.isLeftmost_find?`).
-/

namespace FormValidity

namespace Pattern

variable {steps : Array Step} {later : Nat → Option Nat} {earlier : Option Span}
  {position number : Nat} {way : Way} {stack others : List Way} {visited : Array Bool}
  {found result : Advance} {step : Step}

/-- The match in which a way results, if `outcomes` tells where the text matches from a step on. -/
def Way.yield (outcomes : Nat → Option Nat) (way : Way) : Option Span :=
  (outcomes way.step).map (⟨way.start, ·⟩)

private theorem findSome?_cons_eq_or {α β : Type} (f : α → Option β) (a : α) (rest : List α) :
    (a :: rest).findSome? f = (f a).or (rest.findSome? f) := by
  rw [List.findSome?_cons]
  cases f a <;> rfl

namespace Advance

/-- The match in which the preferred one of the ways that go on results, or else the way that has
matched. -/
def yield (position : Nat) (later : Nat → Option Nat) (advance : Advance) : Option Span :=
  (advance.onward.reverse.findSome? (Way.yield later)).or
    (advance.matched?.map (⟨·, position⟩))

/-- The ways on which a way at a step goes on after the next character come after those that have
been found before. -/
def move (found : Advance) (step : Step) (position start : Nat) : Advance :=
  { found with onward := (step.move position).map (⟨·, start⟩) ++ found.onward }

/-- How the ways that have come to a position are followed: a way at a step that has been visited is
dropped, a way that accepts ends it, and any other way is replaced by those on which it goes on. -/
inductive Followed (steps : Array Step) (position : Nat) :
    Array Bool → List Way → Advance → Advance → Prop
  | finished (visited : Array Bool) (found : Advance) :
      Followed steps position visited [] found found
  | seen {visited : Array Bool} {way : Way} {others : List Way} {found result : Advance}
      (seen : visited.getD way.step true = true)
      (rest : Followed steps position visited others found result) :
      Followed steps position visited (way :: others) found result
  | accepted {visited : Array Bool} {way : Way} {others : List Way} {found : Advance}
      (unseen : visited.getD way.step true = false)
      (accepting : steps[way.step]? = some .accept) :
      Followed steps position visited (way :: others) found
        { found with matched? := some way.start }
  | spread {visited : Array Bool} {way : Way} {others : List Way} {found result : Advance}
      {step : Step} (unseen : visited.getD way.step true = false)
      (at' : steps[way.step]? = some step) (going : step ≠ .accept)
      (rest : Followed steps position (visited.setIfInBounds way.step true)
        ((step.stay position).map (⟨·, way.start⟩) ++ others)
        (found.move step position way.start) result) :
      Followed steps position visited (way :: others) found result

/-- One step of following, for every step but the one that accepts. -/
theorem follow_cons (unseen : visited.getD way.step true = false)
    (at' : steps[way.step]? = some step) (going : step ≠ .accept) (fuel : Nat) :
    follow steps position (fuel + 1) visited (way :: others) found =
      follow steps position fuel (visited.setIfInBounds way.step true)
        ((step.stay position).map (⟨·, way.start⟩) ++ others)
        (found.move step position way.start) := by
  rw [follow, if_neg (Bool.not_eq_true _ ▸ unseen)]
  cases step with
  | accept => exact (going rfl).elim
  | take places next =>
      simp only [at', Step.stay, Step.move, move]
      split <;> rfl
  | check places next =>
      simp only [at', Step.stay, Step.move, move]
      split <;> rfl
  | fork preferred other =>
      simp only [at', Step.stay, Step.move, move]
      rfl

private theorem visited_visit_iff {other : Nat} :
    (visited.setIfInBounds number true).getD other true = true ↔
      other = number ∨ visited.getD other true = true := by
  by_cases same : other = number
  · subst same
    simp only [true_or, iff_true, Array.getD_eq_getD_getElem?, Array.getElem?_setIfInBounds_self]
    split <;> rfl
  · rw [Array.getD_eq_getD_getElem?, Array.getElem?_setIfInBounds_ne (Ne.symm same),
      ← Array.getD_eq_getD_getElem?, or_iff_right same]

private theorem lt_size_of_unseen (unseen : visited.getD number true = false) :
    number < visited.size := by
  refine Nat.lt_of_not_le fun outside => ?_
  rw [Array.getD_eq_getD_getElem?, Array.getElem?_eq_none outside] at unseen
  cases unseen

private theorem count_unvisited (unseen : visited.getD number true = false) :
    (visited.setIfInBounds number true).count false + 1 = visited.count false := by
  have inside := lt_size_of_unseen unseen
  have fresh : visited[number] = false := by
    rwa [Array.getD_eq_getD_getElem?, Array.getElem?_eq_getElem inside, Option.getD_some] at unseen
  have counted : 0 < visited.count false := by
    rw [Array.count_pos_iff, ← fresh]
    exact Array.getElem_mem inside
  rw [Array.setIfInBounds, dif_pos inside, Array.count_set inside, fresh]
  simp only [beq_self_eq_true, if_true, Bool.true_eq_false, if_false, Nat.add_zero, beq_iff_eq]
  omega

/-- The fuel of a search is enough: a visit adds at most two ways, and no step is visited twice. -/
theorem followed_follow {fuel : Nat} (sized : visited.size = steps.size)
    (enough : stack.length + 2 * visited.count false < fuel) :
    Followed steps position visited stack found
      (follow steps position fuel visited stack found) := by
  induction fuel generalizing visited stack found with
  | zero => exact absurd enough (Nat.not_lt_zero _)
  | succ fuel ih =>
      cases stack with
      | nil => exact .finished visited found
      | cons way others =>
          cases seen : visited.getD way.step true with
          | true =>
              rw [follow, if_pos seen]
              rw [List.length_cons] at enough
              exact .seen seen (ih sized (by omega))
          | false =>
              have inside : way.step < steps.size := sized ▸ lt_size_of_unseen seen
              have at' := Array.getElem?_eq_getElem inside
              by_cases going : steps[way.step] = .accept
              · rw [going] at at'
                rw [follow, if_neg (Bool.not_eq_true _ ▸ seen)]
                simp only [at']
                exact .accepted seen at'
              · rw [follow_cons seen at' going]
                refine .spread seen at' going (ih ?_ ?_)
                · rw [Array.size_setIfInBounds, sized]
                · have := count_unvisited seen
                  have := Step.length_stay_le steps[way.step] position
                  rw [List.length_cons] at enough
                  rw [List.length_append, List.length_map]
                  omega

/-- All ways that have come to a position are followed. -/
theorem followed_ofWays (steps : Array Step) (position : Nat) (ways : List Way) :
    Followed steps position (.replicate steps.size false) ways {} (ofWays steps position ways) := by
  refine followed_follow Array.size_replicate ?_
  rw [Array.count_replicate_self]
  exact Nat.lt_succ_self _

/-- The ways on which a step goes on after the next character result in what the step itself results
in. -/
theorem yield_move (unmatched : found.matched? = none) (going : step ≠ .accept) (start : Nat) :
    (found.move step position start).yield position later =
      (found.yield position later).or ((step.leaf position later).map (⟨start, ·⟩)) := by
  have joined : (found.move step position start).yield position later =
      (found.yield position later).or
        (((step.move position).map (⟨·, start⟩)).reverse.findSome? (Way.yield later)) := by
    simp only [yield, move, unmatched, List.reverse_append, List.findSome?_append,
      Option.map_none, Option.or_none]
  rw [joined]
  refine congrArg _ ?_
  cases step with
  | accept => exact (going rfl).elim
  | take places next =>
      rw [Step.move, Step.leaf]
      split
      · exact List.findSome?_singleton
      · rfl
  | check places next => rfl
  | fork preferred other => rfl

end Advance

/-- A way and the steps that are fresh to it at its position: those that it has not come to. -/
structure Trail where
  way : Way
  fresh : Finset Nat

namespace Trail

variable {trail : Trail} {trails more : List Trail}

/-- The match in which an attempt along a trail results. -/
def yield (steps : Array Step) (position : Nat) (later : Nat → Option Nat) (trail : Trail) :
    Option Span :=
  trail.way.yield (attempt steps position later trail.fresh)

/-- The trails on which a trail goes on at the same position. -/
def spread (trail : Trail) (step : Step) (position : Nat) : List Trail :=
  (step.stay position).map fun next =>
    ⟨⟨next, trail.way.start⟩, trail.fresh.erase trail.way.step⟩

/-- A trail results in what it results in by its own step, or else in what the trails result in on
which it goes on. -/
theorem yield_eq (free : trail.way.step ∈ trail.fresh) (at' : steps[trail.way.step]? = some step) :
    trail.yield steps position later =
      ((step.leaf position later).map (⟨trail.way.start, ·⟩)).or
        ((trail.spread step position).findSome? (yield steps position later)) := by
  rw [yield, Way.yield, attempt_of_step free at', spread, List.findSome?_map]
  cases step.leaf position later with
  | some stop => rfl
  | none =>
      rw [Option.none_or, Option.map_none, Option.none_or, List.map_findSome?]
      rfl

/-- A trail results in nothing if and only if its step is not promising. -/
theorem yield_eq_none_iff :
    trail.yield steps position later = none ↔
      ¬ Promising steps position later trail.fresh trail.way.step := by
  rw [yield, Way.yield, Option.map_eq_none_iff, attempt_eq_none_iff]

/-- What is known of a trail when the steps that have been visited are left out. An unvisited step
is fresh to the trail, and if nothing has been found before the trail, then no visited step is
promising to it. -/
structure Spared (steps : Array Step) (position : Nat) (later : Nat → Option Nat)
    (visited : Array Bool) (earlier : Option Span) (trail : Trail) : Prop where
  fresh : ∀ number, visited.getD number true = false → number ∈ trail.fresh
  dead : earlier = none → ∀ number, visited.getD number true = true →
    ¬ Promising steps position later trail.fresh number

/-- The trails on which a trail goes on are spared when its step is visited: they do not come to
that step again. -/
theorem Spared.spread {other : Trail} {after : Option Span}
    (spared : Spared steps position later visited earlier trail)
    (none_before : after = none → earlier = none) (member : other ∈ trail.spread step position) :
    Spared steps position later (visited.setIfInBounds trail.way.step true) after other := by
  obtain ⟨next, _, rfl⟩ := List.mem_map.mp member
  constructor
  · intro number unmarked
    rw [← Bool.not_eq_true, Advance.visited_visit_iff, not_or, Bool.not_eq_true] at unmarked
    exact Finset.mem_erase_of_ne_of_mem unmarked.1 (spared.fresh number unmarked.2)
  · intro none number mark promising
    rcases Advance.visited_visit_iff.mp mark with rfl | seen
    · exact Finset.notMem_erase _ _ promising.mem
    · exact spared.dead (none_before none) number seen (promising.mono (Finset.erase_subset _ _))

/-- Every trail of a list is spared, after `earlier` and the trails before it. -/
def AllSpared (steps : Array Step) (position : Nat) (later : Nat → Option Nat)
    (visited : Array Bool) : Option Span → List Trail → Prop
  | _, [] => True
  | earlier, trail :: others =>
      Spared steps position later visited earlier trail ∧
        AllSpared steps position later visited (earlier.or (trail.yield steps position later))
          others

namespace AllSpared

/-- Trails are all spared that are so without those before them. -/
theorem of_forall
    (spared : ∀ trail ∈ trails, Spared steps position later visited earlier trail) :
    AllSpared steps position later visited earlier trails := by
  induction trails generalizing earlier with
  | nil => trivial
  | cons trail others ih =>
      refine ⟨spared trail List.mem_cons_self, ih fun other member => ?_⟩
      have := spared other (List.mem_cons_of_mem trail member)
      exact ⟨this.fresh, fun none => this.dead (Option.or_eq_none_iff.mp none).1⟩

/-- Trails come after those before them and what these result in. -/
theorem append (first : AllSpared steps position later visited earlier trails)
    (second : AllSpared steps position later visited
      (earlier.or (trails.findSome? (yield steps position later))) more) :
    AllSpared steps position later visited earlier (trails ++ more) := by
  induction trails generalizing earlier with
  | nil =>
      rw [List.findSome?_nil, Option.or_none] at second
      exact second
  | cons trail others ih =>
      rw [findSome?_cons_eq_or, ← Option.or_assoc] at second
      exact ⟨first.1, ih first.2 second⟩

/-- A step may be visited once a trail to which it is fresh has resulted in nothing. A way over it
from another trail would leave the fresh steps of the first one, at a step that has been visited. -/
theorem visit (spared : AllSpared steps position later visited earlier trails)
    {fresh : Finset Nat} (unseen : ∀ other, visited.getD other true = false → other ∈ fresh)
    (failed : earlier = none → ¬ Promising steps position later fresh number) :
    AllSpared steps position later (visited.setIfInBounds number true) earlier trails := by
  induction trails generalizing earlier with
  | nil => trivial
  | cons trail others ih =>
      refine ⟨⟨fun other unmarked => ?_, fun none other mark promising => ?_⟩,
        ih spared.2 fun none => failed (Option.or_eq_none_iff.mp none).1⟩
      · rw [← Bool.not_eq_true, Advance.visited_visit_iff, not_or, Bool.not_eq_true] at unmarked
        exact spared.1.fresh other unmarked.2
      · rcases Advance.visited_visit_iff.mp mark with rfl | seen
        · rcases promising.within_or_exists fresh with within | ⟨outer, _, stale, leads⟩
          · exact failed none within
          · have seen : visited.getD outer true = true := by
              rw [← Bool.not_eq_false]
              exact fun unvisited => stale (unseen outer unvisited)
            exact spared.1.dead none outer seen leads
        · exact spared.1.dead none other seen promising

end AllSpared

end Trail

/-- **Following the ways finds what attempts along their trails find.** -/
theorem Advance.Followed.yield_eq (followed : Followed steps position visited stack found result)
    {trails : List Trail} (along : trails.map Trail.way = stack)
    (spared : Trail.AllSpared steps position later visited (found.yield position later) trails)
    (unmatched : found.matched? = none) :
    result.yield position later =
      (found.yield position later).or
        (trails.findSome? (Trail.yield steps position later)) := by
  induction followed generalizing trails with
  | finished visited found =>
      obtain rfl := List.map_eq_nil_iff.mp along
      rw [List.findSome?_nil, Option.or_none]
  | @seen visited way others found result seen _ ih =>
      obtain ⟨trail, rest, rfl, rfl, rfl⟩ := List.map_eq_cons_iff.mp along
      -- The way is dropped without loss: something has been found already, or its step is dead.
      have absorbed : (found.yield position later).or (trail.yield steps position later) =
          found.yield position later := by
        cases earlier : found.yield position later with
        | none => exact Trail.yield_eq_none_iff.mpr (spared.1.dead earlier _ seen)
        | some span => rfl
      have remaining := spared.2
      rw [absorbed] at remaining
      rw [ih rfl remaining unmatched, findSome?_cons_eq_or, ← Option.or_assoc, absorbed]
  | @accepted visited way others found unseen accepting =>
      obtain ⟨trail, rest, rfl, rfl, rfl⟩ := List.map_eq_cons_iff.mp along
      rw [findSome?_cons_eq_or, Trail.yield_eq (spared.1.fresh _ unseen) accepting]
      simp only [yield, unmatched, Step.leaf, Option.map_none, Option.map_some, Option.or_none,
        Option.some_or]
  | @spread visited way others found result step unseen at' going _ ih =>
      obtain ⟨trail, rest, rfl, rfl, rfl⟩ := List.map_eq_cons_iff.mp along
      have free := spared.1.fresh _ unseen
      have own : trail.yield steps position later = _ := Trail.yield_eq free at'
      have moved : (found.move ..).yield position later = _ :=
        yield_move unmatched going trail.way.start
      have turned : Trail.AllSpared steps position later
          (visited.setIfInBounds trail.way.step true)
          ((found.move step position trail.way.start).yield position later)
          (trail.spread step position) := by
        refine .of_forall fun other member => spared.1.spread (fun none => ?_) member
        rw [moved] at none
        exact (Option.or_eq_none_iff.mp none).1
      have waiting : Trail.AllSpared steps position later
          (visited.setIfInBounds trail.way.step true)
          (((found.move step position trail.way.start).yield position later).or
            ((trail.spread step position).findSome? (Trail.yield steps position later)))
          rest := by
        rw [moved, Option.or_assoc, ← own]
        refine spared.2.visit spared.1.fresh fun none => ?_
        exact Trail.yield_eq_none_iff.mp (Option.or_eq_none_iff.mp none).2
      have along : (trail.spread step position ++ rest).map Trail.way =
          (step.stay position).map (⟨·, trail.way.start⟩) ++ rest.map Trail.way := by
        rw [List.map_append, Trail.spread, List.map_map]
        rfl
      rw [ih along (turned.append waiting) unmatched, moved, List.findSome?_append,
        findSome?_cons_eq_or, own, Option.or_assoc, Option.or_assoc]

/-- **The ways at a position result in what attempts from their steps result in, the preferred ones
first.** -/
theorem Advance.yield_ofWays (steps : Array Step) (position : Nat) (later : Nat → Option Nat)
    (ways : List Way) :
    (ofWays steps position ways).yield position later =
      ways.findSome? (Way.yield (attempt steps position later (.range steps.size))) := by
  have spared : ∀ trail ∈ ways.map fun way => Trail.mk way (.range steps.size),
      Trail.Spared steps position later (.replicate steps.size false) none trail := by
    intro trail member
    obtain ⟨way, _, rfl⟩ := List.mem_map.mp member
    constructor
    · intro number unseen
      have inside := lt_size_of_unseen unseen
      rw [Array.size_replicate] at inside
      exact Finset.mem_range.mpr inside
    · intro _ number mark promising
      have inside := Finset.mem_range.mp promising.mem
      rw [Array.getD_eq_getD_getElem?, Array.getElem?_replicate, if_pos inside] at mark
      cases mark
  have along : (ways.map fun way => Trail.mk way (.range steps.size)).map Trail.way = ways := by
    rw [List.map_map]
    exact List.map_id ways
  rw [(followed_ofWays steps position ways).yield_eq along (.of_forall spared) rfl,
    List.findSome?_map]
  rfl

namespace Fragment

variable {origin last left : Nat}

/-- The outcome at the first position that has one, for `left` positions from one on. -/
def earliest (fragment : Fragment) : Nat → Nat → Option Span
  | 0, _ => none
  | left + 1, position =>
      (Way.yield (outcome fragment.steps (left + 1) position) ⟨fragment.entry, position⟩).or
        (earliest fragment left (position + 1))

/-- **A run finds the outcome of the ways under way, or else the best match so far, or else the
first outcome.** -/
theorem run_eq (fragment : Fragment) (fuel position : Nat) (ways : List Way) (best : Option Span) :
    fragment.run fuel position ways best =
      (ways.findSome? (Way.yield (outcome fragment.steps fuel position))).or
        (best.or (fragment.earliest fuel position)) := by
  induction fuel generalizing position ways best with
  | zero =>
      have failed : ways.findSome? (Way.yield (outcome fragment.steps 0 position)) = none :=
        List.findSome?_eq_none_iff.mpr fun _ _ => rfl
      rw [run, failed, Option.none_or, earliest, Option.or_none]
  | succ fuel ih =>
      have onward (ways : List Way) (best : Option Span) :
          fragment.run fuel (position + 1)
              (Advance.ofWays fragment.steps position ways).onward.reverse
              (((Advance.ofWays fragment.steps position ways).matched?.map (⟨·, position⟩)).or
                best) =
            (ways.findSome? (Way.yield (outcome fragment.steps (fuel + 1) position))).or
              (best.or (fragment.earliest fuel (position + 1))) := by
        have here := Advance.yield_ofWays fragment.steps position
          (outcome fragment.steps fuel (position + 1)) ways
        rw [ih, Option.or_assoc, ← Option.or_assoc]
        exact congrArg (Option.or · _) here
      cases best with
      | none =>
          simp only [run, Option.isNone_none, if_true, List.isEmpty_iff, List.append_eq_nil_iff,
            List.cons_ne_nil, and_false, if_false]
          rw [onward, List.findSome?_append, List.findSome?_singleton, Option.or_assoc,
            Option.none_or, Option.none_or, earliest]
      | some span =>
          simp only [run, Option.isNone_some, Bool.false_eq_true, if_false]
          split
          case isTrue vacant =>
            rw [List.isEmpty_iff.mp vacant, List.findSome?_nil, Option.none_or, Option.some_or]
          case isFalse => rw [onward, Option.some_or, Option.some_or]

/-- A search finds the first outcome. -/
theorem find?_eq_earliest (fragment : Fragment) (size start : Nat) :
    fragment.find? size start = fragment.earliest (size + 1 - start) start := by
  rw [find?, run_eq, List.findSome?_nil, Option.none_or, Option.none_or]

/-- A match that begins no later than any other one from `origin` to `last`; none if there is
none. -/
structure IsLeftmost (isMatch : Nat → Nat → Prop) (origin last : Nat) (result : Option Span) :
    Prop where
  found : ∀ span, result = some span → origin ≤ span.start ∧ isMatch span.start span.stop
  leftmost : ∀ start stop, origin ≤ start → start ≤ last → isMatch start stop →
    ∃ span, result = some span ∧ span.start ≤ start

/-- The first outcome is leftmost among the outcomes. -/
theorem isLeftmost_earliest (fragment : Fragment) (reach : origin + left = last + 1) :
    IsLeftmost
      (fun start stop =>
        outcome fragment.steps (last + 1 - start) start fragment.entry = some stop)
      origin last (fragment.earliest left origin) := by
  induction left generalizing origin with
  | zero =>
      constructor
      · rintro span ⟨⟩
      · intro start stop least most
        omega
  | succ left ih =>
      have remaining : last + 1 - origin = left + 1 := by omega
      rw [earliest, Way.yield]
      cases here : outcome fragment.steps (left + 1) origin fragment.entry with
      | some stop =>
          rw [Option.map_some, Option.some_or]
          constructor
          · rintro span ⟨⟩
            exact ⟨Nat.le_refl _, remaining ▸ here⟩
          · intro start other least _ _
            exact ⟨_, rfl, least⟩
      | none =>
          rw [Option.map_none, Option.none_or]
          have later : IsLeftmost _ (origin + 1) last _ := ih (by omega)
          constructor
          · intro span same
            have found := later.found span same
            exact ⟨Nat.le_of_succ_le found.1, found.2⟩
          · intro start stop least most matched
            rcases Nat.eq_or_lt_of_le least with rfl | beyond
            · rw [remaining, here] at matched
              cases matched
            · exact later.leftmost start stop beyond most matched

end Fragment

end Pattern

namespace Expression

open Pattern

/-- **A search finds the match that is preferred where it begins, and none begins before it.** -/
theorem isLeftmost_find? (e : Expression) (text : List Char) {origin : Nat}
    (inText : origin ≤ text.length) :
    Fragment.IsLeftmost (e.Prefers text) origin text.length
      ((e.program text).find? text.length origin) := by
  rw [Fragment.find?_eq_earliest]
  exact Fragment.isLeftmost_earliest (e.program text) (by omega)

end Expression

end FormValidity
