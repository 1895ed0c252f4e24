import FormValidity.Pattern.Matching

/-! # Preferred matches

The match to find in a text begins as early as possible. Of the matches that begin
there an expression prefers one: its alternatives and repetitions are tried in the
order in which they are preferred, and the first way to match counts. To find it in
one pass over the text, the expression is turned into a program of steps
(`Fragment.prepend`), and the program is run on all ways at once (`Fragment.find?`). The
ways are kept in the order in which they are preferred, those that began earlier
first; a way that comes to a step that a preferred one has come to at the same
position is dropped, and so is every way after one that has matched.
-/

namespace FormValidity

namespace Pattern

/-- A step of a program, with the numbers of the steps that may follow. -/
inductive Step where
  /-- The text has matched. -/
  | accept
  /-- Go over a character, if the position is one of some places. -/
  | take (places : Bitset) (next : Nat)
  /-- Go on, if the position is one of some places. -/
  | check (places : Bitset) (next : Nat)
  /-- Go on in two ways. -/
  | fork (preferred other : Nat)
  deriving DecidableEq, Repr

/-- A repetition's choice between a turn and leaving. -/
def Step.choice (greedy : Bool) (turn leave : Nat) : Step :=
  if greedy then .fork turn leave else .fork leave turn

/-- A program and the number of the step at which it begins. -/
structure Fragment where
  steps : Array Step
  entry : Nat

namespace Fragment

/-- The program that accepts at once. -/
def accepting : Fragment := ⟨#[.accept], 0⟩

/-- A program that begins with one more step. -/
def push (fragment : Fragment) (step : Step) : Fragment :=
  let entry := fragment.steps.size
  ⟨fragment.steps.push step, entry⟩

/-- A program that begins with a loop: a choice between a turn, which comes back to
the choice, and leaving for the given program. The second component is the number of
the first step of a turn. -/
def loop (greedy : Bool) (turn : Fragment → Fragment) (leave : Fragment) : Fragment × Nat :=
  let left := leave.entry
  let reserved := leave.push .accept
  let chosen := reserved.entry
  let turned := turn reserved
  (⟨turned.steps.setIfInBounds chosen (.choice greedy turned.entry left), chosen⟩, turned.entry)

/-- The program that matches an expression and then goes on with the given one. Where
a turn of a star may consume nothing, the star is an optional repetition of at least
one turn. -/
def prepend : Regular Bitset Bitset → Fragment → Fragment
  | .empty, rest => rest
  | .oneOf places, rest => rest.push (.take places rest.entry)
  | .look places, rest => rest.push (.check places rest.entry)
  | .seq first second, rest => prepend first (prepend second rest)
  | .alt first second, rest =>
      let next := rest.entry
      let ⟨steps, other⟩ := prepend second rest
      let ⟨steps, preferred⟩ := prepend first ⟨steps, next⟩
      push ⟨steps, preferred⟩ (.fork preferred other)
  | .optional greedy body, rest =>
      let leave := rest.entry
      let ⟨steps, turn⟩ := prepend body rest
      push ⟨steps, turn⟩ (.choice greedy turn leave)
  | .star greedy body, rest =>
      let leave := rest.entry
      let (looping, turn) := rest.loop greedy (prepend body)
      if 0 < body.minLength then looping else looping.push (.choice greedy turn leave)
  | .plus greedy body, rest =>
      let (looping, turn) := rest.loop greedy (prepend body)
      { looping with entry := turn }
  | .times count body, rest => Nat.repeat (prepend body) count rest
  | .upTo greedy count body, rest =>
      let leave := rest.entry
      Nat.repeat (fun rest =>
        let ⟨steps, turn⟩ := prepend body rest
        push ⟨steps, turn⟩ (.choice greedy turn leave)) count rest

end Fragment

/-- A part of a text from one position to another. -/
structure Span where
  start : Nat
  stop : Nat
  deriving DecidableEq, Repr

/-- A way to match: the number of its next step and the position where it began. -/
structure Way where
  step : Nat
  start : Nat

/-- Where the ways at one position lead. -/
structure Advance where
  /-- The ways that go on after the next character, the preferred ones last. -/
  onward : List Way := []
  /-- Where the way began that has matched, if one has; it comes after the others. -/
  matched? : Option Nat := none

/-- Follow the ways that have come to a position. The steps visited before are not
visited again, and the fuel bounds how many are looked at. -/
def Advance.follow (steps : Array Step) (position : Nat) :
    Nat → Array Bool → List Way → Advance → Advance
  | 0, _, _, found => found
  | _ + 1, _, [], found => found
  | fuel + 1, visited, ⟨number, start⟩ :: others, found =>
      if visited.getD number true then follow steps position fuel visited others found
      else
        let visited := visited.setIfInBounds number true
        match steps[number]? with
        | none => found
        | some .accept => { found with matched? := some start }
        | some (.take places next) =>
            follow steps position fuel visited others <|
              if position ∈ places then { found with onward := ⟨next, start⟩ :: found.onward }
              else found
        | some (.check places next) =>
            follow steps position fuel visited
              (if position ∈ places then ⟨next, start⟩ :: others else others) found
        | some (.fork preferred other) =>
            follow steps position fuel visited (⟨preferred, start⟩ :: ⟨other, start⟩ :: others)
              found

/-- Follow the ways that have come to a position. A step visited for the first time
adds at most two ways to those that wait. -/
def Advance.ofWays (steps : Array Step) (position : Nat) (ways : List Way) : Advance :=
  follow steps position (ways.length + 2 * steps.size + 1) (.replicate steps.size false) ways {}

namespace Fragment

/-- The preferred match among the ways that have come to a position, those that begin
here or later, and the best match so far. As long as there is no match, a new way
begins at each position. The fuel is the number of positions left. -/
def run (fragment : Fragment) : Nat → Nat → List Way → Option Span → Option Span
  | 0, _, _, best => best
  | fuel + 1, position, ways, best =>
      let ways := if best.isNone then ways ++ [⟨fragment.entry, position⟩] else ways
      if ways.isEmpty then best
      else
        let advance := Advance.ofWays fragment.steps position ways
        run fragment fuel (position + 1) advance.onward.reverse
          ((advance.matched?.map fun start => ⟨start, position⟩).or best)

/-- The match to find in a text of `size` characters from a position on. -/
def find? (fragment : Fragment) (size start : Nat) : Option Span :=
  fragment.run (size + 1 - start) start [] none

end Fragment

end Pattern

end FormValidity
