import FormValidity.Pattern.Bitset
import FormValidity.Pattern.Expression

/-! # Matching

Where matches end, for all places where they begin at once. The conditions of an
expression are first evaluated over the whole text (`Expression.locate`), which leaves
an expression over sets of positions; `Regular.reach` then carries the set of the
positions where matches may begin through the expression. Repetitions end as soon as a
turn adds nothing, so no expression takes more turns than the text has characters.
-/

namespace FormValidity

namespace Bitset

/-- What at most `count` turns of an operation reach, a turn being able to stay. -/
def spread (turn : Bitset → Bitset) : Nat → Bitset → Bitset
  | 0, s => s
  | count + 1, s =>
      let wider := s ∪ turn s
      if wider = s then s else spread turn count wider

/-- What exactly `count` turns of an operation reach. -/
def iterate (turn : Bitset → Bitset) : Nat → Bitset → Bitset
  | 0, s => s
  | count + 1, s =>
      let moved := turn s
      if moved = s then s else iterate turn count moved

end Bitset

namespace Regular

/-- The positions where matches end that begin at one of the given positions. The text
has `size` characters. -/
def reach (size : Nat) : Regular Bitset Bitset → Bitset → Bitset
  | .empty, starts => starts
  | .oneOf places, starts => (starts ∩ places).next
  | .look places, starts => starts ∩ places
  | .seq first second, starts => reach size second (reach size first starts)
  | .alt first second, starts => reach size first starts ∪ reach size second starts
  | .optional _ body, starts => starts ∪ reach size body starts
  | .star _ body, starts => .spread (reach size body) size starts
  | .plus _ body, starts => .spread (reach size body) size (reach size body starts)
  | .times count body, starts => .iterate (reach size body) count starts
  | .upTo _ count body, starts => .spread (reach size body) count starts

end Regular

namespace Look

/-- What stands on both sides of each position of a text. -/
def surroundings (text : List Char) : List (Option Char × Option Char) :=
  List.zip (none :: text.map some) (text.map some ++ [none])

/-- The positions of a text where a condition holds. -/
def places (condition : Look) (text : List Char) : Bitset :=
  .ofTests ((surroundings text).map fun around => condition.holds around.1 around.2)

end Look

/-- The positions of a text before a character of a class. -/
def CharClass.places (c : CharClass) (text : List Char) : Bitset := .ofTests (text.map c.contains)

namespace Expression

/-- An expression over the positions of a text where its conditions hold. -/
def locate (e : Expression) (text : List Char) : Regular Bitset Bitset :=
  e.map (·.places text) (·.places text)

/-- Whether an expression matches somewhere in a text. -/
def matchesIn (e : Expression) (text : List Char) : Bool :=
  !((e.locate text).reach text.length (.upTo text.length)).isEmpty

end Expression

end FormValidity
