import FormValidity.Pattern.Program

/-! # Removal of matches

Matches are taken from left to right and do not overlap. After an empty match the
search goes on one character further.
-/

namespace FormValidity

namespace Pattern

/-- The characters that no match covers, in a text from `position` on. `find?` gives
the first match from a position on, and the match given is the one for `position`. -/
def uncovered (find? : Nat → Option Span) : Nat → Option Span → List Char → List Char
  | _, none, text => text
  | _, some _, [] => []
  | position, some found, c :: rest =>
      if position < found.start then c :: uncovered find? (position + 1) (some found) rest
      else if position + 1 < found.stop then uncovered find? (position + 1) (some found) rest
      else
        let rest := uncovered find? (position + 1) (find? (position + 1)) rest
        if position < found.stop then rest else c :: rest

end Pattern

open Pattern in
/-- A text without the matches of an expression. -/
def Expression.removeMatches (e : Expression) (text : List Char) : List Char :=
  let program := Fragment.prepend (e.locate text) .accepting
  let find? := program.find? text.length
  uncovered find? 0 (find? 0) text

end FormValidity
