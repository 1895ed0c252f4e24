/-! # Regular expressions

Regular expressions over a type of conditions on characters and a type of conditions
on positions. A repetition is greedy if it prefers one more turn to leaving, and lazy
if it prefers to leave; which of two matches is preferred depends on that, and whether
there is a match does not.
-/

namespace FormValidity

/-- A regular expression over conditions `σ` on a character and `κ` on a position. -/
inductive Regular (σ κ : Type) where
  /-- Matches between any two characters. -/
  | empty
  /-- One character with a property. -/
  | oneOf (property : σ)
  /-- A position with a property. -/
  | look (condition : κ)
  | seq (first second : Regular σ κ)
  /-- One of two, the first being preferred. -/
  | alt (first second : Regular σ κ)
  /-- One turn or none. -/
  | optional (greedy : Bool) (body : Regular σ κ)
  /-- Any number of turns. -/
  | star (greedy : Bool) (body : Regular σ κ)
  /-- At least one turn. -/
  | plus (greedy : Bool) (body : Regular σ κ)
  /-- Exactly `count` turns. -/
  | times (count : Nat) (body : Regular σ κ)
  /-- At most `count` turns. -/
  | upTo (greedy : Bool) (count : Nat) (body : Regular σ κ)
  deriving DecidableEq, Repr

namespace Regular

variable {σ κ σ' κ' : Type}

/-- An expression with its conditions replaced. -/
def map (onChar : σ → σ') (onPosition : κ → κ') : Regular σ κ → Regular σ' κ'
  | .empty => .empty
  | .oneOf property => .oneOf (onChar property)
  | .look condition => .look (onPosition condition)
  | .seq first second => .seq (map onChar onPosition first) (map onChar onPosition second)
  | .alt first second => .alt (map onChar onPosition first) (map onChar onPosition second)
  | .optional greedy body => .optional greedy (map onChar onPosition body)
  | .star greedy body => .star greedy (map onChar onPosition body)
  | .plus greedy body => .plus greedy (map onChar onPosition body)
  | .times count body => .times count (map onChar onPosition body)
  | .upTo greedy count body => .upTo greedy count (map onChar onPosition body)

/-- The least number of characters of a match. -/
def minLength : Regular σ κ → Nat
  | .empty => 0
  | .oneOf _ => 1
  | .look _ => 0
  | .seq first second => minLength first + minLength second
  | .alt first second => min (minLength first) (minLength second)
  | .optional _ _ => 0
  | .star _ _ => 0
  | .plus _ body => minLength body
  | .times count body => count * minLength body
  | .upTo _ _ _ => 0

/-- Whether no match has a character. -/
def consumesNothing : Regular σ κ → Bool
  | .empty => true
  | .oneOf _ => false
  | .look _ => true
  | .seq first second => consumesNothing first && consumesNothing second
  | .alt first second => consumesNothing first && consumesNothing second
  | .optional _ body => consumesNothing body
  | .star _ body => consumesNothing body
  | .plus _ body => consumesNothing body
  | .times count body => count == 0 || consumesNothing body
  | .upTo _ count body => count == 0 || consumesNothing body

/-- Expressions one after the other. -/
def sequence : List (Regular σ κ) → Regular σ κ
  | [] => .empty
  | [e] => e
  | e :: rest => .seq e (sequence rest)

/-- Expressions as alternatives. -/
def alternatives : List (Regular σ κ) → Regular σ κ
  | [] => .empty
  | [e] => e
  | e :: rest => .alt e (alternatives rest)

/-- A repetition of at least `least` and, if given, at most `most` turns. -/
def between (greedy : Bool) (body : Regular σ κ) : Nat → Option Nat → Regular σ κ
  | _, some 0 => .empty
  | 0, none => .star greedy body
  | 1, none => .plus greedy body
  | least + 1, none => .seq (.times least body) (.plus greedy body)
  | 0, some 1 => .optional greedy body
  | 1, some 1 => body
  | 0, some most => .upTo greedy most body
  | least, some most =>
      if least < most then .seq (.times least body) (.upTo greedy (most - least) body)
      else .times least body

/-- A repetition of at least `least` and, if given, at most `most` turns. Where a turn
consumes nothing, a second one adds nothing. -/
def repeated (greedy : Bool) (least : Nat) (most : Option Nat) (body : Regular σ κ) :
    Regular σ κ :=
  if consumesNothing body then between greedy body (min least 1) (some (min (most.getD 1) 1))
  else between greedy body least most

end Regular

end FormValidity
