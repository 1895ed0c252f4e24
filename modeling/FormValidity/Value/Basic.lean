import FormValidity.Number
import FormValidity.OrderedMap

/-! # Dynamic values

Field values, records and raw rules are the values of a JSON document. This module
holds the type, structural equality and what "blank", "falsy", "text" and "length"
mean across the shapes a control can deliver.
-/

namespace FormValidity

/-- A document value. The entries of an object stand in declaration order, each key
once. -/
inductive Value where
  | null
  | bool (b : Bool)
  | num (n : Number)
  | str (s : String)
  | arr (items : List Value)
  | obj (entries : List (String × Value))
  deriving Repr, Inhabited

namespace Value

mutual

/-- Structural equality. The order of an object's entries does not count, and an
integer differs from a double. -/
def equal : Value → Value → Bool
  | .null, .null => true
  | .bool a, .bool b => a == b
  | .num a, .num b => a.equal b
  | .str a, .str b => a == b
  | .arr xs, .arr ys => equalItems xs ys
  | .obj xs, .obj ys => xs.length == ys.length && equalEntries xs ys
  | _, _ => false

/-- Equality of lists of values, item by item. -/
def equalItems : List Value → List Value → Bool
  | [], [] => true
  | x :: xs, y :: ys => equal x y && equalItems xs ys
  | _, _ => false

/-- Whether each entry of the first list has an equal one under its key in the
second. -/
def equalEntries : List (String × Value) → List (String × Value) → Bool
  | [], _ => true
  | (key, x) :: xs, ys =>
      (match Assoc.get? ys key with
        | some y => equal x y
        | none => false) && equalEntries xs ys

end

/-- The value an object holds under a key; other values hold none. -/
def member? (value : Value) (key : String) : Option Value :=
  match value with
  | .obj entries => Assoc.get? entries key
  | _ => none

/-- An empty value: null, `""`, `[]` or `{}`. `false` and `0` are values. -/
def isBlank : Value → Bool
  | .null => true
  | .str s => s.isEmpty
  | .arr items => items.isEmpty
  | .obj entries => entries.isEmpty
  | .bool _ | .num _ => false

/-- A value that an optional constraint passes unchecked: a blank one, `false`,
zero or NaN. -/
def isFalsy : Value → Bool
  | .bool b => !b
  | .num n => n.isZeroOrNaN
  | value => value.isBlank

/-- The text of a scalar; arrays and objects have none. -/
def text? : Value → Option String
  | .null => some ""
  | .bool true => some "true"
  | .bool false => some "false"
  | .num n => some n.text
  | .str s => some s
  | .arr _ | .obj _ => none

/-- How many elements a collection has, or characters the text of a scalar. -/
def length : Value → Nat
  | .arr items => items.length
  | .obj entries => entries.length
  | value => (value.text?.map String.length).getD 0

/-- The string a value is, if it is one. -/
def string? : Value → Option String
  | .str s => some s
  | _ => none

/-- The items of an array. -/
def items? : Value → Option (List Value)
  | .arr items => some items
  | _ => none

/-- The natural number a value is, if it is stored as a nonnegative integer. -/
def natural? : Value → Option Nat
  | .num (.integer n) => if 0 ≤ n then some n.toNat else none
  | _ => none

/-- The shape of a value, as diagnostics name it. -/
inductive Shape where
  | null
  | boolean
  | number
  | string
  | array
  | object
  deriving DecidableEq, Repr

/-- The name of a shape in diagnostics. -/
def Shape.name : Shape → String
  | .null => "null"
  | .boolean => "boolean"
  | .number => "number"
  | .string => "string"
  | .array => "array"
  | .object => "object"

/-- The shape of a value. -/
def shape : Value → Shape
  | .null => .null
  | .bool _ => .boolean
  | .num _ => .number
  | .str _ => .string
  | .arr _ => .array
  | .obj _ => .object

end Value

end FormValidity
