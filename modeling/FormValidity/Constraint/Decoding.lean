import FormValidity.Constraint.Basic
import FormValidity.Registry

/-! # Decoding constraints

A raw constraint is a boolean, a pair of a predicate's name and a message, or an object
whose keys depend on the kind. Of an object, `length` and `numericality` read their own
keys; for other kinds the first of `regex`, `in` and `from` decides, and without them
the keys set to true name built-in predicates.
-/

namespace FormValidity

namespace Constraint

/-- Decode a pattern. -/
def decodePattern (kind : String) (raw : Value) : Except RuleError Pattern :=
  match raw with
  | .str source =>
      match Pattern.compile? source with
      | some pattern => .ok pattern
      | none => .error (.invalidPattern kind)
  | _ => .error (.unrecognizedShape kind .notPattern)

/-- Decode a set of values. -/
def decodeSet (kind key : String) (raw : Value) : Except RuleError (List Value) :=
  match raw with
  | .arr items => .ok items
  | _ => .error (.unrecognizedShape kind (.notList key))

/-- Decode an optional bound. -/
def decodeBound (kind : String) (entries : List (String × Value)) (key : String) :
    Except RuleError (Option Nat) :=
  match Assoc.get? entries key with
  | none => .ok none
  | some raw =>
      match raw.natural? with
      | some bound => .ok (some bound)
      | none => .error (.unrecognizedShape kind (.notNatural key))

/-- Decode a range. -/
def decodeRange (kind : String) (raw : Value) : Except RuleError LengthRule :=
  match raw with
  | .arr [low, high] =>
      match low.natural?, high.natural? with
      | some min, some max =>
          if min ≤ max then .ok (.range min max)
          else .error (.unrecognizedShape kind .notAscending)
      | _, _ => .error (.unrecognizedShape kind .notAscending)
  | _ => .error (.unrecognizedShape kind .notRange)

/-- Decode the parameters of a length: `in` before `is` before `min` and `max`. -/
def decodeLength (kind : String) (entries : List (String × Value)) :
    Except RuleError LengthRule :=
  match Assoc.get? entries "in" with
  | some raw => decodeRange kind raw
  | none => do
      match ← decodeBound kind entries "is" with
      | some length => .ok (.exact length)
      | none =>
          let min ← decodeBound kind entries "min"
          let max ← decodeBound kind entries "max"
          if min = none ∧ max = none then .error (.unrecognizedShape kind .noBound)
          else .ok (.bounds min max)

/-- Whether a value is `true`. -/
def isTrue : Value → Bool
  | .bool true => true
  | _ => false

/-- Decode the parameters of a number. -/
def decodeNumeric (kind : String) (entries : List (String × Value)) :
    Except RuleError NumericRule := do
  let ignore ← match Assoc.get? entries "ignore" with
    | some raw => (decodePattern kind raw).map some
    | none => .ok none
  .ok ⟨ignore, (Assoc.get? entries "only_integer").any isTrue⟩

/-- The keys set to true, the message apart. -/
def enabledKeys (entries : List (String × Value)) : List String :=
  (entries.filter fun entry => entry.1 ≠ "message" ∧ isTrue entry.2).map Prod.fst

/-- Decode the parameters of a kind that reads no keys of its own. -/
def decodeSelection (kind : String) (entries : List (String × Value)) :
    Except RuleError Modifier :=
  match Assoc.get? entries "regex", Assoc.get? entries "in", Assoc.get? entries "from" with
  | some raw, _, _ => (decodePattern kind raw).map .format
  | none, some raw, _ => (decodeSet kind "in" raw).map .inclusion
  | none, none, some raw => (decodeSet kind "from" raw).map .exclusion
  | none, none, none =>
      match enabledKeys entries with
      | [] => .error (.unrecognizedShape kind .nothingEnabled)
      | keys => .ok (.builtin keys)

/-- Decode the parameters of an object. -/
def decodeModifier (kind : String) (entries : List (String × Value)) :
    Except RuleError Modifier :=
  if kind = "length" then (decodeLength kind entries).map .length
  else if kind = "numericality" then (decodeNumeric kind entries).map .numericality
  else decodeSelection kind entries

/-- Decode an object. -/
def decodeObject (kind : String) (entries : List (String × Value)) : Except RuleError Constraint :=
  (decodeModifier kind entries).map fun modifier =>
    .modifier modifier ((Assoc.get? entries "message").bind Value.string?)

/-- Decode a pair, whose predicate the registry must hold. -/
def decodePair (registry : Registry) (kind : String) (items : List Value) :
    Except RuleError Constraint :=
  match items with
  | [.str name, message] =>
      match registry.named? name with
      | some predicate => .ok (.custom predicate message.string?)
      | none => .error (.unknownPredicate kind name)
  | [_, _] => .error (.unrecognizedShape kind .pairHead)
  | _ => .error (.unrecognizedShape kind (.pairSize items.length))

/-- Decode the constraint written for a kind. -/
def decode (registry : Registry) (kind : String) (raw : Value) : Except RuleError Constraint :=
  match raw with
  | .bool enabled => .ok (.flag enabled)
  | .arr items => decodePair registry kind items
  | .obj entries => decodeObject kind entries
  | _ => .error (.unrecognizedShape kind (.notConstraint raw.shape))

end Constraint

end FormValidity
