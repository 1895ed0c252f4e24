import FormValidity.Value.Basic

/-! # Errors of rules

Why a rule cannot be decoded, compiled or evaluated, and the text that tells it.
-/

namespace FormValidity

/-- What is wrong with the shape of a constraint. -/
inductive ShapeFault where
  /-- The constraint is no boolean, pair or object. -/
  | notConstraint (found : Value.Shape)
  /-- A pair does not have two elements. -/
  | pairSize (size : Nat)
  /-- A pair does not begin with a string. -/
  | pairHead
  /-- No key of an object is set to true. -/
  | nothingEnabled
  /-- A bound is no nonnegative integer. -/
  | notNatural (key : String)
  /-- A range is no pair. -/
  | notRange
  /-- A range does not ascend, or holds something else than nonnegative integers. -/
  | notAscending
  /-- A length rule has no bound. -/
  | noBound
  /-- A set of values is no list. -/
  | notList (key : String)
  /-- A pattern is no string. -/
  | notPattern
  deriving DecidableEq, Repr

/-- The wording of a fault. -/
def ShapeFault.message : ShapeFault → String
  | .notConstraint found => s!"expected boolean, pair or object, got {found.name}"
  | .pairSize size => s!"pair must have 2 elements, got {size}"
  | .pairHead => "pair must start with a predicate name"
  | .nothingEnabled => "no enabled sub-validator"
  | .notNatural key => s!"'{key}' must be a non-negative integer"
  | .notRange => "'in' must be a [min, max] pair"
  | .notAscending => "'in' must be an ascending integer pair"
  | .noBound => "expected 'in', 'is', 'min' or 'max'"
  | .notList key => s!"'{key}' must be a list"
  | .notPattern => "pattern must be a string"

/-- An error of decoding, compiling or evaluating rules. -/
inductive RuleError where
  /-- A constraint has a shape that means nothing. -/
  | unrecognizedShape (kind : String) (fault : ShapeFault)
  /-- A pattern violates the notation of patterns. -/
  | invalidPattern (kind : String)
  /-- A pair names a predicate that the registry does not hold. -/
  | unknownPredicate (kind name : String)
  /-- A field's rules are no object. -/
  | schemaNotMapping (found : Value.Shape)
  /-- A predicate could not decide. -/
  | predicateFailed (kind message : String)
  /-- A value arrived for a field that was never registered. -/
  | fieldNotRegistered (name : String)
  /-- A text is no JSON document. -/
  | malformedJson
  /-- A text is no YAML document. -/
  | malformedYaml
  deriving DecidableEq, Repr

/-- The wording of an error. -/
def RuleError.message : RuleError → String
  | .unrecognizedShape kind fault =>
      s!"unrecognized spec for constraint '{kind}': " ++ fault.message
  | .invalidPattern kind => s!"invalid pattern for constraint '{kind}'"
  | .unknownPredicate kind name => s!"unknown predicate '{name}' for constraint '{kind}'"
  | .schemaNotMapping found => s!"field schema must be a mapping, got {found.name}"
  | .predicateFailed kind message => s!"predicate for constraint '{kind}' failed: {message}"
  | .fieldNotRegistered name => s!"field not registered: {name}"
  | .malformedJson => "JSON error"
  | .malformedYaml => "YAML error"

end FormValidity
