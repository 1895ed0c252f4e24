import FormValidity.Constraint.Basic
import FormValidity.Predicate.Format
import FormValidity.Value.LooseEq

/-! # Built-in predicates

Every predicate here except `presence`, `absence`, `acceptance` and `confirmation`
passes a falsy value unchecked: whether a value may be missing is left to `presence`.
-/

namespace FormValidity

namespace Predicate

/-- The value is not blank. -/
def presence : Predicate := ofTest fun value => !value.isBlank

/-- The value is blank. -/
def absence : Predicate := ofTest Value.isBlank

/-- The value is `true` and nothing like it. -/
def acceptance : Predicate := ofTest fun
  | .bool true => true
  | _ => false

/-- A test of values that are not falsy. -/
def ofOptional (test : Value → Bool) : Predicate :=
  ofTest fun value => value.isFalsy || test value

/-- The value has a text in which an expression matches. -/
def matching (expression : Expression) : Predicate :=
  ofOptional fun value =>
    value.text?.any fun text => expression.matchesIn text.toList

/-- The value loosely equals the committed value of the confirming sibling. Without a
sibling only a falsy value passes; two blank values confirm each other. -/
def confirmation (suffix : String) : Predicate := fun value site =>
  .verdict <|
    match site.sibling? (site.field.confirmationName suffix) with
    | none => value.isFalsy
    | some sibling => (value.isBlank && sibling.isBlank) || value.looseEq sibling

/-- Follow keys through nested objects. -/
def follow? : Value → List String → Option Value
  | value, [] => some value
  | value, key :: keys => (value.member? key).bind fun inner => follow? inner keys

/-- The value of an attribute in a record: under the whole name, or else through
nested objects along the name's dots. -/
def attributeOf? (record : Value) (name : String) : Option Value :=
  (record.member? name).orElse fun _ =>
    follow? record ((FieldPath.splitDots name.toList).map String.ofList)

/-- No record of the field's model holds the value for the field's attribute. -/
def uniqueness : Predicate := fun value site =>
  .verdict <|
    value.isFalsy || !(site.records.filterMap (attributeOf? · site.field.attributeName)).any
      (·.looseEq value)

/-- The value loosely equals a member of a set. -/
def inclusion (set : List Value) : Predicate :=
  ofOptional fun value => set.any (·.looseEq value)

/-- The value loosely equals no member of a set. -/
def exclusion (set : List Value) : Predicate :=
  ofOptional fun value => !set.any (·.looseEq value)

/-- The length of the value is admitted. -/
def length (rule : LengthRule) : Predicate := ofOptional fun value => rule.accepts value.length

/-- Whether a value is a number under a rule, stored as one or written as a numeral
once the rule's pattern has been taken out. -/
def isNumeric (rule : NumericRule) : Value → Bool
  | .num n => !rule.onlyInteger || n.isInteger
  | .str text =>
      let numeral := match rule.ignore with
        | some pattern => pattern.remove text
        | none => text.toList
      (if rule.onlyInteger then Format.integer else Format.number).matchesIn numeral
  | _ => false

/-- The value is a number. -/
def numericality (rule : NumericRule) : Predicate := ofOptional (isNumeric rule)

end Predicate

end FormValidity
