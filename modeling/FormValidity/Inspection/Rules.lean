import FormValidity.Form.Basic
import FormValidity.Inspection.Basic

/-! # Inspections of registries, paths, constraints and forms

Predicates are not shown. The keys of a registry are shown in the order of their
texts, so the order of registration does not count.
-/

namespace FormValidity

/-- The key of a built-in predicate as one text. -/
def Registry.keyText : String × Option String → String
  | (kind, none) => kind
  | (kind, some subKind) => s!"{kind}.{subKind}"

/-- Texts in ascending order of code points. -/
def sortedTexts (texts : List String) : List String := texts.mergeSort fun a b => decide (a ≤ b)

/-- The inspection of a registry. -/
def Registry.inspect (registry : Registry) : Inspection :=
  .record "ValidatorRegistry" [
    ("builtins", .list ((sortedTexts (registry.builtins.keys.map keyText)).map .quoted)),
    ("named", .list ((sortedTexts registry.named.keys).map .quoted)),
    ("confirmation_suffix", .quoted registry.confirmationSuffix)] false

/-- The inspection of a path. -/
def FieldPath.inspect (path : FieldPath) : Inspection :=
  .record "FieldPath" [
    ("model", .optionalText path.model),
    ("attribute", .quoted path.attributeName)] false

/-- The inspection of where a predicate is evaluated. -/
def Site.inspect (site : Site) : Inspection :=
  .record "EvalContext" [("field", site.field.inspect)] true

/-- The inspection of a pattern. -/
def Pattern.inspect (pattern : Pattern) : Inspection := .call "Regex" [.quoted pattern.source]

/-- The inspection of a length rule. -/
def LengthRule.inspect : LengthRule → Inspection
  | .range min max => .record "Range" [("min", .nat min), ("max", .nat max)] false
  | .bounds min max =>
      .record "Bounds" [
        ("min", .option (min.map .nat)), ("max", .option (max.map .nat))] false
  | .exact length => .call "Exact" [.nat length]

/-- The inspection of a numeric rule. -/
def NumericRule.inspect (rule : NumericRule) : Inspection :=
  .record "NumericRule" [
    ("ignore", .option (rule.ignore.map Pattern.inspect)),
    ("only_integer", .bool rule.onlyInteger)] false

/-- The inspection of a modifier. -/
def Modifier.inspect : Modifier → Inspection
  | .format pattern => .call "Format" [pattern.inspect]
  | .inclusion set => .call "Inclusion" [.list (set.map Value.inspect)]
  | .exclusion set => .call "Exclusion" [.list (set.map Value.inspect)]
  | .length rule => .call "Length" [rule.inspect]
  | .numericality rule => .call "Numericality" [rule.inspect]
  | .builtin keys => .call "Builtin" [.list (keys.map .quoted)]

/-- The inspection of a constraint. -/
def Constraint.inspect : Constraint → Inspection
  | .flag enabled => .call "Flag" [.bool enabled]
  | .custom _ message => .record "Custom" [("message", .optionalText message)] true
  | .modifier parameters message =>
      .record "Modifier" [
        ("modifier", parameters.inspect), ("message", .optionalText message)] false

/-- The inspection of a descriptor. -/
def Descriptor.inspect (descriptor : Descriptor) : Inspection :=
  .record "ConstraintDescriptor" [
    ("kind", .quoted descriptor.kind),
    ("rule", .quoted descriptor.rule),
    ("message", .optionalText descriptor.message)] true

/-- The inspection of a form. -/
def Form.inspect (form : Form) : Inspection :=
  .record "Form" [
    ("name", .quoted form.name),
    ("model", .quoted form.model.name),
    ("fields", .list (form.fieldNames.map .quoted))] true

end FormValidity
