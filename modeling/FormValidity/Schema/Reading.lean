import FormValidity.Json.Reading
import FormValidity.Schema
import FormValidity.Yaml.Reading

/-! # Reading field schemas

A field schema is written as an object of constraints by kind, in JSON or in YAML.
-/

namespace FormValidity

namespace Schema

/-- The schema a JSON text describes. -/
def ofJson (registry : Registry) (text : String) : Except RuleError Schema :=
  match Json.read? text with
  | some raw => ofValue registry raw
  | none => .error .malformedJson

/-- The schema a YAML text describes. -/
def ofYaml (registry : Registry) (text : String) : Except RuleError Schema :=
  match Yaml.read? text with
  | some raw => ofValue registry raw
  | none => .error .malformedYaml

end Schema

end FormValidity
