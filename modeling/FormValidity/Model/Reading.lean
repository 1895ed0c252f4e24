import FormValidity.Json.Reading
import FormValidity.Model.Basic
import FormValidity.Text.FileName
import FormValidity.Yaml.Reading

/-! # Reading models

A model document is a record of two fields, `model` (its name) and `validates` (the
rules of its attributes). Both may be left out, but a model without a name is refused;
other fields are ignored, and neither field may be given twice. In JSON the record may
also be an array of its two fields in that order.
-/

namespace FormValidity

namespace Model

/-- The fields of a model document. -/
def documentFields : List String := ["model", "validates"]

/-- The rules that an object declares by attribute. -/
def rulesOf? : Value → Option (OrderedMap String Value)
  | .obj entries => some (.ofList entries)
  | _ => none

/-- The value of a field, if it is given at most once. -/
def single? (field : String) (entries : List (String × Value)) : Option (Option Value) :=
  match entries.filter fun entry => entry.1 == field with
  | [] => some none
  | [entry] => some (some entry.2)
  | _ => none

/-- The model of a name and rules as written; what is left out is empty. -/
def ofParts? (name rules : Option Value) : Option Model := do
  let name ← match name with
    | none => some ""
    | some raw => raw.string?
  let rules ← match rules with
    | none => some .empty
    | some raw => rulesOf? raw
  some ⟨name, rules⟩

/-- The model of a JSON document. -/
def ofOutline? : Json.Outline → Option Model
  | .fields entries => do
      let name ← single? "model" entries
      let rules ← single? "validates" entries
      ofParts? name rules
  | .positions items => if items.length ≤ 2 then ofParts? items[0]? items[1]? else none

/-- The model a JSON text describes. -/
def ofJson (text : String) : Except FormError Model :=
  match (Json.readOutline? documentFields text).bind ofOutline? with
  | some model => model.checked
  | none => .error (.rule .malformedJson)

/-- The rules that a node of a YAML document declares by attribute. -/
def yamlRules (document : Yaml.Document) (node : Yaml.Node) :
    Yaml.Resolve (OrderedMap String Value) := do
  let entries ← document.entriesOf node
  let rules ← entries.mapM fun (key, value) => do
    let attributeName ← document.textOf key
    let raw ← document.valueOf .refused (Yaml.depthLimit - 2) value
    pure (attributeName, raw)
  pure (.ofList rules)

/-- Read the fields of a YAML document one by one. -/
def yamlFields (document : Yaml.Document) :
    List (Yaml.Node × Yaml.Node) → Option String → Option (OrderedMap String Value) →
      Yaml.Resolve Model
  | [], name, rules => pure ⟨name.getD "", rules.getD .empty⟩
  | (key, value) :: rest, name, rules => do
      match ← document.textOf key, name, rules with
      | "model", none, rules =>
          let text ← document.textOf value
          yamlFields document rest (some text) rules
      | "validates", name, none =>
          let read ← yamlRules document value
          yamlFields document rest name (some read)
      | field, name, rules =>
          if field ∈ documentFields then fun _ => none
          else yamlFields document rest name rules

/-- The model of a YAML document. -/
def ofDocument? (document : Yaml.Document) : Option Model :=
  (do yamlFields document (← document.rootEntries) none none : Yaml.Resolve Model).run' 0

/-- The model a YAML text describes. The name and the attributes are taken as the texts
they are written as, whatever else these texts might denote. -/
def ofYaml (text : String) : Except FormError Model :=
  match (Yaml.document? text).bind ofDocument? with
  | some model => model.checked
  | none => .error (.rule .malformedYaml)

/-- The model a file describes, in JSON if its extension is `json` and in YAML
otherwise. The contents are absent if there is no such file. -/
def ofFile (name : String) (contents : Option ByteArray) : Except FormError Model :=
  match contents.bind String.fromUTF8? with
  | some text => if Text.extension? name = some "json" then ofJson text else ofYaml text
  | none => .error .unreadable

end Model

end FormValidity
