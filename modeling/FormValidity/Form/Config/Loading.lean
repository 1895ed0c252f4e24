import FormValidity.Form.Config.Environment
import FormValidity.Json.Reading
import FormValidity.Text.FileName
import FormValidity.Toml.Reading
import FormValidity.Yaml.Reading

/-! # Loading configurations

A configuration is made of the standard one, a file and the environment, in this order
of rank. The extension of the file's name tells its notation: YAML, JSON or else TOML.
-/

namespace FormValidity

/-- The setting that a value makes. -/
def Setting.ofValue : Value → Setting
  | .str content => .text content
  | _ => .other

/-- The setting that an item of a TOML table makes. -/
def Setting.ofItem : Toml.Item → Setting
  | .text content => .text content
  | _ => .other

namespace Settings

/-- The settings of a JSON text, which must be an object. -/
def ofJson? (text : String) : Option Settings :=
  match Json.read? text with
  | some (.obj entries) => some (entries.map fun entry => (entry.1, Setting.ofValue entry.2))
  | _ => none

/-- The settings of a YAML text, which must be a mapping or empty. -/
def ofYaml? (text : String) : Option Settings :=
  (Yaml.document? text).bind fun document =>
    (do
      let entries ← document.rootEntries
      entries.mapM fun (key, value) => do
        let key ← document.textOf key
        let value ← document.valueOf .accepted (Yaml.depthLimit - 1) value
        pure (key, Setting.ofValue value) : Yaml.Resolve Settings).run' 0

/-- The settings of a TOML text. -/
def ofToml? (text : String) : Option Settings :=
  (Toml.read? text).map fun entries =>
    entries.map fun entry => (entry.1, Setting.ofItem entry.2)

/-- The settings of a file by its name; none if it cannot be read. -/
def ofFile? (name text : String) : Option Settings :=
  match (Text.extension? name).map String.toLower with
  | some "yaml" => ofYaml? text
  | some "yml" => ofYaml? text
  | some "json" => ofJson? text
  | _ => ofToml? text

end Settings

namespace FormConfig

/-- Load a configuration from a file, if one is named, and the variables of the
environment. A file that does not exist has no settings. -/
def load (file : Option (String × Option String)) (environment : List (String × String)) :
    Except FormError FormConfig :=
  let fileSettings := match file with
    | some (name, some text) => Settings.ofFile? name text
    | _ => some []
  match fileSettings with
  | some settings => ofSettings (settings ++ Environment.settings environment)
  | none => .error .badConfig

end FormConfig

end FormValidity
