import FormValidity.Form.Config
import FormValidity.Form.Error
import FormValidity.OrderedMap

/-! # Settings

A source of a configuration gives settings by key. Later sources override earlier ones
key by key. Only texts are settings that a form can use; a key may be overridden by
something else, and the configuration is bad if that is the last word on it.
-/

namespace FormValidity

/-- What a source says under a key. -/
inductive Setting where
  | text (content : String)
  /-- A number, a list, a table or nothing at all. -/
  | other
  deriving DecidableEq, Repr

/-- The settings of one source after another. -/
abbrev Settings := List (String × Setting)

/-- The last word on a key. -/
def Settings.get? (settings : Settings) (key : String) : Option Setting :=
  Assoc.get? settings.reverse key

/-- The text under a key, or the standard one if no source speaks of it. -/
def Settings.textOr? (settings : Settings) (key standard : String) : Option String :=
  match settings.get? key with
  | none => some standard
  | some (.text content) => some content
  | some .other => none

/-- The configuration that settings make of the standard one. -/
def FormConfig.ofSettings (settings : Settings) : Except FormError FormConfig :=
  let read : Option FormConfig := do
    let formSuffix ← settings.textOr? "form_suffix" standard.formSuffix
    let unnamedField ← settings.textOr? "unnamed_field" standard.unnamedField
    let confirmationSuffix ← settings.textOr? "confirmation_suffix" standard.confirmationSuffix
    let validClass ← settings.textOr? "valid_class_prefix" standard.validClass
    let invalidClass ← settings.textOr? "invalid_class_prefix" standard.invalidClass
    let attributeSeparator ← settings.textOr? "attribute_separator" standard.attributeSeparator
    some
      { formSuffix, unnamedField, confirmationSuffix, validClass, invalidClass,
        attributeSeparator }
  match read with
  | some config => .ok config
  | none => .error .badConfig

end FormValidity
