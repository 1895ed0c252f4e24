import FormValidity.Form.Config.Loading
import FormValidity.Proofs.Form.Config.Notation

/-! # Overriding one entry from the environment

A variable of the environment overrides its entry of the standard configuration by what its value
sets, and leaves the other entries alone (`FormConfig.load_variable`). The value is in the notation
of `Environment.Written`. So it is not always taken as it stands, and may even be refused
(`FormConfig.not_always_verbatim`), but every text can be given in quotes
(`FormConfig.load_override`).
-/

namespace FormValidity

namespace FormConfig

open Environment

/-- The entries of a configuration. -/
inductive Entry where
  | formSuffix
  | unnamedField
  | confirmationSuffix
  | validClass
  | invalidClass
  | attributeSeparator

namespace Entry

/-- The key of the entry in a source. -/
def key : Entry → String
  | formSuffix => "form_suffix"
  | unnamedField => "unnamed_field"
  | confirmationSuffix => "confirmation_suffix"
  | validClass => "valid_class_prefix"
  | invalidClass => "invalid_class_prefix"
  | attributeSeparator => "attribute_separator"

/-- The variable that sets the entry. -/
def variableName : Entry → String
  | formSuffix => "SIMPLEFORM_FORM_SUFFIX"
  | unnamedField => "SIMPLEFORM_UNNAMED_FIELD"
  | confirmationSuffix => "SIMPLEFORM_CONFIRMATION_SUFFIX"
  | validClass => "SIMPLEFORM_VALID_CLASS_PREFIX"
  | invalidClass => "SIMPLEFORM_INVALID_CLASS_PREFIX"
  | attributeSeparator => "SIMPLEFORM_ATTRIBUTE_SEPARATOR"

/-- The standard configuration with another text in the entry. -/
def overridden : Entry → String → FormConfig
  | formSuffix, content => { standard with formSuffix := content }
  | unnamedField, content => { standard with unnamedField := content }
  | confirmationSuffix, content => { standard with confirmationSuffix := content }
  | validClass, content => { standard with validClass := content }
  | invalidClass, content => { standard with invalidClass := content }
  | attributeSeparator, content => { standard with attributeSeparator := content }

/-- No text hides in an entry. -/
theorem overridden_injective (entry : Entry) {content other : String}
    (same : entry.overridden content = entry.overridden other) : content = other := by
  cases entry with
  | formSuffix => exact congrArg FormConfig.formSuffix same
  | unnamedField => exact congrArg FormConfig.unnamedField same
  | confirmationSuffix => exact congrArg FormConfig.confirmationSuffix same
  | validClass => exact congrArg FormConfig.validClass same
  | invalidClass => exact congrArg FormConfig.invalidClass same
  | attributeSeparator => exact congrArg FormConfig.attributeSeparator same

end Entry

variable {entry : Entry} {content text : String}

private theorem ofSettings_text (entry : Entry) (content : String) :
    ofSettings [(entry.key, .text content)] = .ok (entry.overridden content) := by
  cases entry <;> rfl

private theorem ofSettings_other (entry : Entry) :
    ofSettings [(entry.key, .other)] = .error .badConfig := by
  cases entry <;> rfl

/-- The variable of an entry sets the key of that entry. -/
theorem keyOf?_variableName (entry : Entry) :
    keyOf? entry.variableName = some [entry.key.toList] := by
  cases entry <;> decide +kernel

/-- One variable sets one key. -/
theorem load_variable (entry : Entry) (text : String) :
    load none [(entry.variableName, text)] = ofSettings [(entry.key, settingOf text)] := by
  have assigned : assignment? entry.variableName text = some (entry.key, settingOf text) := by
    rw [assignment?, keyOf?_variableName]
    exact congrArg (fun key => some (key, settingOf text)) String.ofList_toList
  have settings : Environment.settings [(entry.variableName, text)] =
      [(entry.key, settingOf text)] := by
    rw [Environment.settings, List.filterMap_cons, assigned, List.filterMap_nil]
  have loaded : load none [(entry.variableName, text)] =
      ofSettings ([] ++ Environment.settings [(entry.variableName, text)]) := rfl
  rw [loaded, settings, List.nil_append]

/-- A variable whose text says a text overrides its entry with it. -/
theorem load_of_text (set : settingOf text = .text content) (entry : Entry) :
    load none [(entry.variableName, text)] = .ok (entry.overridden content) := by
  rw [load_variable, set, ofSettings_text]

/-- A variable whose text says anything else is refused. -/
theorem load_of_other (set : settingOf text = .other) (entry : Entry) :
    load none [(entry.variableName, text)] = .error .badConfig := by
  rw [load_variable, set, ofSettings_other]

/-- An entry becomes the text of its variable exactly if that is its setting. -/
theorem load_eq_ok_iff (entry : Entry) (text content : String) :
    load none [(entry.variableName, text)] = .ok (entry.overridden content) ↔
      settingOf text = .text content := by
  refine ⟨fun loaded => ?_, fun set => load_of_text set entry⟩
  cases set : settingOf text with
  | other =>
      rw [load_of_other set] at loaded
      cases loaded
  | text written =>
      rw [load_of_text set] at loaded
      rw [entry.overridden_injective (Except.ok.inj loaded)]

/-- Every text can be given in quotes. -/
theorem exists_quoted (entry : Entry) (content : String) :
    ∃ body, Text.IsQuoted body content.toList ∧
      load none [(entry.variableName, String.ofList ('"' :: (body ++ ['"'])))] =
        .ok (entry.overridden content) := by
  obtain ⟨body, quoted⟩ := Text.exists_isQuoted content.toList
  have written : Written (.value (.text (String.ofList content.toList)))
      ([] ++ ('"' :: (body ++ ['"']) ++ [])) := .padded nofun (.quoted quoted) nofun
  rw [List.nil_append, List.append_nil, String.ofList_toList] at written
  refine ⟨body, quoted, load_of_text (settingOf_of_written ?_) entry⟩
  rwa [String.toList_ofList]

/-- What one variable makes of the standard configuration. A value of the notation sets the entry to
its text, or is an error if it has none. Any other text is taken as it stands. -/
theorem load_override (entry : Entry) (text : String) :
    (∀ content, Written (.value (.text content)) text.toList →
        load none [(entry.variableName, text)] = .ok (entry.overridden content)) ∧
      (Written (.value .other) text.toList →
        load none [(entry.variableName, text)] = .error .badConfig) ∧
      (load none [(entry.variableName, text)] = .ok (entry.overridden text) ↔
        Unwritten text.toList ∨ IsVerbatim text.toList) ∧
      ∃ body, Text.IsQuoted body text.toList ∧
        load none [(entry.variableName, String.ofList ('"' :: (body ++ ['"'])))] =
          .ok (entry.overridden text) :=
  ⟨fun _ written => load_of_text (settingOf_of_written written) entry,
    fun written => load_of_other (settingOf_of_written written) entry,
    (load_eq_ok_iff entry text text).trans settingOf_eq_text_iff, exists_quoted entry text⟩

/-- Quotes keep white space, and plain text is trimmed; a word is no text, but may begin one. -/
theorem load_override_separators :
    load none [("SIMPLEFORM_ATTRIBUTE_SEPARATOR", "\" | \"")] =
        .ok { standard with attributeSeparator := " | " } ∧
      load none [("SIMPLEFORM_ATTRIBUTE_SEPARATOR", " | ")] =
        .ok { standard with attributeSeparator := "|" } ∧
      load none [("SIMPLEFORM_ATTRIBUTE_SEPARATOR", " true ")] = .error .badConfig ∧
      load none [("SIMPLEFORM_ATTRIBUTE_SEPARATOR", " truely ")] =
        .ok { standard with attributeSeparator := " truely " } :=
  ⟨(load_override .attributeSeparator "\" | \"").1 " | " (by decide),
    (load_override .attributeSeparator " | ").1 "|" (by decide),
    (load_override .attributeSeparator " true ").2.1 (by decide),
    (load_override .attributeSeparator " truely ").2.2.1.mpr (Or.inl (by decide))⟩

/-- A blank is lost, and a word is refused. -/
theorem not_always_verbatim :
    load none [("SIMPLEFORM_ATTRIBUTE_SEPARATOR", " ")] =
        .ok { standard with attributeSeparator := "" } ∧
      load none [("SIMPLEFORM_FORM_SUFFIX", "true")] = .error .badConfig ∧
      ¬ ∀ (entry : Entry) (text : String),
        load none [(entry.variableName, text)] = .ok (entry.overridden text) := by
  have refused : load none [("SIMPLEFORM_FORM_SUFFIX", "true")] = .error .badConfig :=
    load_of_other (by decide) .formSuffix
  refine ⟨load_of_text (by decide) .attributeSeparator, refused, fun verbatim => ?_⟩
  have taken := verbatim .formSuffix "true"
  rw [Entry.variableName, refused] at taken
  cases taken

end FormConfig

end FormValidity
