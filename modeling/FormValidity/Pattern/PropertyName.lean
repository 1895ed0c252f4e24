import FormValidity.Pattern.CharClass

/-! # Names of character properties

A class may ask for a property by name: a general category, a script or a binary
property. Names are compared loosely, without case, blanks, underscores,
hyphens and a leading `is`.
-/

namespace FormValidity

namespace CharProperty

/-- The form in which names are compared. -/
def looseName (name : List Char) : String :=
  let letters := (name.filter fun c => c.toNat < 0x80).map Char.toLower
  let bare := (if ['i', 's'].isPrefixOf letters then letters.drop 2 else letters).filter fun c =>
    c != ' ' && c != '_' && c != '-'
  if ['i', 's'].isPrefixOf letters && bare == ['c'] then "isc" else String.ofList bare

open Unicode.Category

/-- The general categories and their groups, with the names they go by. -/
def categoryNames : List (List String × List Unicode.Category) := [
  (["l", "letter"],
    [uppercaseLetter, lowercaseLetter, titlecaseLetter, modifierLetter, otherLetter]),
  (["lc", "casedletter"], [uppercaseLetter, lowercaseLetter, titlecaseLetter]),
  (["lu", "uppercaseletter"], [uppercaseLetter]),
  (["ll", "lowercaseletter"], [lowercaseLetter]),
  (["lt", "titlecaseletter"], [titlecaseLetter]),
  (["lm", "modifierletter"], [modifierLetter]),
  (["lo", "otherletter"], [otherLetter]),
  (["m", "mark", "combiningmark"], [nonspacingMark, spacingMark, enclosingMark]),
  (["mn", "nonspacingmark"], [nonspacingMark]),
  (["mc", "spacingmark"], [spacingMark]),
  (["me", "enclosingmark"], [enclosingMark]),
  (["n", "number"], [decimalNumber, letterNumber, otherNumber]),
  (["nd", "decimalnumber", "digit"], [decimalNumber]),
  (["nl", "letternumber"], [letterNumber]),
  (["no", "othernumber"], [otherNumber]),
  (["p", "punctuation", "punct"],
    [connectorPunctuation, dashPunctuation, openPunctuation, closePunctuation,
      initialPunctuation, finalPunctuation, otherPunctuation]),
  (["pc", "connectorpunctuation"], [connectorPunctuation]),
  (["pd", "dashpunctuation"], [dashPunctuation]),
  (["ps", "openpunctuation"], [openPunctuation]),
  (["pe", "closepunctuation"], [closePunctuation]),
  (["pi", "initialpunctuation"], [initialPunctuation]),
  (["pf", "finalpunctuation"], [finalPunctuation]),
  (["po", "otherpunctuation"], [otherPunctuation]),
  (["s", "symbol"], [mathSymbol, currencySymbol, modifierSymbol, otherSymbol]),
  (["sm", "mathsymbol"], [mathSymbol]),
  (["sc", "currencysymbol"], [currencySymbol]),
  (["sk", "modifiersymbol"], [modifierSymbol]),
  (["so", "othersymbol"], [otherSymbol]),
  (["z", "separator"], [spaceSeparator, lineSeparator, paragraphSeparator]),
  (["zs", "spaceseparator"], [spaceSeparator]),
  (["zl", "lineseparator"], [lineSeparator]),
  (["zp", "paragraphseparator"], [paragraphSeparator]),
  (["c", "other"], [control, format, surrogate, privateUse, unassigned]),
  (["cc", "control", "cntrl"], [control]),
  (["cf", "format"], [format]),
  (["co", "privateuse"], [privateUse]),
  (["cn", "unassigned"], [unassigned])]

/-- The property of a general category's name. -/
def category? (name : String) : Option CharProperty :=
  match name with
  | "any" => some .any
  | "assigned" => some .assigned
  | "ascii" => some .ascii
  | _ =>
      (categoryNames.find? fun entry => entry.1.contains name).map fun entry => .categories entry.2

/-- The binary property of a name. -/
def binary? : String → Option CharProperty
  | "alphabetic" | "alpha" => some .alphabetic
  | "uppercase" | "upper" => some .uppercase
  | "lowercase" | "lower" => some .lowercase
  | "whitespace" | "wspace" | "space" => some .whiteSpace
  | name => (Unicode.binaryPropertyNamed? name).map fun _ => .binary name

/-- The property of a script's name. -/
def script? (name : String) : Option CharProperty := (Unicode.scriptNamed? name).map .script

/-- The property that a bare name asks for: a binary property, else a general
category, else a script. -/
def named? (name : List Char) : Option CharProperty :=
  let loose := looseName name
  (binary? loose).orElse fun _ => (category? loose).orElse fun _ => script? loose

/-- The property that a name and a value ask for. -/
def valued? (name value : List Char) : Option CharProperty :=
  match looseName name with
  | "gc" | "generalcategory" => category? (looseName value)
  | "sc" | "script" => script? (looseName value)
  | "scx" | "scriptextensions" =>
      (Unicode.scriptNamed? (looseName value)).map .inScript
  | _ => none

end CharProperty

end FormValidity
