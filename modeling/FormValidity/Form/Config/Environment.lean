import FormValidity.Binary64.Reading
import FormValidity.FieldPath
import FormValidity.Form.Config.Setting
import FormValidity.Text.Quoted
import FormValidity.Unicode.WhiteSpace

/-! # Settings of the environment

A variable `SIMPLEFORM_FORM_SUFFIX` sets the key `form_suffix`; letter case does not
matter. Its value is a truth value, a number, a quoted string or character, a list in
brackets, a table in braces, or else plain text.
-/

namespace FormValidity

namespace Environment

/-- The white space between the parts of a value. -/
def isSpace (c : Char) : Bool := c.isWhitespace || c == '\x0c'

/-- Drop white space. -/
def skipSpace (text : List Char) : List Char := text.dropWhile isSpace

/-- The marks at which plain text ends. -/
def isSeparator (c : Char) : Bool := [',', '\x7b', '\x7d', '[', ']'].contains c

/-- The characters of unquoted keys. -/
def isKeyChar (c : Char) : Bool := c.isAlphanum || c == '_' || c == '-'

/-- Whether a text is an integer of 64 bits, signed or unsigned. -/
def isInteger (text : List Char) : Bool :=
  let (negative, digits) := Binary64.takeSign text
  !digits.isEmpty && digits.all Char.isDigit &&
    (let magnitude := Binary64.digitsValue digits
      if negative then magnitude ≤ Nat.pow 2 63 else magnitude < Nat.pow 2 64)

/-- Whether a text is a number. Only one with a point can be a double. -/
def isNumber (text : List Char) : Bool :=
  isInteger text || (text.contains '.' && (Binary64.read? text).isSome)

/-- Read the members of a list or a table up to its closing mark; a comma may follow the
last. -/
def readMembers (member : List Char → Option (List Char)) (closing : Char) :
    Nat → List Char → Option (List Char)
  | 0, _ => none
  | _ + 1, [] => none
  | fuel + 1, c :: rest =>
      if c = closing then some rest
      else
        match member (c :: rest) with
        | some (',' :: rest) => readMembers member closing fuel rest
        | some (c :: rest) => if c = closing then some rest else none
        | _ => none

/-- Read a key and the equals sign after it. -/
def readKey (text : List Char) : Option (List Char) :=
  let key := match skipSpace text with
    | '"' :: rest => (Text.readQuoted rest).map Prod.snd
    | text => if (text.takeWhile isKeyChar).isEmpty then none else some (text.dropWhile isKeyChar)
  match key.map skipSpace with
  | some ('=' :: rest) => some rest
  | _ => none

/-- Read past a word, if it is there. -/
def readWord (word : String) (text : List Char) : Option (List Char) :=
  if word.toList.isPrefixOf text then some (text.drop word.length) else none

/-- Read plain text up to a separator. -/
def readPlain (text : List Char) : Setting × List Char :=
  let plain := Unicode.trim (text.takeWhile fun c => !isSeparator c)
  (if isNumber plain then .other else .text (String.ofList plain),
    text.dropWhile fun c => !isSeparator c)

/-- Read a value and the white space around it. The fuel bounds nesting. -/
def readValue : Nat → List Char → Option (Setting × List Char)
  | 0, _ => none
  | fuel + 1, text =>
      let text := skipSpace text
      let value : Option (Setting × List Char) :=
        match (readWord "true" text).orElse fun _ => readWord "false" text with
        | some rest => some (.other, rest)
        | none =>
            let item (text : List Char) : Option (List Char) := (readValue fuel text).map Prod.snd
            let entry (text : List Char) : Option (List Char) := (readKey text).bind item
            match text with
            | '[' :: rest =>
                (readMembers item ']' (rest.length + 1) rest).map fun rest => (.other, rest)
            | '\x7b' :: rest =>
                (readMembers entry '\x7d' (rest.length + 1) rest).map fun rest => (.other, rest)
            | '"' :: rest =>
                (Text.readQuoted rest).map fun (chars, rest) =>
                  (.text (String.ofList chars), rest)
            | '\'' :: c :: '\'' :: rest => some (.text c.toString, rest)
            | '\'' :: _ => none
            | text => some (readPlain text)
      value.map fun (setting, rest) => (setting, skipSpace rest)

/-- What the value of a variable sets. A text that is no value stands for itself. -/
def settingOf (text : String) : Setting :=
  match readValue (text.length + 1) text.toList with
  | some (setting, []) => setting
  | _ => .text text

/-- What the names of variables begin with. -/
def mark : String := "SIMPLEFORM_"

/-- The key a variable sets, in the parts between its dots. -/
def keyOf? (name : String) : Option (List (List Char)) :=
  let lowered := (Unicode.trim name.toList).map Char.toLower
  (readWord mark.toLower lowered).bind fun rest =>
    let parts := FieldPath.splitDots (Unicode.trim rest)
    if parts.contains [] then none else some parts

/-- The setting of a variable. A key of several parts sets a table. -/
def assignment? (name value : String) : Option (String × Setting) :=
  match keyOf? name with
  | some [key] => some (String.ofList key, settingOf value)
  | some (key :: _) => some (String.ofList key, .other)
  | _ => none

/-- The settings of variables, in order. -/
def settings (environment : List (String × String)) : Settings :=
  environment.filterMap fun entry => assignment? entry.1 entry.2

end Environment

end FormValidity
