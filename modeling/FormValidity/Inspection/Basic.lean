import FormValidity.Unicode.BinaryProperty
import FormValidity.Value.Basic

/-! # Inspection texts

A diagnostic view of a value: names, quoted texts, lists and records in one line. A
record may leave fields out, which two dots tell.
-/

namespace FormValidity

/-- What an inspection shows. -/
inductive Inspection where
  /-- A word as it stands. -/
  | word (text : String)
  /-- A quoted text. -/
  | quoted (text : String)
  | list (items : List Inspection)
  /-- Entries of a map, in order. -/
  | map (entries : List (String × Inspection))
  /-- A name with arguments. -/
  | call (name : String) (arguments : List Inspection)
  /-- A name before another inspection. -/
  | labelled (label : String) (body : Inspection)
  /-- A name with fields, of which some may be left out. -/
  | record (name : String) (fields : List (String × Inspection)) (more : Bool)

namespace Inspection

/-- The hexadecimal digits of a code point, in small letters. -/
def hexDigits (code : Nat) : List Char := Nat.toDigits 16 code

/-- Whether a character is shown as it stands: it shows by itself, and it is no control,
separator or unassigned character but the plain space. -/
def isShown (c : Char) : Bool :=
  if 0x2FF < c.toNat && Unicode.graphemeExtend.holds c then false
  else match Unicode.category c with
    | .control | .format | .surrogate | .privateUse | .unassigned => false
    | .lineSeparator | .paragraphSeparator => false
    | .spaceSeparator => c == ' '
    | _ => true

/-- A character inside a quoted text: what would not be seen is written by its code
point. -/
def escapeChar (c : Char) : List Char :=
  match c with
  | '"' => ['\\', '"']
  | '\\' => ['\\', '\\']
  | '\n' => ['\\', 'n']
  | '\r' => ['\\', 'r']
  | '\t' => ['\\', 't']
  | '\x00' => ['\\', '0']
  | c =>
      if isShown c then [c]
      else ['\\', 'u', '\x7b'] ++ hexDigits c.toNat ++ ['\x7d']

/-- A text between quotes. -/
def quote (s : String) : String :=
  String.ofList ('"' :: s.toList.flatMap escapeChar ++ ['"'])

/-- Texts between commas. -/
def joined (texts : List String) : String := ", ".intercalate texts

/-- Fields between braces, unless there are none. -/
def braced (name : String) (fields : List String) : String :=
  if fields.isEmpty then name else name ++ " \x7b " ++ joined fields ++ " \x7d"

mutual

/-- The text of an inspection. -/
def text : Inspection → String
  | .word s => s
  | .quoted s => quote s
  | .list items => "[" ++ joined (texts items) ++ "]"
  | .map entries => "\x7b" ++ joined (entryTexts quote entries) ++ "\x7d"
  | .call name arguments => name ++ "(" ++ joined (texts arguments) ++ ")"
  | .labelled label body => label ++ " " ++ text body
  | .record name fields more =>
      braced name (entryTexts id fields ++ if more then [".."] else [])

/-- The texts of inspections. -/
def texts : List Inspection → List String
  | [] => []
  | item :: rest => text item :: texts rest

/-- The texts of entries, whose keys are shown by `key`. -/
def entryTexts (key : String → String) : List (String × Inspection) → List String
  | [] => []
  | (name, item) :: rest => (key name ++ ": " ++ text item) :: entryTexts key rest

end

/-- An optional inspection. -/
def option : Option Inspection → Inspection
  | none => .word "None"
  | some item => .call "Some" [item]

/-- A truth value. -/
def bool (b : Bool) : Inspection := .word (if b then "true" else "false")

/-- A natural number. -/
def nat (n : Nat) : Inspection := .word (toString n)

/-- An optional text. -/
def optionalText (s : Option String) : Inspection := option (s.map .quoted)

end Inspection

mutual

/-- The inspection of a value. -/
def Value.inspect : Value → Inspection
  | .null => .word "Null"
  | .bool b => .call "Bool" [Inspection.bool b]
  | .num n => .call "Number" [.word n.text]
  | .str s => .call "String" [.quoted s]
  | .arr items => .labelled "Array" (.list (Value.inspectItems items))
  | .obj entries => .labelled "Object" (.map (Value.inspectEntries entries))

/-- The inspections of values. -/
def Value.inspectItems : List Value → List Inspection
  | [] => []
  | value :: rest => Value.inspect value :: Value.inspectItems rest

/-- The inspections of entries. -/
def Value.inspectEntries : List (String × Value) → List (String × Inspection)
  | [] => []
  | (key, value) :: rest => (key, Value.inspect value) :: Value.inspectEntries rest

end

end FormValidity
