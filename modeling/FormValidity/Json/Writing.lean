import FormValidity.Value.Basic

/-! # Writing JSON

The compact text of a value: entries in their order, numbers by `Number.text`.
-/

namespace FormValidity

namespace Json

/-- The hexadecimal digits of a code below 32, as four digits. -/
def controlCode (code : Nat) : List Char :=
  ['0', '0', Nat.digitChar (code / 16), Nat.digitChar (code % 16)]

/-- A character inside a quoted string. -/
def escapeChar (c : Char) : List Char :=
  match c with
  | '"' => ['\\', '"']
  | '\\' => ['\\', '\\']
  | '\n' => ['\\', 'n']
  | '\r' => ['\\', 'r']
  | '\t' => ['\\', 't']
  | '\x08' => ['\\', 'b']
  | '\x0c' => ['\\', 'f']
  | c => if c.toNat < 0x20 then '\\' :: 'u' :: controlCode c.toNat else [c]

/-- A quoted string. -/
def quote (s : String) : String :=
  String.ofList ('"' :: s.toList.flatMap escapeChar ++ ['"'])

mutual

/-- The text of a value. -/
def write : Value → String
  | .null => "null"
  | .bool true => "true"
  | .bool false => "false"
  | .num n => n.text
  | .str s => quote s
  | .arr items => "[" ++ ",".intercalate (writeItems items) ++ "]"
  | .obj entries => "\x7b" ++ ",".intercalate (writeEntries entries) ++ "\x7d"

/-- The texts of values. -/
def writeItems : List Value → List String
  | [] => []
  | value :: rest => write value :: writeItems rest

/-- The texts of entries. -/
def writeEntries : List (String × Value) → List String
  | [] => []
  | (key, value) :: rest => (quote key ++ ":" ++ write value) :: writeEntries rest

end

end Json

end FormValidity
