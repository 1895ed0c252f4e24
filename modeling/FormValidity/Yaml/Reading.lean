import FormValidity.Binary64.Reading
import FormValidity.Value.Basic
import FormValidity.Yaml.Node

/-! # Values of YAML documents

A plain scalar without tag reads as null, a boolean, an integer, a double or else a
string; a quoted one is a string; the standard tags of null, booleans and numbers force
a reading. Tags of the document's own have no reading. Aliases are resolved on the way,
but not without bound, and collections nest at most `Yaml.depthLimit` deep.
-/

namespace FormValidity

namespace Yaml

/-- How deep collections may nest. -/
def depthLimit : Nat := 128

/-- How integers of more than 64 bits are taken: as an error, or like others. -/
inductive WideIntegers where
  | refused
  | accepted
  deriving DecidableEq

/-- The value of digits of a base; none if there is no digit or another character. -/
def digits? (base : Nat) (digits : List Char) : Option Nat :=
  if digits = [] then none
  else digits.foldlM (fun value c =>
    (Text.hexDigit? c).bind fun digit =>
      if digit < base then some (base * value + digit) else none) 0

/-- Digits after a mark of their base. -/
def markedDigits? : List Char → Option Nat
  | '0' :: 'x' :: digits => digits? 16 digits
  | '0' :: 'o' :: digits => digits? 8 digits
  | '0' :: 'b' :: digits => digits? 2 digits
  | _ => none

/-- Whether a text is digits with a leading zero, which is no number. -/
def hasLeadingZero (text : List Char) : Bool :=
  match (Binary64.takeSign text).2 with
  | '0' :: c :: rest => (c :: rest).all Char.isDigit
  | _ => false

/-- The integer that a plain scalar denotes, if it fits 128 bits. -/
def integer? (text : List Char) : Option Int :=
  let (negative, body) := Binary64.takeSign text
  let magnitude := (markedDigits? body).orElse fun _ =>
    if hasLeadingZero text then none else digits? 10 body
  magnitude.bind fun n =>
    if negative then (if n ≤ Nat.pow 2 127 then some (-n) else none)
    else if n < Nat.pow 2 128 then some n else none

/-- Whether an integer fits 64 bits, signed or unsigned. -/
def isNarrow (n : Int) : Bool := -(Nat.pow 2 63 : Nat) ≤ n && n < Nat.pow 2 64

/-- The double that a plain scalar denotes. -/
def double? (text : List Char) : Option Binary64 :=
  let (negative, body) := Binary64.takeSign text
  let word := String.ofList body
  if word = ".inf" ∨ word = ".Inf" ∨ word = ".INF" then some (.infinite negative)
  else
    let word := String.ofList text
    if word = ".nan" ∨ word = ".NaN" ∨ word = ".NAN" then some .nan
    else if (Binary64.takeSign body).2 ≠ body then none
    else (Binary64.read? text).filter Binary64.isFinite

/-- The truth value that a plain scalar denotes. -/
def bool? (text : List Char) : Option Bool :=
  match String.ofList text with
  | "true" | "True" | "TRUE" => some true
  | "false" | "False" | "FALSE" => some false
  | _ => none

/-- Whether a plain scalar denotes null. -/
def isNull (text : List Char) : Bool :=
  ["null", "Null", "NULL", "~"].contains (String.ofList text)

/-- The value of a double: only finite ones are numbers. -/
def ofDouble (x : Binary64) : Value := if x.isFinite then .num (.double x) else .null

/-- The value of an integer. -/
def ofInteger? (wide : WideIntegers) (n : Int) : Option Value :=
  if isNarrow n ∨ wide = .accepted then some (.num (.integer n)) else none

/-- The value of a plain scalar without tag. -/
def ofPlain? (wide : WideIntegers) (text : List Char) : Option Value :=
  if text = [] ∨ isNull text then some .null
  else
    match bool? text, integer? text with
    | some b, _ => some (.bool b)
    | none, some n => ofInteger? wide n
    | none, none =>
        match if hasLeadingZero text then none else double? text with
        | some x => some (ofDouble x)
        | none => some (.str (String.ofList text))

/-- The beginning of the standard tags. -/
def standardTag (name : String) : List Char := ("tag:yaml.org,2002:" ++ name).toList

/-- The value of a scalar. -/
def ofScalar? (wide : WideIntegers) (tag : Option (List Char)) (text : List Char)
    (plain : Bool) : Option Value :=
  match tag with
  | none => if plain then ofPlain? wide text else some (.str (String.ofList text))
  | some tag =>
      if tag.head? = some '!' then none
      else if tag = standardTag "bool" then (bool? text).map .bool
      else if tag = standardTag "int" then (integer? text).bind (ofInteger? wide)
      else if tag = standardTag "float" then (double? text).map ofDouble
      else if tag = standardTag "null" then if isNull text then some .null else none
      else some (.str (String.ofList text))

/-- Reading with a count of the aliases resolved so far. -/
abbrev Resolve := StateT Nat Option

namespace Document

/-- The node an alias stands for; other nodes stand for themselves. -/
def resolve (document : Document) : Node → Resolve Node
  | .alias number => do
      let resolved := (← get) + 1
      set resolved
      match document.anchor? number with
      | some node => if resolved ≤ 100 * document.length then pure node else fun _ => none
      | none => fun _ => none
  | node => pure node

/-- The text of a scalar, whatever it denotes. -/
def textOf (document : Document) (node : Node) : Resolve String := do
  match ← document.resolve node with
  | .scalar _ text _ => pure (String.ofList text)
  | _ => fun _ => none

/-- Whether a tag is the document's own. -/
def isOwnTag (tag : Option (List Char)) : Bool := tag.any fun tag => tag.head? == some '!'

/-- The value of a node, whose collections may nest `depth` deep. -/
def valueOf (document : Document) (wide : WideIntegers) : Nat → Node → Resolve Value
  | depth, node => do
      match ← document.resolve node with
      | .scalar tag text plain => fun state => (ofScalar? wide tag text plain).map (·, state)
      | .sequence tag items =>
          match depth with
          | 0 => fun _ => none
          | depth + 1 =>
              if isOwnTag tag then fun _ => none
              else
                let values ← items.mapM (document.valueOf wide depth)
                pure (.arr values)
      | .mapping tag entries =>
          match depth with
          | 0 => fun _ => none
          | depth + 1 =>
              if isOwnTag tag then fun _ => none
              else
                let values ← entries.mapM fun (key, value) => do
                  let key ← document.textOf key
                  let value ← document.valueOf wide depth value
                  pure (key, value)
                pure (.obj (OrderedMap.ofList values).entries)
      | .alias _ => fun _ => none

/-- The entries of a node that is to be a mapping; an empty scalar is an empty one. -/
def entriesOf (document : Document) (node : Node) : Resolve (List (Node × Node)) := do
  match ← document.resolve node with
  | .mapping _ entries => pure entries
  | .scalar _ [] _ => pure []
  | _ => fun _ => none

/-- The entries of the root, which is to be a mapping. -/
def rootEntries (document : Document) : Resolve (List (Node × Node)) :=
  match document.root with
  | none => pure []
  | some root => document.entriesOf root

/-- The value of the whole document; an empty one is null. -/
def value? (document : Document) : Option Value :=
  match document.root with
  | none => some .null
  | some root => (document.valueOf .refused depthLimit root).run' 0

end Document

/-- The document of a text. -/
def document? (text : String) : Option Document :=
  (Token.ofText? text.toList).bind Document.ofTokens?

/-- The value a text denotes. -/
def read? (text : String) : Option Value := (document? text).bind Document.value?

end Yaml

end FormValidity
