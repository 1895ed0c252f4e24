import FormValidity.OrderedMap

/-! # Tables of TOML

A document is a list of statements: entries under dotted keys, headers of tables and
headers of elements of arrays of tables. `Toml.tableOf?` builds the table they
describe. Nothing may be defined twice; a table that only the header of a table inside
it implied may still get a header of its own.
-/

namespace FormValidity

namespace Toml

/-- What brought a table about. -/
inductive Origin where
  /-- A header of its own. -/
  | header
  /-- The header of a table inside it. -/
  | implied
  /-- A dotted key. -/
  | dotted
  deriving DecidableEq

/-- What stands under a key. -/
inductive Item where
  | text (content : String)
  /-- A scalar, array or inline table: it cannot grow. -/
  | closed
  /-- A table that may grow. -/
  | table (origin : Origin) (entries : List (String × Item))
  /-- An array of tables, of which only the latest may grow. -/
  | latest (entries : List (String × Item))

/-- The entries of a table. -/
abbrev Entries := List (String × Item)

/-- Append an entry under a key that is still free. -/
def addNew (entries : Entries) (key : String) (item : Item) : Option Entries :=
  match Assoc.get? entries key with
  | none => some (entries ++ [(key, item)])
  | some _ => none

/-- Add an item under a dotted key. The tables on the way must have come about by dotted
keys too; all but the last may also be implied or belong to an array. -/
def addDotted (entries : Entries) : List String → String → Item → Option Entries
  | [], key, item => addNew entries key item
  | part :: rest, key, item =>
      match Assoc.get? entries part with
      | none => do
          let inner ← addDotted [] rest key item
          some (entries ++ [(part, .table .dotted inner)])
      | some (.table .dotted inside) => do
          let inner ← addDotted inside rest key item
          some (Assoc.insert entries part (.table .dotted inner))
      | some (.table .implied inside) =>
          if rest = [] then none
          else do
            let inner ← addDotted inside rest key item
            some (Assoc.insert entries part (.table .implied inner))
      | some (.latest inside) =>
          if rest = [] then none
          else do
            let inner ← addDotted inside rest key item
            some (Assoc.insert entries part (.latest inner))
      | some _ => none

/-- Change the entries of the table at the path of a header; what is missing on the way
is implied. -/
def modifyAt (change : Entries → Option Entries) : List String → Entries → Option Entries
  | [], entries => change entries
  | part :: rest, entries =>
      match Assoc.get? entries part with
      | none => do
          let inner ← modifyAt change rest []
          some (entries ++ [(part, .table .implied inner)])
      | some (.table origin inside) => do
          let inner ← modifyAt change rest inside
          some (Assoc.insert entries part (.table origin inner))
      | some (.latest inside) => do
          let inner ← modifyAt change rest inside
          some (Assoc.insert entries part (.latest inner))
      | some _ => none

/-- Give a table its header. -/
def openTable (key : String) (entries : Entries) : Option Entries :=
  match Assoc.get? entries key with
  | none => some (entries ++ [(key, .table .header [])])
  | some (.table .implied inside) => some (Assoc.insert entries key (.table .header inside))
  | some _ => none

/-- Begin the next table of an array. -/
def openElement (key : String) (entries : Entries) : Option Entries :=
  match Assoc.get? entries key with
  | none => some (entries ++ [(key, .latest [])])
  | some (.latest _) => some (Assoc.insert entries key (.latest []))
  | some _ => none

/-- The path of a key: the parts before its last and the last. -/
structure Key where
  before : List String
  last : String

/-- All parts of a key. -/
def Key.parts (key : Key) : List String := key.before ++ [key.last]

/-- A statement of a document. -/
inductive Statement where
  | entry (key : Key) (item : Item)
  | table (header : Key)
  | element (header : Key)

/-- Carry out statements; entries go into the table of the latest header. -/
def carryOut (current : List String) (entries : Entries) : List Statement → Option Entries
  | [] => some entries
  | .entry key item :: rest => do
      let entries ← modifyAt (addDotted · key.before key.last item) current entries
      carryOut current entries rest
  | .table header :: rest => do
      let entries ← modifyAt (openTable header.last) header.before entries
      carryOut header.parts entries rest
  | .element header :: rest => do
      let entries ← modifyAt (openElement header.last) header.before entries
      carryOut header.parts entries rest

/-- The table that statements describe. -/
def tableOf? (statements : List Statement) : Option Entries := carryOut [] [] statements

/-- Whether the entries of an inline table fit together. -/
def fitInline (entries : List (Key × Item)) : Bool :=
  (tableOf? (entries.map fun entry => .entry entry.1 entry.2)).isSome

end Toml

end FormValidity
