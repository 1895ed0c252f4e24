import FormValidity.OrderedMap
import FormValidity.Yaml.Token

/-! # Documents of YAML

A document is a tree of scalars, sequences and mappings (`Node`). An alias stands for
the node of an anchor and is resolved when the document is read, so a node may hold an
alias of itself. `Document.ofTokens?` accepts a stream of at most one document.
-/

namespace FormValidity

namespace Yaml

/-- A node. A tag is given in full; `anchor` numbers name anchored nodes. -/
inductive Node where
  | scalar (tag : Option (List Char)) (text : List Char) (plain : Bool)
  | sequence (tag : Option (List Char)) (items : List Node)
  | mapping (tag : Option (List Char)) (entries : List (Node × Node))
  | alias (anchor : Nat)
  deriving Inhabited

/-- An anchored node, with its number and the place where it began. -/
structure AnchoredNode where
  number : Nat
  place : Nat
  node : Node

/-- A document: its root, if there is one, its anchored nodes, and a measure of its
length, which counts a collection twice. -/
structure Document where
  root : Option Node
  anchored : List AnchoredNode
  length : Nat

namespace Document

/-- The node of an anchor number; of several, the one that began last. -/
def anchor? (document : Document) (number : Nat) : Option Node :=
  let sharing := document.anchored.filter fun entry => entry.number == number
  (sharing.foldl (fun (best : Option AnchoredNode) entry =>
    match best with
    | none => some entry
    | some other => if other.place ≤ entry.place then some entry else best) none).map
    AnchoredNode.node

end Document

/-- The state of reading a document. -/
structure Growing where
  tokens : List Token
  /-- The tag handles, later ones first. -/
  handles : List (List Char × List Char) := []
  /-- The names of anchors with their latest numbers. -/
  names : OrderedMap (List Char) Nat := .empty
  anchored : List AnchoredNode := []
  /-- How much has been read. -/
  length : Nat := 0

/-- Reading a part of a document. -/
abbrev Grow := StateT Growing Option

namespace Grow

/-- Violate the grammar. -/
def fail : Grow α := fun _ => none

/-- The next token. -/
def peek : Grow (Option Token) := do
  let state ← get
  pure state.tokens.head?

/-- Go past a token. -/
def next : Grow Unit := modify fun state => { state with tokens := state.tokens.drop 1 }

/-- Count some of the length. -/
def count (amount : Nat) : Grow Unit :=
  modify fun state => { state with length := state.length + amount }

/-- Whether the next token is one of some. -/
def sees (expected : List Token) : Grow Bool := do
  let token ← peek
  pure (token.any (expected.contains ·))

/-- Go past a token that must be the next. -/
def expect (token : Token) : Grow Unit := do
  if ← sees [token] then next else fail

/-- A scalar that is left out. -/
def missing : Grow Node := do
  count 1
  pure (.scalar none [] true)

/-- The full form of a tag. -/
def resolveTag (handle suffix : List Char) : Grow (List Char) := do
  let state ← get
  if handle = [] then pure suffix
  else
    match Assoc.get? (state.handles ++ [(['!'], ['!']), (['!', '!'], "tag:yaml.org,2002:".toList)])
        handle with
    | some expansion => pure (expansion ++ suffix)
    | none => fail

/-- Read a tag, if there is one. -/
def optionalTag : Grow (Option (List Char)) := do
  match ← peek with
  | some (.tag handle suffix) =>
      next
      let tag ← resolveTag handle suffix
      pure (some tag)
  | _ => pure none

/-- Read an anchor, if there is one. -/
def optionalAnchor : Grow (Option (List Char)) := do
  match ← peek with
  | some (.anchor name) =>
      next
      pure (some name)
  | _ => pure none

/-- Give the node of an anchor its number: how many names are known before it. -/
def numberAnchor (name : List Char) : Grow Nat := do
  let state ← get
  let number := state.names.size
  set { state with names := state.names.insert name number }
  pure number

/-- Keep an anchored node. -/
def keepAnchored (number place : Nat) (node : Node) : Grow Unit :=
  modify fun state => { state with anchored := ⟨number, place, node⟩ :: state.anchored }

/-- Read a node unless one of some tokens shows that it is left out. -/
def orMissing (absent : List Token) (node : Grow Node) : Grow Node := do
  if ← sees absent then missing else node

/-- Read the entries of a block sequence. -/
def blockItems (node : Grow Node) : Nat → Grow (List Node)
  | 0 => fail
  | fuel + 1 => do
      if ← sees [.blockEntry] then
        next
        let item ← orMissing [.blockEntry, .blockEnd] node
        let items ← blockItems node fuel
        pure (item :: items)
      else
        expect .blockEnd
        pure []

/-- Read the entries of a block sequence that is not indented. -/
def hangingItems (node : Grow Node) : Nat → Grow (List Node)
  | 0 => fail
  | fuel + 1 => do
      if ← sees [.blockEntry] then
        next
        let item ← orMissing [.blockEntry, .key, .value, .blockEnd] node
        let items ← hangingItems node fuel
        pure (item :: items)
      else pure []

/-- Read the entries of a block mapping. -/
def blockEntries (node : Grow Node) : Nat → Grow (List (Node × Node))
  | 0 => fail
  | fuel + 1 => do
      if ← sees [.key] then
        next
        let key ← orMissing [.key, .value, .blockEnd] node
        let value ←
          if ← sees [.value] then do
            next
            orMissing [.key, .value, .blockEnd] node
          else missing
        let entries ← blockEntries node fuel
        pure ((key, value) :: entries)
      else
        expect .blockEnd
        pure []

/-- Read the value of a flow entry, if it has one; `closing` ends the collection. -/
def flowValue (closing : Token) (node : Grow Node) : Grow Node := do
  if ← sees [.value] then
    next
    orMissing [.flowEntry, closing] node
  else missing

/-- Go past the comma before an entry of a flow collection that is not the first. -/
def separator (first : Bool) : Grow Unit := if first then pure () else expect .flowEntry

/-- Read the entries of a flow mapping. -/
def flowEntries (node : Grow Node) : Nat → Bool → Grow (List (Node × Node))
  | 0, _ => fail
  | fuel + 1, first => do
      if ← sees [.flowMappingEnd] then
        next
        pure []
      else
        separator first
        if ← sees [.key] then
          next
          let key ← orMissing [.value, .flowEntry, .flowMappingEnd] node
          let value ← flowValue .flowMappingEnd node
          let entries ← flowEntries node fuel false
          pure ((key, value) :: entries)
        else if ← sees [.flowMappingEnd] then
          next
          pure []
        else
          let key ← node
          let value ← missing
          let entries ← flowEntries node fuel false
          pure ((key, value) :: entries)

/-- Read the items of a flow sequence. An item may be a mapping of one entry without
brackets; its key may not be left out. -/
def flowItems (node : Grow Node) : Nat → Bool → Grow (List Node)
  | 0, _ => fail
  | fuel + 1, first => do
      if ← sees [.flowSequenceEnd] then
        next
        pure []
      else
        separator first
        if ← sees [.key] then
          next
          count 2
          let key ←
            if ← sees [.value, .flowEntry, .flowSequenceEnd] then do
              next
              missing
            else node
          let value ← flowValue .flowSequenceEnd node
          let items ← flowItems node fuel false
          pure (.mapping none [(key, value)] :: items)
        else if ← sees [.flowSequenceEnd] then
          next
          pure []
        else
          let item ← node
          let items ← flowItems node fuel false
          pure (item :: items)

/-- How a node stands: in a block, as the value or key of a block mapping, where a
sequence may hang unindented, or in a flow collection. -/
inductive Position where
  | block
  | blockEntry
  | flow
  deriving DecidableEq

/-- Read the content of a node after its anchor and tag. The bare tag `!` says nothing
about a scalar that is written out. -/
def content (position : Position) (tag : Option (List Char)) (bare : Bool)
    (blockNode entryNode flowNode : Grow Node) : Grow Node := do
  let state ← get
  let fuel := state.tokens.length + 1
  let inBlock := position ≠ .flow
  match state.tokens.head? with
  | some (.scalar text plain) =>
      next
      count 1
      pure (.scalar (tag.filter (· ≠ ['!'])) text plain)
  | some .flowSequenceStart =>
      next
      count 2
      let items ← flowItems flowNode fuel true
      pure (.sequence tag items)
  | some .flowMappingStart =>
      next
      count 2
      let entries ← flowEntries flowNode fuel true
      pure (.mapping tag entries)
  | some .blockEntry =>
      if position = .blockEntry then
        count 2
        let items ← hangingItems blockNode fuel
        pure (.sequence tag items)
      else if bare then fail
      else do
        count 1
        pure (.scalar tag [] true)
  | token =>
      if token = some .blockSequenceStart ∧ inBlock then
        next
        count 2
        let items ← blockItems blockNode fuel
        pure (.sequence tag items)
      else if token = some .blockMappingStart ∧ inBlock then
        next
        count 2
        let entries ← blockEntries entryNode fuel
        pure (.mapping tag entries)
      else if bare then fail
      else do
        count 1
        pure (.scalar tag [] true)

/-- Read a node. The fuel bounds how deep nodes nest. -/
def node : Nat → Position → Grow Node
  | 0, _ => fail
  | fuel + 1, position => do
      match ← peek with
      | some (.alias name) =>
          next
          count 1
          let state ← get
          match state.names.get? name with
          | some number => pure (.alias number)
          | none => fail
      | _ =>
          let anchorFirst ← optionalAnchor
          let tag ← optionalTag
          let anchor ← if anchorFirst.isSome then pure anchorFirst else optionalAnchor
          let place := (← get).length
          let number ← anchor.mapM numberAnchor
          let result ← content position tag (anchor.isNone && tag.isNone)
            (node fuel .block) (node fuel .blockEntry) (node fuel .flow)
          match number with
          | some number => keepAnchored number place result
          | none => pure ()
          pure result

/-- Read the directives before a document. A version must be 1.1 or 1.2 and stand
once, and a tag handle may be given once. -/
def directives : Nat → Bool → Grow Unit
  | 0, _ => fail
  | fuel + 1, versioned => do
      match ← peek with
      | some (.version major minor) =>
          if versioned ∨ major ≠ 1 ∨ (minor ≠ 1 ∧ minor ≠ 2) then fail
          else
            next
            directives fuel true
      | some (.tagHandle handle expansion) =>
          let state ← get
          if state.handles.any fun entry => entry.1 = handle then fail
          else
            set { state with
              tokens := state.tokens.drop 1
              handles := (handle, expansion) :: state.handles }
            directives fuel versioned
      | _ => pure ()

/-- Go past the marks that end a document. -/
def documentEnds : Nat → Grow Unit
  | 0 => pure ()
  | fuel + 1 => do
      if ← sees [.documentEnd] then
        next
        documentEnds fuel

/-- Read the root of the document, if there is a document. -/
def root : Grow (Option Node) := do
  let state ← get
  let fuel := state.tokens.length + 1
  match state.tokens.head? with
  | none => pure none
  | some first =>
      let opened ← match first with
        | .version _ _ | .tagHandle _ _ | .documentStart => do
            directives fuel false
            expect .documentStart
            pure true
        | _ => pure false
      let token ← peek
      if opened ∧ (token = none ∨ token = some .documentStart ∨ token = some .documentEnd) then
        let node ← missing
        pure (some node)
      else if opened ∧ token.any (fun token => match token with
          | .version _ _ | .tagHandle _ _ => true
          | _ => false) then
        fail
      else
        let node ← node fuel .block
        pure (some node)

/-- Read a stream of at most one document. -/
def stream : Grow (Option Node) := do
  let node ← root
  let state ← get
  documentEnds (state.tokens.length + 1)
  match ← peek with
  | none => pure node
  | some _ => fail

end Grow

/-- The document of some tokens; none if they violate the grammar or hold more than one
document. -/
def Document.ofTokens? (tokens : List Token) : Option Document :=
  (Grow.stream { tokens }).map fun (root, state) => ⟨root, state.anchored, state.length⟩

end Yaml

end FormValidity
