import FormValidity.Pattern.Removal
import FormValidity.Pattern.PropertyName
import FormValidity.Text.Hex

/-! # Reading patterns

The notation of patterns: alternatives, groups, repetitions, classes with set
operations, escapes, conditions on positions and flags that hold up to the end of
the group they stand in. There are no back-references and no look-around. A reader
takes the characters that are left and gives, with its result, the characters after
it; it fails where the notation is violated.
-/

namespace FormValidity

namespace Pattern

/-- The switches that a pattern may set. -/
inductive Flag where
  | caseInsensitive
  | multiLine
  | dotAll
  | swapGreed
  | unicode
  | crlf
  | ignoreSpace
  deriving DecidableEq, Repr

/-- Which switches hold at a place of a pattern. -/
structure Flags where
  caseInsensitive : Bool := false
  multiLine : Bool := false
  dotAll : Bool := false
  swapGreed : Bool := false
  unicode : Bool := true
  crlf : Bool := false
  ignoreSpace : Bool := false

/-- Set a switch. -/
def Flags.set (flags : Flags) (flag : Flag) (value : Bool) : Flags :=
  match flag with
  | .caseInsensitive => { flags with caseInsensitive := value }
  | .multiLine => { flags with multiLine := value }
  | .dotAll => { flags with dotAll := value }
  | .swapGreed => { flags with swapGreed := value }
  | .unicode => { flags with unicode := value }
  | .crlf => { flags with crlf := value }
  | .ignoreSpace => { flags with ignoreSpace := value }

/-- Close a class under case, where flags say that case does not count. -/
def Flags.fold (flags : Flags) (c : CharClass) : CharClass :=
  if !flags.caseInsensitive then c else if flags.unicode then .folded c else .foldedAscii c

/-- Negate a class. A negated class that is limited to ASCII would match parts of
characters, so there is none. -/
def Flags.negateIf? (flags : Flags) (negated : Bool) (c : CharClass) : Option CharClass :=
  if negated then (if flags.unicode then some (.compl c) else none) else some c

/-- Whether a character may stand in a class: one that is limited to ASCII holds no
other. -/
def Flags.admits (flags : Flags) (c : Char) : Bool := flags.unicode || c.toNat < 0x80

/-- The switch of a letter. -/
def Flag.ofChar? : Char → Option Flag
  | 'i' => some .caseInsensitive
  | 'm' => some .multiLine
  | 's' => some .dotAll
  | 'U' => some .swapGreed
  | 'u' => some .unicode
  | 'R' => some .crlf
  | 'x' => some .ignoreSpace
  | _ => none

/-- Drop blanks and comments, where flags say that they do not count. -/
def skipSpace (flags : Flags) (text : List Char) : List Char :=
  if flags.ignoreSpace then go false text else text
where
  /-- Drop from inside a comment or outside of one. -/
  go : Bool → List Char → List Char
    | _, [] => []
    | true, c :: rest => go (c != '\n') rest
    | false, c :: rest =>
        if Unicode.isWhiteSpace c then go false rest
        else if c = '#' then go true rest
        else c :: rest

/-- How deep groups, repetitions, alternatives, sequences and classes may nest. -/
def nestLimit : Nat := 250

/-- The greatest count of a repetition. -/
def countLimit : Nat := Nat.pow 2 32 - 1

/-- An expression as read, with the depth of its notation. -/
structure Part where
  expression : Expression
  depth : Nat := 0
  /-- Whether a repetition may follow. -/
  repeatable : Bool := true

/-- The depth of parts put side by side. -/
def joinedDepth : List Nat → Nat
  | [] => 0
  | [depth] => depth
  | depths => 1 + depths.foldl max 0

/-- Parts one after the other. -/
def Part.sequence (parts : List Part) : Part :=
  { expression := .sequence (parts.map Part.expression)
    depth := joinedDepth (parts.map Part.depth) }

/-- Parts as alternatives. -/
def Part.alternatives (parts : List Part) : Part :=
  { expression := .alternatives (parts.map Part.expression)
    depth := joinedDepth (parts.map Part.depth) }

/-- What an escape stands for. -/
inductive Escape where
  | literal (c : Char)
  | charClass (c : CharClass)
  | look (condition : Look)

/-- Characters with a meaning in patterns. -/
def isMeta (c : Char) : Bool :=
  ['\\', '.', '+', '*', '?', '(', ')', '|', '[', ']', '\x7b', '\x7d', '^', '$', '#', '&', '-',
    '~'].contains c

/-- Characters that stand for themselves after a backslash. -/
def isEscapable (c : Char) : Bool :=
  isMeta c || (c.toNat < 0x80 && !c.isAlphanum && c != '<' && c != '>')

/-- Read hexadecimal digits up to the closing brace. -/
def readBracedHex (flags : Flags) : Nat → List Char → List Char → Option (List Char × List Char)
  | 0, _, _ => none
  | fuel + 1, digits, text =>
      match skipSpace flags text with
      | [] => none
      | '\x7d' :: rest => some (digits.reverse, skipSpace flags rest)
      | c :: rest =>
          if (Text.hexDigit? c).isSome then readBracedHex flags fuel (c :: digits) rest else none

/-- Read a fixed number of hexadecimal digits. -/
def readHexDigits (flags : Flags) : Nat → List Char → Option (List Char × List Char)
  | 0, text => some ([], text)
  | count + 1, text =>
      match text with
      | c :: rest =>
          if (Text.hexDigit? c).isSome then
            (readHexDigits flags count (skipSpace flags rest)).map fun (digits, rest) =>
              (c :: digits, rest)
          else none
      | [] => none

/-- Read the code of a character after `\x`, `\u` or `\U`. Two digits without braces
name a byte where flags limit characters to ASCII, so the byte must be one of ASCII. -/
def readHexEscape (flags : Flags) (count : Nat) (text : List Char) : Option (Char × List Char) := do
  let (digits, bare, rest) ← match skipSpace flags text with
    | '\x7b' :: rest =>
        (readBracedHex flags (rest.length + 1) [] rest).map fun (digits, rest) =>
          (digits, false, rest)
    | text => (readHexDigits flags count text).map fun (digits, rest) => (digits, true, rest)
  if digits = [] then none
  else
    let (code, _) ← Text.readHex 0 digits.length digits
    let c ← Text.charOfCode? code
    if bare ∧ count = 2 ∧ flags.admits c = false then none else some (c, rest)

/-- Split a text at the first occurrence of a mark. -/
def splitAt? (mark : List Char) : List Char → Option (List Char × List Char)
  | [] => none
  | c :: rest =>
      if mark.isPrefixOf (c :: rest) then some ([], (c :: rest).drop mark.length)
      else (splitAt? mark rest).map fun (before, after) => (c :: before, after)

/-- The property between braces and whether the notation negates it. -/
def bracedProperty? (name : List Char) : Option (CharProperty × Bool) :=
  match splitAt? ['!', '='] name with
  | some (property, value) => (CharProperty.valued? property value).map (·, true)
  | none =>
      match (splitAt? [':'] name).orElse fun _ => splitAt? ['='] name with
      | some (property, value) => (CharProperty.valued? property value).map (·, false)
      | none => (CharProperty.named? name).map (·, false)

/-- Read a name up to the closing brace. -/
def readBracedName (flags : Flags) : Nat → List Char → List Char → Option (List Char × List Char)
  | 0, _, _ => none
  | fuel + 1, name, text =>
      match skipSpace flags text with
      | [] => none
      | '\x7d' :: rest => some (name.reverse, rest)
      | c :: rest => readBracedName flags fuel (c :: name) rest

/-- Read a property class after `\p` or `\P`. -/
def readPropertyClass (flags : Flags) (negated : Bool) (text : List Char) :
    Option (CharClass × List Char) := do
  let (property, inverted, rest) ← match skipSpace flags text with
    | [] => none
    | '\x7b' :: rest =>
        let (name, rest) ← readBracedName flags (rest.length + 1) [] rest
        let (property, inverted) ← bracedProperty? name
        some (property, inverted, rest)
    | c :: rest =>
        if c = '\\' then none
        else
          let property ← CharProperty.category? (CharProperty.looseName [c])
          some (property, false, skipSpace flags rest)
  if flags.unicode then
    some (.complIf (negated != inverted) (flags.fold (.property property)), rest)
  else none

/-- The white space of ASCII. -/
def asciiSpace : CharClass := .ranges [('\t', '\r'), (' ', ' ')]

/-- The word characters of ASCII. -/
def asciiWord : CharClass := .ranges [('0', '9'), ('A', 'Z'), ('_', '_'), ('a', 'z')]

/-- The class of a letter such as `d` or `W`. -/
def letterClass? (flags : Flags) (letter : Char) : Option CharClass :=
  let base : Option (CharProperty × CharClass) := match letter.toLower with
    | 'd' => some (.decimalDigit, .range '0' '9')
    | 's' => some (.whiteSpace, asciiSpace)
    | 'w' => some (.wordCharacter, asciiWord)
    | _ => none
  base.bind fun (wide, narrow) =>
    flags.negateIf? letter.isUpper (if flags.unicode then .property wide else narrow)

/-- The conditions that `\b` may name between braces. -/
def wordCondition? (ascii : Bool) (name : List Char) : Option Look :=
  match String.ofList name with
  | "start" => some (.wordStart ascii)
  | "end" => some (.wordEnd ascii)
  | "start-half" => some (.wordStartHalf ascii)
  | "end-half" => some (.wordEndHalf ascii)
  | _ => none

/-- Whether a character may stand in the name of a word condition. -/
def isConditionLetter (c : Char) : Bool := c.isAlpha || c == '-'

/-- Read the letters of a word condition's name. -/
def readConditionName (flags : Flags) : Nat → List Char → List Char × List Char
  | 0, text => ([], text)
  | fuel + 1, text =>
      match text with
      | c :: rest =>
          if isConditionLetter c then
            let (name, rest) := readConditionName flags fuel (skipSpace flags rest)
            (c :: name, rest)
          else ([], text)
      | [] => ([], [])

/-- Read the rest of `\b`: a word condition between braces, or the bare boundary. A
brace that no letter follows belongs to a repetition. -/
def readBoundary (flags : Flags) (text : List Char) : Option (Look × List Char) :=
  let ascii := !flags.unicode
  match text with
  | '\x7b' :: rest =>
      match skipSpace flags rest with
      | [] => none
      | c :: more =>
          if isConditionLetter c then
            let (name, rest) := readConditionName flags (more.length + 2) (c :: more)
            match rest with
            | '\x7d' :: rest => (wordCondition? ascii name).map (·, rest)
            | _ => none
          else some (.boundary ascii, text)
  | _ => some (.boundary ascii, text)

/-- Read an escape after its backslash. -/
def readEscape (flags : Flags) : List Char → Option (Escape × List Char)
  | [] => none
  | c :: rest =>
      let ascii := !flags.unicode
      if c.isDigit then none
      else if c = 'x' ∨ c = 'u' ∨ c = 'U' then
        let count := if c = 'x' then 2 else if c = 'u' then 4 else 8
        (readHexEscape flags count rest).map fun (c, rest) => (.literal c, rest)
      else if c = 'p' ∨ c = 'P' then
        (readPropertyClass flags (c = 'P') rest).map fun (c, rest) => (.charClass c, rest)
      else if ['d', 's', 'w', 'D', 'S', 'W'].contains c then
        (letterClass? flags c).map fun c => (.charClass c, rest)
      else if isEscapable c then some (.literal c, rest)
      else match c with
        | 'a' => some (.literal '\x07', rest)
        | 'f' => some (.literal '\x0c', rest)
        | 't' => some (.literal '\t', rest)
        | 'n' => some (.literal '\n', rest)
        | 'r' => some (.literal '\r', rest)
        | 'v' => some (.literal '\x0b', rest)
        | 'A' => some (.look .textStart, rest)
        | 'z' => some (.look .textEnd, rest)
        | 'b' => (readBoundary flags rest).map fun (condition, rest) => (.look condition, rest)
        | 'B' => some (.look (.notBoundary ascii), rest)
        | '<' => some (.look (.wordStart ascii), rest)
        | '>' => some (.look (.wordEnd ascii), rest)
        | _ => none

/-- A class as read, with the depth of its notation. -/
structure ClassPart where
  charClass : CharClass
  depth : Nat := 0

/-- The union of the items of a class. -/
def ClassPart.union (items : List ClassPart) : ClassPart :=
  { charClass := .unions (items.map ClassPart.charClass)
    depth := joinedDepth (items.map ClassPart.depth) }

/-- An operation between parts of a class. -/
inductive SetOperation where
  | inter
  | diff
  | symmDiff

/-- Combine two classes. -/
def SetOperation.apply : SetOperation → CharClass → CharClass → CharClass
  | .inter => .inter
  | .diff => .diff
  | .symmDiff => .symmDiff

/-- Combine the part of a class before an operation with the part after it. -/
def combine (flags : Flags) (before : Option (ClassPart × SetOperation)) (after : ClassPart) :
    ClassPart :=
  match before with
  | none => after
  | some (left, operation) =>
      { charClass := operation.apply (flags.fold left.charClass) (flags.fold after.charClass)
        depth := 1 + max left.depth after.depth }

/-- The named classes of ASCII. -/
def asciiClass? (name : List Char) : Option CharClass :=
  match String.ofList name with
  | "alnum" => some (.ranges [('0', '9'), ('A', 'Z'), ('a', 'z')])
  | "alpha" => some (.ranges [('A', 'Z'), ('a', 'z')])
  | "ascii" => some (.range '\x00' '\x7f')
  | "blank" => some (.ranges [('\t', '\t'), (' ', ' ')])
  | "cntrl" => some (.ranges [('\x00', '\x1f'), ('\x7f', '\x7f')])
  | "digit" => some (.range '0' '9')
  | "graph" => some (.range '!' '~')
  | "lower" => some (.range 'a' 'z')
  | "print" => some (.range ' ' '~')
  | "punct" => some (.ranges [('!', '/'), (':', '@'), ('[', '\x60'), ('\x7b', '~')])
  | "space" => some asciiSpace
  | "upper" => some (.range 'A' 'Z')
  | "word" => some asciiWord
  | "xdigit" => some (.ranges [('0', '9'), ('A', 'F'), ('a', 'f')])
  | _ => none

/-- Read a named class of ASCII after the opening bracket of `[:name:]`, and whether it is
negated. -/
def readAsciiClass (text : List Char) : Option ((Bool × CharClass) × List Char) :=
  match text with
  | ':' :: rest =>
      let (negated, rest) := match rest with
        | '^' :: rest => (true, rest)
        | rest => (false, rest)
      let name := rest.takeWhile (· != ':')
      match rest.dropWhile (· != ':') with
      | ':' :: ']' :: rest =>
          (asciiClass? name).map fun c => ((negated, c), rest)
      | _ => none
  | _ => none

/-- Read one item of a class: a character or an escape that is no condition. -/
def readClassItem (flags : Flags) : List Char → Option ((Char ⊕ CharClass) × List Char)
  | [] => none
  | '\\' :: rest =>
      match readEscape flags rest with
      | some (.literal c, rest) => if flags.admits c then some (.inl c, rest) else none
      | some (.charClass c, rest) => some (.inr c, rest)
      | _ => none
  | c :: rest => if flags.admits c then some (.inl c, rest) else none

/-- Read an item of a class or a range between two characters. A hyphen before the
closing bracket or another hyphen makes no range. -/
def readClassRange (flags : Flags) (text : List Char) : Option (CharClass × List Char) := do
  let (first, rest) ← readClassItem flags text
  let alone : CharClass := match first with
    | .inl c => .single c
    | .inr c => c
  match skipSpace flags rest with
  | [] => none
  | '-' :: rest =>
      let after := skipSpace flags rest
      if after.head? = some ']' ∨ after.head? = some '-' then some (alone, '-' :: rest)
      else if after = [] then none
      else
        let (last, rest) ← readClassItem flags after
        match first, last with
        | .inl low, .inl high => if low ≤ high then some (.range low high, rest) else none
        | _, _ => none
  | rest => some (alone, rest)

/-- Take the hyphens at the beginning of a class. -/
def takeHyphens (flags : Flags) : Nat → List Char → List ClassPart × List Char
  | 0, text => ([], text)
  | fuel + 1, text =>
      match text with
      | '-' :: rest =>
          let (parts, rest) := takeHyphens flags fuel (skipSpace flags rest)
          ({ charClass := .single '-' } :: parts, rest)
      | _ => ([], text)

/-- Read the beginning of a class after its bracket: whether it is negated, and the
hyphens or the closing bracket that stand for themselves there. -/
def readClassOpening (flags : Flags) (text : List Char) : Bool × List ClassPart × List Char :=
  let text := skipSpace flags text
  let (negated, text) := match text with
    | '^' :: rest => (true, skipSpace flags rest)
    | _ => (false, text)
  let (hyphens, text) := takeHyphens flags (text.length + 1) text
  match hyphens, text with
  | [], ']' :: rest => (negated, [{ charClass := .single ']' }], skipSpace flags rest)
  | _, _ => (negated, hyphens, text)

/-- The operation that a text begins with. -/
def operation? : List Char → Option (SetOperation × List Char)
  | '&' :: '&' :: rest => some (.inter, rest)
  | '-' :: '-' :: rest => some (.diff, rest)
  | '~' :: '~' :: rest => some (.symmDiff, rest)
  | _ => none

/-- The class between brackets, once its contents are known. -/
def bracketed? (flags : Flags) (negated : Bool) (contents : ClassPart) : Option ClassPart :=
  (flags.negateIf? negated (flags.fold contents.charClass)).map fun charClass =>
    { charClass, depth := 1 + contents.depth }

/-- Read the contents of a class up to its closing bracket: `items` are the items so
far, the last first, and `before` what stands before the last operation. -/
def readClassBody (flags : Flags) : Nat → Option (ClassPart × SetOperation) → List ClassPart →
    List Char → Option (ClassPart × List Char)
  | 0, _, _, _ => none
  | fuel + 1, before, items, text =>
      match skipSpace flags text with
      | [] => none
      | '[' :: rest =>
          match readAsciiClass rest with
          | some ((negated, c), rest) => do
              let charClass ← flags.negateIf? negated (flags.fold c)
              readClassBody flags fuel before ({ charClass } :: items) rest
          | none => do
              let (negated, opening, rest) := readClassOpening flags rest
              let (contents, rest) ← readClassBody flags fuel none opening.reverse rest
              let part ← bracketed? flags negated contents
              readClassBody flags fuel before (part :: items) rest
      | ']' :: rest => some (combine flags before (.union items.reverse), rest)
      | text =>
          match operation? text with
          | some (operation, rest) =>
              readClassBody flags fuel
                (some (combine flags before (.union items.reverse), operation)) [] rest
          | none => do
              let (c, rest) ← readClassRange flags text
              readClassBody flags fuel before ({ charClass := c } :: items) rest

/-- Read a class after its opening bracket. -/
def readClass (flags : Flags) (text : List Char) : Option (ClassPart × List Char) := do
  let (negated, opening, rest) := readClassOpening flags text
  let (contents, rest) ← readClassBody flags (rest.length + 1) none opening.reverse rest
  let part ← bracketed? flags negated contents
  some (part, rest)

/-- Read a count: digits with blanks around them. -/
def readCount (flags : Flags) : Nat → List Char → List Char × List Char
  | 0, text => ([], text)
  | fuel + 1, text =>
      match text with
      | c :: rest =>
          if c.isDigit then
            let (digits, rest) := readCount flags fuel (skipSpace flags rest)
            (c :: digits, rest)
          else ([], text.dropWhile Unicode.isWhiteSpace)
      | [] => ([], [])

/-- The number of digits of a count; none if there is no digit or the count is too
great. -/
def count? (digits : List Char) : Option Nat :=
  let value := digits.foldl (fun value c => 10 * value + (c.toNat - '0'.toNat)) 0
  if digits = [] ∨ countLimit < value then none else some value

/-- Read the bounds of a counted repetition after its brace, up to the closing one. -/
def readBounds (flags : Flags) (text : List Char) :
    Option ((Nat × Option Nat) × List Char) := do
  let readOne (text : List Char) : List Char × List Char :=
    let text := text.dropWhile Unicode.isWhiteSpace
    readCount flags (text.length + 1) text
  let (digits, rest) := readOne (skipSpace flags text)
  let least ← count? digits
  match rest with
  | ',' :: rest =>
      match skipSpace flags rest with
      | '\x7d' :: rest => some ((least, none), rest)
      | rest =>
          let (digits, rest) := readOne rest
          let most ← count? digits
          match rest with
          | '\x7d' :: rest => if least ≤ most then some ((least, some most), rest) else none
          | _ => none
  | '\x7d' :: rest => some ((least, some least), rest)
  | _ => none

/-- Take the mark of a lazy repetition. -/
def takeLazy : List Char → Bool × List Char
  | '?' :: rest => (true, rest)
  | rest => (false, rest)

/-- The flags between `(?` and the closing mark, as a list of settings, with whether
the mark is a colon. -/
def readFlags : Bool → List Flag → List Char → Option (List (Flag × Bool) × Bool × List Char)
  | _, _, [] => none
  | _, _, ':' :: rest => some ([], true, rest)
  | _, _, ')' :: rest => some ([], false, rest)
  | negated, seen, '-' :: rest =>
      if negated ∨ rest.head? = some ':' ∨ rest.head? = some ')' then none
      else readFlags true seen rest
  | negated, seen, c :: rest => do
      let flag ← Flag.ofChar? c
      if flag ∈ seen then none
      else
        let (more, colon, rest) ← readFlags negated (flag :: seen) rest
        some ((flag, !negated) :: more, colon, rest)

/-- Whether a character may stand in the name of a group. -/
def isNameCharacter (first : Bool) (c : Char) : Bool :=
  c == '_' || Unicode.isAlphabetic c ||
    (!first && (c == '.' || c == '[' || c == ']' || (Unicode.category c).isNumber))

/-- Read the name of a group up to its closing angle. -/
def readGroupName (text : List Char) : Option (List Char × List Char) :=
  let name := text.takeWhile (· != '>')
  match name, text.dropWhile (· != '>') with
  | first :: more, '>' :: rest =>
      if isNameCharacter true first && more.all (isNameCharacter false) then some (name, rest)
      else none
  | _, _ => none

/-- How a parenthesis opens. -/
inductive Opening where
  /-- A group, its flags and its name, if it has one. -/
  | group (flags : Flags) (name : Option (List Char))
  /-- Flags for what follows. -/
  | settings (flags : Flags)

/-- Set several switches. -/
def Flags.setAll (flags : Flags) (changes : List (Flag × Bool)) : Flags :=
  changes.foldl (fun flags change => flags.set change.1 change.2) flags

/-- Read the opening of a group after its parenthesis. -/
def readOpening (flags : Flags) (text : List Char) : Option (Opening × List Char) :=
  match skipSpace flags text with
  | '?' :: '=' :: _ => none
  | '?' :: '!' :: _ => none
  | '?' :: '<' :: '=' :: _ => none
  | '?' :: '<' :: '!' :: _ => none
  | '?' :: 'P' :: '<' :: rest =>
      (readGroupName rest).map fun (name, rest) => (.group flags (some name), rest)
  | '?' :: '<' :: rest =>
      (readGroupName rest).map fun (name, rest) => (.group flags (some name), rest)
  | '?' :: rest => do
      let (changes, colon, rest) ← readFlags false [] rest
      let flags := flags.setAll changes
      if colon then some (.group flags none, rest)
      else if changes.isEmpty then none
      else some (.settings flags, rest)
  | rest => some (.group flags none, rest)

/-- The expression of one character. -/
def literal (flags : Flags) (c : Char) : Expression :=
  .oneOf (if flags.admits c then flags.fold (.single c) else .single c)

/-- The expression of a dot; it needs whole characters. -/
def dot? (flags : Flags) : Option Expression :=
  if !flags.unicode then none
  else if flags.dotAll then some (.oneOf (.property .any))
  else if flags.crlf then some (.oneOf (.compl (.ranges [('\n', '\n'), ('\r', '\r')])))
  else some (.oneOf (.compl (.single '\n')))

/-- The expression of an escape. -/
def escaped (flags : Flags) : Escape → Expression
  | .literal c => literal flags c
  | .charClass c => .oneOf c
  | .look condition => .look condition

/-- What has been read of a group: the finished alternatives and the parts of the
current one, the last first, and the names of groups so far. -/
structure Progress where
  finished : List Part := []
  current : List Part := []
  names : List (List Char) := []

/-- Add a part to the current alternative. -/
def Progress.push (progress : Progress) (part : Part) : Progress :=
  { progress with current := part :: progress.current }

/-- Begin the next alternative. -/
def Progress.nextAlternative (progress : Progress) : Progress :=
  { progress with
    finished := Part.sequence progress.current.reverse :: progress.finished
    current := [] }

/-- The part that has been read. -/
def Progress.part (progress : Progress) : Part :=
  .alternatives (progress.nextAlternative.finished.reverse)

/-- Repeat the last part. -/
def Progress.repeatLast? (progress : Progress) (repetition : Expression → Expression) :
    Option Progress :=
  match progress.current with
  | part :: rest =>
      if part.repeatable then
        some { progress with
          current := { expression := repetition part.expression, depth := 1 + part.depth } :: rest }
      else none
  | [] => none

/-- Read a group up to its closing parenthesis or the end of the pattern. -/
def readGroup : Nat → Flags → Progress → List Char → Option (Progress × List Char)
  | 0, _, _, _ => none
  | fuel + 1, flags, progress, text =>
      let simpleRepetition (build : Bool → Expression → Expression) (rest : List Char) :
          Option (Progress × List Char) := do
        let (isLazy, rest) := takeLazy rest
        let progress ← progress.repeatLast? (build (isLazy == flags.swapGreed))
        readGroup fuel flags progress rest
      match skipSpace flags text with
      | [] => some (progress, [])
      | ')' :: rest => some (progress, ')' :: rest)
      | '|' :: rest => readGroup fuel flags progress.nextAlternative rest
      | '(' :: rest => do
          let (opening, rest) ← readOpening flags rest
          match opening with
          | .settings changed =>
              readGroup fuel changed
                (progress.push { expression := .empty, repeatable := false }) rest
          | .group inner name =>
              let names := name.toList ++ progress.names
              if name.any (progress.names.contains ·) then none
              else
                let (contents, rest) ← readGroup fuel inner { names } rest
                match rest with
                | ')' :: rest =>
                    let part := contents.part
                    let progress := { progress with names := contents.names }
                    readGroup fuel flags
                      (progress.push { part with depth := 1 + part.depth }) rest
                | _ => none
      | '[' :: rest => do
          let (part, rest) ← readClass flags rest
          readGroup fuel flags
            (progress.push { expression := .oneOf part.charClass, depth := part.depth }) rest
      | '?' :: rest => simpleRepetition .optional rest
      | '*' :: rest => simpleRepetition (fun greedy => .repeated greedy 0 none) rest
      | '+' :: rest => simpleRepetition .plus rest
      | '\x7b' :: rest => do
          let ((least, most), rest) ← readBounds flags rest
          let (isLazy, rest) := takeLazy (skipSpace flags rest)
          let progress ← progress.repeatLast?
            (.repeated (isLazy == flags.swapGreed) least most)
          readGroup fuel flags progress rest
      | '\\' :: rest => do
          let (escape, rest) ← readEscape flags rest
          readGroup fuel flags (progress.push { expression := escaped flags escape }) rest
      | '.' :: rest => do
          let dot ← dot? flags
          readGroup fuel flags (progress.push { expression := dot }) rest
      | '^' :: rest =>
          let start : Look := if flags.multiLine then .lineStart flags.crlf else .textStart
          readGroup fuel flags (progress.push { expression := .look start }) rest
      | '$' :: rest =>
          let stop : Look := if flags.multiLine then .lineEnd flags.crlf else .textEnd
          readGroup fuel flags (progress.push { expression := .look stop }) rest
      | c :: rest =>
          readGroup fuel flags (progress.push { expression := literal flags c }) rest

/-- The expression a notation denotes. -/
def expression? (source : List Char) : Option Expression := do
  let (progress, rest) ← readGroup (source.length + 1) {} {} source
  let part := progress.part
  if rest = [] ∧ part.depth ≤ nestLimit ∧ part.expression.weight ≤ Expression.weightLimit then
    some part.expression
  else none

end Pattern

/-- A pattern: its notation and the expression it denotes. -/
structure Pattern where
  source : String
  expression : Expression
  deriving DecidableEq, Repr

namespace Pattern

/-- Read a pattern; none if the notation is violated. -/
def compile? (source : String) : Option Pattern :=
  (expression? source.toList).map fun expression => ⟨source, expression⟩

/-- Whether a pattern matches somewhere in a text. -/
def isMatch (pattern : Pattern) (text : String) : Bool := pattern.expression.matchesIn text.toList

/-- A text without the matches of a pattern. -/
def remove (pattern : Pattern) (text : String) : List Char :=
  pattern.expression.removeMatches text.toList

end Pattern

end FormValidity
