/-! # Tables of runs

A property of characters is stored as runs: the code point where a run begins and
the property's value from there to the next run. The text of a table is a list of
words, each a start in hexadecimal with small letters followed by a value that
begins with a capital letter.
-/

namespace FormValidity

namespace Unicode

/-- A table of runs, in the order of their starts. -/
abbrev Runs (α : Type) := Array (Nat × α)

/-- Whether a character is a small hexadecimal digit. -/
def isTableDigit (c : Char) : Bool := c.isDigit || ('a' ≤ c && c ≤ 'f')

/-- The value of small hexadecimal digits. -/
def tableNumber (digits : List Char) : Nat :=
  digits.foldl (fun value c =>
    16 * value + (if c.isDigit then c.toNat - '0'.toNat else c.toNat - 'a'.toNat + 10)) 0

/-- The words of a line. -/
def tableWords (line : List Char) : List (List Char) :=
  line.foldr (fun c words =>
    if c = ' ' then [] :: words
    else match words with
      | word :: rest => (c :: word) :: rest
      | [] => [[c]]) []

/-- Decode a table; `value` reads the value of a run. -/
def Runs.ofLines (value : String → α) (lines : List String) : Runs α :=
  (lines.flatMap fun line => (tableWords line.toList).map fun word =>
    (tableNumber (word.takeWhile isTableDigit),
      value (String.ofList (word.dropWhile isTableDigit)))).toArray

/-- The greatest index from `low` up to, not including, `high` whose run starts at or
before `code`, if the run at `low` does. -/
def Runs.search (runs : Runs α) (code low high : Nat) : Nat :=
  if low + 1 < high then
    let middle := (low + high) / 2
    let before := match runs[middle]? with
      | some run => decide (run.1 ≤ code)
      | none => false
    if before then search runs code middle high else search runs code low middle
  else low
termination_by high - low

/-- The value at a code point, if the table begins at or before it. -/
def Runs.at? (runs : Runs α) (code : Nat) : Option α :=
  runs[runs.search code 0 runs.size]?.bind fun run =>
    if run.1 ≤ code then some run.2 else none

end Unicode

end FormValidity
