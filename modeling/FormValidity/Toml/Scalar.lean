import FormValidity.Binary64.Reading
import FormValidity.Text.Hex

/-! # Scalars of TOML

Truth values, numbers, dates and times as they are written without quotes. A reader of
settings need only know whether a word is one of them (`Toml.isScalar`).
-/

namespace FormValidity

namespace Toml

/-- Digits without the underscores between them; none if an underscore stands
elsewhere, or if there is no digit. -/
def ungroup? (isDigit : Char → Bool) : List Char → Option (List Char)
  | [] => none
  | [c] => if isDigit c then some [c] else none
  | c :: '_' :: rest => if isDigit c then (ungroup? isDigit rest).map (c :: ·) else none
  | c :: rest => if isDigit c then (ungroup? isDigit rest).map (c :: ·) else none

/-- The digits of a decimal whole number, which begins with zero only if it is zero. -/
def wholeDigits? (text : List Char) : Option (List Char) :=
  (ungroup? Char.isDigit text).filter fun digits => digits.head? ≠ some '0' || digits.length == 1

/-- The value of grouped digits of a base. -/
def baseValue? (base : Nat) (text : List Char) : Option Nat :=
  let isDigit (c : Char) : Bool := (Text.hexDigit? c).any (· < base)
  (ungroup? isDigit text).map fun digits =>
    digits.foldl (fun value c => base * value + (Text.hexDigit? c).getD 0) 0

/-- Whether a word is an integer of 64 bits. -/
def isInteger (word : List Char) : Bool :=
  let marked := match word with
    | '0' :: 'x' :: digits => baseValue? 16 digits
    | '0' :: 'o' :: digits => baseValue? 8 digits
    | '0' :: 'b' :: digits => baseValue? 2 digits
    | _ => none
  let (negative, body) := Binary64.takeSign word
  marked.any (· < Nat.pow 2 63) ||
    (wholeDigits? body).any fun digits =>
      let magnitude := Binary64.digitsValue digits
      if negative then magnitude ≤ Nat.pow 2 63 else magnitude < Nat.pow 2 63

/-- Whether a text is an exponent. -/
def isExponent : List Char → Bool
  | mark :: rest =>
      (mark == 'e' || mark == 'E') && (ungroup? Char.isDigit (Binary64.takeSign rest).2).isSome
  | [] => false

/-- Whether a text is a point and a fraction, perhaps with an exponent, or an exponent
alone. -/
def isFraction : List Char → Bool
  | '.' :: rest =>
      let isMark (c : Char) : Bool := c == 'e' || c == 'E'
      let exponent := rest.dropWhile fun c => !isMark c
      (ungroup? Char.isDigit (rest.takeWhile fun c => !isMark c)).isSome &&
        (exponent.isEmpty || isExponent exponent)
  | rest => isExponent rest

/-- Whether a word is a double. One that exceeds the range is refused if it is
positive. -/
def isDouble (word : List Char) : Bool :=
  let body := (Binary64.takeSign word).2
  let isGrouped (c : Char) : Bool := c.isDigit || c == '_'
  body == ['i', 'n', 'f'] || body == ['n', 'a', 'n'] ||
    ((wholeDigits? (body.takeWhile isGrouped)).isSome && isFraction (body.dropWhile isGrouped) &&
      Binary64.read? (word.filter (· ≠ '_')) != some (.infinite false))

/-- Read a number of exactly `count` digits. -/
def readFixed (count : Nat) (text : List Char) : Option (Nat × List Char) :=
  let digits := text.take count
  if digits.length = count ∧ digits.all Char.isDigit then
    some (Binary64.digitsValue digits, text.drop count)
  else none

/-- Read a mark. -/
def readMark (mark : Char) : List Char → Option (List Char)
  | c :: rest => if c = mark then some rest else none
  | [] => none

/-- The number of days of a month. -/
def daysOf (year month : Nat) : Nat :=
  if month = 2 then
    if year % 4 = 0 ∧ (year % 100 ≠ 0 ∨ year % 400 = 0) then 29 else 28
  else if [4, 6, 9, 11].contains month then 30
  else 31

/-- Read a date. -/
def readDate (text : List Char) : Option (List Char) := do
  let (year, rest) ← readFixed 4 text
  let (month, rest) ← readFixed 2 (← readMark '-' rest)
  let (day, rest) ← readFixed 2 (← readMark '-' rest)
  if 1 ≤ month ∧ month ≤ 12 ∧ 1 ≤ day ∧ day ≤ daysOf year month then some rest else none

/-- Read hours and minutes. -/
def readClock (text : List Char) : Option (List Char) := do
  let (hour, rest) ← readFixed 2 text
  let (minute, rest) ← readFixed 2 (← readMark ':' rest)
  if hour ≤ 23 ∧ minute ≤ 59 then some rest else none

/-- Read a time of day, with seconds and perhaps a fraction of them. -/
def readTime (text : List Char) : Option (List Char) := do
  let (second, rest) ← readFixed 2 (← readMark ':' (← readClock text))
  if 60 < second then none
  else
    match rest with
    | '.' :: fraction =>
        if (fraction.takeWhile Char.isDigit).isEmpty then none
        else some (fraction.dropWhile Char.isDigit)
    | rest => some rest

/-- Whether a text is a time zone, or nothing. -/
def isZone : List Char → Bool
  | [] => true
  | ['Z'] => true
  | ['z'] => true
  | sign :: rest => (sign == '+' || sign == '-') && readClock rest == some []

/-- Whether a word is a date without a time. -/
def isDate (word : List Char) : Bool := readDate word == some []

/-- Whether a word is a time of day, perhaps in a zone. -/
def isZonedTime (word : List Char) : Bool := (readTime word).any isZone

/-- Whether a word is a date with a time. -/
def isMoment (word : List Char) : Bool :=
  match readDate word with
  | some (mark :: rest) => (mark == 'T' || mark == 't') && isZonedTime rest
  | _ => false

/-- Whether a word is a truth value, a number, a date or a time. -/
def isScalar (word : List Char) : Bool :=
  word == ['t', 'r', 'u', 'e'] || word == ['f', 'a', 'l', 's', 'e'] || isInteger word ||
    isDouble word || isDate word || isMoment word || readTime word == some []

/-- The characters of unquoted words. -/
def isWordChar (c : Char) : Bool :=
  c.isAlphanum || c == '+' || c == '-' || c == '.' || c == '_' || c == ':'

/-- Read past an unquoted scalar. A date and a time may stand apart by one space. -/
def readScalar (text : List Char) : Option (List Char) :=
  let word := text.takeWhile isWordChar
  let rest := text.dropWhile isWordChar
  if !isScalar word then none
  else
    match rest with
    | ' ' :: after =>
        if isDate word && isZonedTime (after.takeWhile isWordChar) then
          some (after.dropWhile isWordChar)
        else some rest
    | rest => some rest

end Toml

end FormValidity
