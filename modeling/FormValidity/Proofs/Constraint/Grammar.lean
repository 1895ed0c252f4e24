import FormValidity.Constraint.Basic
import FormValidity.Registry

/-! # The grammar of constraints

What may be written for a kind, told apart from the decoder. `Constraint.Written` relates a raw
value to the constraint it stands for, and `Constraint.Refused` relates it to the error it meets.
Both go down through the shapes of a constraint to those of a length, a number and a pattern.

Keys hide each other, and a rule asks nothing of a key that is hidden: beside a range an object may
give any length, even one that could not stand alone. A key that is present with `null` is given,
not absent.
-/

namespace FormValidity

/-- A nonnegative integer, as a document stores it. -/
def Value.natural (n : Nat) : Value := .num (.integer n)

namespace Pattern

/-- A pattern is written as a text that keeps the notation of patterns. -/
inductive Written : Value → Pattern → Prop where
  | text (source : String) (pattern : Pattern) (valid : compile? source = some pattern) :
      Written (.str source) pattern

/-- Why a value is no pattern of a kind. -/
inductive Refused (kind : String) : Value → RuleError → Prop where
  | shape (raw : Value) (other : ∀ source, raw ≠ .str source) :
      Refused kind raw (.unrecognizedShape kind .notPattern)
  | invalid (source : String) (violates : compile? source = none) :
      Refused kind (.str source) (.invalidPattern kind)

end Pattern

namespace LengthRule

/-- What an object says of a length. A range hides the other keys, and an exact length hides the
bounds. -/
inductive Written (entries : List (String × Value)) : LengthRule → Prop where
  | range (low high : Nat)
      (given : Assoc.get? entries "in" = some (.arr [.natural low, .natural high]))
      (ascends : low ≤ high) : Written entries (.range low high)
  | exact (length : Nat) (noRange : Assoc.get? entries "in" = none)
      (given : Assoc.get? entries "is" = some (.natural length)) : Written entries (.exact length)
  | bounds (least greatest : Option Nat) (noRange : Assoc.get? entries "in" = none)
      (noLength : Assoc.get? entries "is" = none)
      (low : Assoc.get? entries "min" = least.map .natural)
      (high : Assoc.get? entries "max" = greatest.map .natural)
      (bounded : least ≠ none ∨ greatest ≠ none) : Written entries (.bounds least greatest)

/-- Why an object says nothing of a length. The keys are looked at in the order in which they hide
each other. -/
inductive Refused (entries : List (String × Value)) : ShapeFault → Prop where
  | range (raw : Value) (given : Assoc.get? entries "in" = some raw)
      (noPair : ∀ low high, raw ≠ .arr [low, high]) : Refused entries .notRange
  | falling (low high : Value) (given : Assoc.get? entries "in" = some (.arr [low, high]))
      (falls : ∀ least greatest, low = .natural least → high = .natural greatest →
        greatest < least) : Refused entries .notAscending
  | exact (raw : Value) (noRange : Assoc.get? entries "in" = none)
      (given : Assoc.get? entries "is" = some raw) (other : ∀ n, raw ≠ .natural n) :
      Refused entries (.notNatural "is")
  | least (raw : Value) (noRange : Assoc.get? entries "in" = none)
      (noLength : Assoc.get? entries "is" = none) (given : Assoc.get? entries "min" = some raw)
      (other : ∀ n, raw ≠ .natural n) : Refused entries (.notNatural "min")
  | greatest (least : Option Nat) (raw : Value) (noRange : Assoc.get? entries "in" = none)
      (noLength : Assoc.get? entries "is" = none)
      (low : Assoc.get? entries "min" = least.map .natural)
      (given : Assoc.get? entries "max" = some raw) (other : ∀ n, raw ≠ .natural n) :
      Refused entries (.notNatural "max")
  | unbounded (noRange : Assoc.get? entries "in" = none)
      (noLength : Assoc.get? entries "is" = none) (noLeast : Assoc.get? entries "min" = none)
      (noGreatest : Assoc.get? entries "max" = none) : Refused entries .noBound

end LengthRule

/-- What an object says of a number: a fraction is refused only for the value `true`. -/
inductive NumericRule.Written (entries : List (String × Value)) : NumericRule → Prop where
  | plain (onlyInteger : Bool) (noPattern : Assoc.get? entries "ignore" = none)
      (whole : onlyInteger ↔ Assoc.get? entries "only_integer" = some (.bool true)) :
      Written entries ⟨none, onlyInteger⟩
  | ignoring (raw : Value) (pattern : Pattern) (onlyInteger : Bool)
      (given : Assoc.get? entries "ignore" = some raw) (written : pattern.Written raw)
      (whole : onlyInteger ↔ Assoc.get? entries "only_integer" = some (.bool true)) :
      Written entries ⟨some pattern, onlyInteger⟩

/-- The keys that entries set to `true`, in their order and without the message. -/
inductive Enables : List (String × Value) → List String → Prop where
  | nil : Enables [] []
  | enabled (key : String) (noMessage : key ≠ "message") {rest : List (String × Value)}
      {keys : List String} (others : Enables rest keys) :
      Enables ((key, .bool true) :: rest) (key :: keys)
  | skipped (key : String) (raw : Value) (off : key = "message" ∨ raw ≠ .bool true)
      {rest : List (String × Value)} {keys : List String} (others : Enables rest keys) :
      Enables ((key, raw) :: rest) keys

namespace Modifier

/-- What an object says for a kind without keys of its own. A pattern hides the sets, a set of
members hides a set of others, and each of them hides the nested predicates. -/
inductive Selected (entries : List (String × Value)) : Modifier → Prop where
  | format (raw : Value) (pattern : Pattern) (given : Assoc.get? entries "regex" = some raw)
      (written : Pattern.Written raw pattern) : Selected entries (.format pattern)
  | inclusion (set : List Value) (noPattern : Assoc.get? entries "regex" = none)
      (given : Assoc.get? entries "in" = some (.arr set)) : Selected entries (.inclusion set)
  | exclusion (set : List Value) (noPattern : Assoc.get? entries "regex" = none)
      (noMembers : Assoc.get? entries "in" = none)
      (given : Assoc.get? entries "from" = some (.arr set)) : Selected entries (.exclusion set)
  | builtin (keys : List String) (noPattern : Assoc.get? entries "regex" = none)
      (noMembers : Assoc.get? entries "in" = none) (noOthers : Assoc.get? entries "from" = none)
      (enables : Enables entries keys) (nonempty : keys ≠ []) : Selected entries (.builtin keys)

/-- Why an object says nothing for a kind without keys of its own. -/
inductive Unselected (kind : String) (entries : List (String × Value)) : RuleError → Prop where
  | format (raw : Value) (cause : RuleError) (given : Assoc.get? entries "regex" = some raw)
      (refused : Pattern.Refused kind raw cause) : Unselected kind entries cause
  | inclusion (raw : Value) (noPattern : Assoc.get? entries "regex" = none)
      (given : Assoc.get? entries "in" = some raw) (noList : ∀ set, raw ≠ .arr set) :
      Unselected kind entries (.unrecognizedShape kind (.notList "in"))
  | exclusion (raw : Value) (noPattern : Assoc.get? entries "regex" = none)
      (noMembers : Assoc.get? entries "in" = none) (given : Assoc.get? entries "from" = some raw)
      (noList : ∀ set, raw ≠ .arr set) :
      Unselected kind entries (.unrecognizedShape kind (.notList "from"))
  | builtin (noPattern : Assoc.get? entries "regex" = none)
      (noMembers : Assoc.get? entries "in" = none) (noOthers : Assoc.get? entries "from" = none)
      (enables : Enables entries []) :
      Unselected kind entries (.unrecognizedShape kind .nothingEnabled)

/-- What an object says for a kind. -/
inductive Written (kind : String) (entries : List (String × Value)) : Modifier → Prop where
  | length (rule : LengthRule) (ofLength : kind = "length") (written : rule.Written entries) :
      Written kind entries (.length rule)
  | numericality (rule : NumericRule) (ofNumber : kind = "numericality")
      (written : rule.Written entries) : Written kind entries (.numericality rule)
  | selection (modifier : Modifier) (noLength : kind ≠ "length") (noNumber : kind ≠ "numericality")
      (selected : modifier.Selected entries) : Written kind entries modifier

/-- Why an object says nothing for a kind. -/
inductive Refused (kind : String) (entries : List (String × Value)) : RuleError → Prop where
  | length (fault : ShapeFault) (ofLength : kind = "length")
      (refused : LengthRule.Refused entries fault) :
      Refused kind entries (.unrecognizedShape kind fault)
  | numericality (raw : Value) (cause : RuleError) (ofNumber : kind = "numericality")
      (given : Assoc.get? entries "ignore" = some raw) (refused : Pattern.Refused kind raw cause) :
      Refused kind entries cause
  | selection (cause : RuleError) (noLength : kind ≠ "length") (noNumber : kind ≠ "numericality")
      (unselected : Unselected kind entries cause) : Refused kind entries cause

end Modifier

namespace Constraint

/-- What a raw value says for a kind: a boolean is a switch, a pair names a predicate that the
registry holds, and an object gives parameters. A message is one only if it is a text. -/
inductive Written (registry : Registry) (kind : String) : Value → Constraint → Prop where
  | flag (enabled : Bool) : Written registry kind (.bool enabled) (.flag enabled)
  | custom (name : String) (message : Value) (predicate : Predicate)
      (held : registry.named? name = some predicate) :
      Written registry kind (.arr [.str name, message]) (.custom predicate message.string?)
  | modifier (entries : List (String × Value)) (modifier : Modifier)
      (written : modifier.Written kind entries) :
      Written registry kind (.obj entries)
        (.modifier modifier ((Assoc.get? entries "message").bind Value.string?))

/-- Why a raw value says nothing for a kind. -/
inductive Refused (registry : Registry) (kind : String) : Value → RuleError → Prop where
  | shape (raw : Value) (other : raw.shape ∉ [.boolean, .array, .object]) :
      Refused registry kind raw (.unrecognizedShape kind (.notConstraint raw.shape))
  | pairSize (items : List Value) (noPair : items.length ≠ 2) :
      Refused registry kind (.arr items) (.unrecognizedShape kind (.pairSize items.length))
  | pairHead (head message : Value) (noName : ∀ name, head ≠ .str name) :
      Refused registry kind (.arr [head, message]) (.unrecognizedShape kind .pairHead)
  | unknownPredicate (name : String) (message : Value) (unknown : registry.named? name = none) :
      Refused registry kind (.arr [.str name, message]) (.unknownPredicate kind name)
  | modifier (entries : List (String × Value)) (cause : RuleError)
      (refused : Modifier.Refused kind entries cause) :
      Refused registry kind (.obj entries) cause

end Constraint

end FormValidity
