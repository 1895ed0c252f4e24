import FormValidity.Pattern.CharClass
import FormValidity.Pattern.Look
import FormValidity.Pattern.Regular

/-! # Expressions

The expressions that patterns denote, and how large they are.
-/

namespace FormValidity

/-- A regular expression over classes of characters. -/
abbrev Expression := Regular CharClass Look

namespace Expression

/-- An estimate of the memory a class takes when compiled: classes past ASCII are
stored as many ranges of bytes. -/
def classWeight : CharClass → Nat
  | .none => 32
  | .range _ high => if high.toNat < 0x80 then 32 else 96
  | .property p =>
      match p with
      | .decimalDigit => 4000
      | .whiteSpace => 600
      | .ascii => 32
      | .any | .assigned => 1000
      | .script _ | .inScript _ => 3000
      | .wordCharacter | .alphabetic | .uppercase | .lowercase | .categories _ | .binary _ =>
          46000
  | .union a b => classWeight a + classWeight b
  | .inter a b => classWeight a + classWeight b
  | .diff a b => classWeight a + classWeight b
  | .symmDiff a b => classWeight a + classWeight b
  | .compl a => classWeight a + 200
  | .folded a => 2 * classWeight a

/-- An estimate of the memory an expression takes when compiled, in bytes. -/
def weight : Expression → Nat
  | .empty => 32
  | .oneOf c => classWeight c
  | .look _ => 32
  | .seq first second => weight first + weight second
  | .alt first second => weight first + weight second + 32
  | .optional _ body => weight body + 32
  | .star _ body => weight body + 64
  | .plus _ body => weight body + 32
  | .times count body => count * weight body
  | .upTo _ count body => count * (weight body + 32)

/-- The greatest weight of an accepted expression: ten megabytes. -/
def weightLimit : Nat := 10 * Nat.pow 2 20

end Expression

end FormValidity
