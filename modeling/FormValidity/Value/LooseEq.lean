import FormValidity.Binary64.Reading
import FormValidity.Unicode.WhiteSpace
import FormValidity.Value.Basic

/-! # Loose equality

Controls deliver text where records hold numbers, so constraints compare values
loosely: scalars of different shapes are compared as numbers, null equals only
null, and collections compare structurally (`Value.looseEq`).
-/

namespace FormValidity

namespace Value

/-- The numeric reading of a text: white space at the ends is ignored, and a blank
text reads as zero. -/
def textNumber? (text : String) : Option Binary64 :=
  match Unicode.trim text.toList with
  | [] => some (.zero false)
  | trimmed => Binary64.read? trimmed

/-- The numeric reading of a scalar, if it has one. -/
def number? : Value → Option Binary64
  | .num n => some n.toBinary64
  | .bool b => some (if b then .one else .zero false)
  | .str s => textNumber? s
  | _ => none

/-- Whether both values have a numeric reading and these are equal. -/
def sameNumber (a b : Value) : Bool :=
  match a.number?, b.number? with
  | some x, some y => x.numEq y
  | _, _ => false

/-- Equality across the shapes of a control. Values of one scalar shape compare as
themselves, different scalar shapes as numbers. -/
def looseEq (a b : Value) : Bool :=
  match a, b with
  | .null, .null => true
  | .null, _ => false
  | _, .null => false
  | .str x, .str y => x == y
  | .bool x, .bool y => x == y
  | .num x, .num y => x.toBinary64.numEq y.toBinary64
  | .arr _, _ => equal a b
  | _, .arr _ => equal a b
  | .obj _, _ => equal a b
  | _, .obj _ => equal a b
  | _, _ => sameNumber a b

end Value

end FormValidity
