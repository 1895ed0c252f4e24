import FormValidity.Unicode.BinaryProperty
import FormValidity.Unicode.CaseFolding
import FormValidity.Unicode.Property
import FormValidity.Unicode.ScriptExtensions

/-! # Classes of characters

A class is built from ranges and properties by the operations of sets and by closing
it under differences in case. Membership (`CharClass.contains`) follows that
structure, so each operation is the Boolean operation on memberships.
-/

namespace FormValidity

/-- A property of characters that a class may ask for. -/
inductive CharProperty where
  | decimalDigit
  | whiteSpace
  | wordCharacter
  | alphabetic
  | uppercase
  | lowercase
  | any
  | ascii
  | assigned
  | categories (members : List Unicode.Category)
  | script (code : String)
  /-- The characters in use in a script. -/
  | inScript (code : String)
  /-- A binary property by name. -/
  | binary (name : String)
  deriving DecidableEq, Repr

/-- Whether a character has a property. -/
def CharProperty.holds : CharProperty → Char → Bool
  | .decimalDigit, c => Unicode.isDecimalDigit c
  | .whiteSpace, c => Unicode.isWhiteSpace c
  | .wordCharacter, c => Unicode.isWordCharacter c
  | .alphabetic, c => Unicode.isAlphabetic c
  | .uppercase, c => Unicode.isUppercase c
  | .lowercase, c => Unicode.isLowercase c
  | .any, _ => true
  | .ascii, c => c.toNat < 0x80
  | .assigned, c => Unicode.category c != .unassigned
  | .categories members, c => members.contains (Unicode.category c)
  | .script code, c => Unicode.script c == code
  | .inScript code, c => (Unicode.scriptsOf c).contains code
  | .binary name, c => Unicode.hasBinaryProperty name c

/-- A class of characters. -/
inductive CharClass where
  | none
  | range (low high : Char)
  | property (p : CharProperty)
  | union (a b : CharClass)
  | inter (a b : CharClass)
  | diff (a b : CharClass)
  | symmDiff (a b : CharClass)
  | compl (a : CharClass)
  /-- The characters that differ from one of the class at most in case. -/
  | folded (a : CharClass)
  deriving DecidableEq, Repr

namespace CharClass

/-- Whether a character belongs to a class. -/
def contains : CharClass → Char → Bool
  | .none, _ => false
  | .range low high, c => low.toNat ≤ c.toNat && c.toNat ≤ high.toNat
  | .property p, c => p.holds c
  | .union a b, c => a.contains c || b.contains c
  | .inter a b, c => a.contains c && b.contains c
  | .diff a b, c => a.contains c && !b.contains c
  | .symmDiff a b, c => a.contains c != b.contains c
  | .compl a, c => !a.contains c
  | .folded a, c => (Unicode.caseVariants c).any a.contains

/-- The class of one character. -/
def single (c : Char) : CharClass := .range c c

/-- The union of classes. -/
def unions : List CharClass → CharClass
  | [] => .none
  | [a] => a
  | a :: rest => .union a (unions rest)

/-- The class of some ranges. -/
def ranges (bounds : List (Char × Char)) : CharClass :=
  unions (bounds.map fun bound => .range bound.1 bound.2)

/-- The complement of a class if asked for. -/
def complIf (negated : Bool) (a : CharClass) : CharClass := if negated then .compl a else a

/-- The closure of a class under the case of ASCII letters. -/
def foldedAscii (a : CharClass) : CharClass :=
  .union a (.inter (.folded (.inter a (.property .ascii))) (.property .ascii))

@[simp] theorem contains_single (c d : Char) : (single c).contains d = decide (d = c) := by
  rw [Bool.eq_iff_iff]
  simp only [single, contains, Bool.and_eq_true, decide_eq_true_eq]
  constructor
  · rintro ⟨below, above⟩
    exact Char.toNat_inj.1 (Nat.le_antisymm above below)
  · rintro rfl
    exact ⟨Nat.le_refl _, Nat.le_refl _⟩

/-- A character is in a union if it is in one of the classes. -/
theorem contains_unions (classes : List CharClass) (c : Char) :
    (unions classes).contains c = classes.any fun a => a.contains c := by
  induction classes with
  | nil => rfl
  | cons a rest ih => cases rest <;> simp_all [unions, contains]

end CharClass

end FormValidity
