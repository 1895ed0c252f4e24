import FormValidity.OrderedMap

/-! # Verdicts

What one evaluation of a field says: a verdict per kind of constraint, in the order of
the descriptors. The field is valid if every verdict is positive.
-/

namespace FormValidity

/-- The verdicts of one evaluation. -/
structure Verdicts where
  entries : OrderedMap String Bool

namespace Verdicts

/-- No verdicts. -/
def empty : Verdicts := ⟨.empty⟩

/-- Record a verdict; a kind recorded before keeps its place. -/
def record (verdicts : Verdicts) (kind : String) (holds : Bool) : Verdicts :=
  ⟨verdicts.entries.insert kind holds⟩

/-- The verdict of a kind. -/
def get? (verdicts : Verdicts) (kind : String) : Option Bool := verdicts.entries.get? kind

/-- Kinds and verdicts, in order. -/
def toList (verdicts : Verdicts) : List (String × Bool) := verdicts.entries.entries

/-- Whether all verdicts are positive. -/
def isValid (verdicts : Verdicts) : Bool := verdicts.toList.all Prod.snd

/-- The kinds with a negative verdict, in order. -/
def failing (verdicts : Verdicts) : List String :=
  (verdicts.toList.filter fun entry => !entry.2).map Prod.fst

/-- How many kinds have a verdict. -/
def size (verdicts : Verdicts) : Nat := verdicts.toList.length

/-- A field is valid exactly if no kind fails. -/
theorem isValid_iff_failing_eq_nil (verdicts : Verdicts) :
    verdicts.isValid ↔ verdicts.failing = [] := by
  simp [isValid, failing, List.all_eq_true, List.filter_eq_nil_iff]

end Verdicts

end FormValidity
