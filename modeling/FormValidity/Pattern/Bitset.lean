/-! # Sets of numbers as bits

A finite set of natural numbers is kept as the bits of one number, so that the union,
the intersection and the shift of two sets are each an operation on words. Every
operation comes with what it does to membership.
-/

namespace FormValidity

/-- A finite set of natural numbers: those whose bit is set. -/
structure Bitset where
  bits : Nat
  deriving DecidableEq, Repr

namespace Bitset

/-- Whether a number belongs to a set. -/
def contains (s : Bitset) (n : Nat) : Bool := s.bits.testBit n

instance : Membership Nat Bitset := ⟨fun s n => s.contains n = true⟩

instance (s : Bitset) (n : Nat) : Decidable (n ∈ s) := inferInstanceAs (Decidable (_ = true))

instance : EmptyCollection Bitset := ⟨⟨0⟩⟩

instance : Union Bitset := ⟨fun s t => ⟨s.bits ||| t.bits⟩⟩

instance : Inter Bitset := ⟨fun s t => ⟨s.bits &&& t.bits⟩⟩

/-- Whether a set has no members. -/
def isEmpty (s : Bitset) : Bool := s.bits == 0

/-- The successors of the members. -/
def next (s : Bitset) : Bitset := ⟨2 * s.bits⟩

/-- The numbers up to `last`. -/
def upTo (last : Nat) : Bitset := ⟨Nat.pow 2 (last + 1) - 1⟩

/-- The indices at which a list says yes. -/
def ofTests (tests : List Bool) : Bitset :=
  ⟨tests.foldr (fun test bits => 2 * bits + test.toNat) 0⟩

private theorem mem_def {s : Bitset} {n : Nat} : n ∈ s ↔ s.bits.testBit n = true := Iff.rfl

/-- Sets with the same members are equal. -/
@[ext] theorem ext {s t : Bitset} (same : ∀ n, n ∈ s ↔ n ∈ t) : s = t := by
  cases s
  cases t
  congr
  exact Nat.eq_of_testBit_eq fun n => Bool.eq_iff_iff.2 (same n)

@[simp] theorem not_mem_empty {n : Nat} : ¬ n ∈ (∅ : Bitset) := by
  simp [mem_def, EmptyCollection.emptyCollection]

@[simp] theorem mem_union {s t : Bitset} {n : Nat} : n ∈ s ∪ t ↔ n ∈ s ∨ n ∈ t := by
  simp [mem_def, Union.union]

@[simp] theorem mem_inter {s t : Bitset} {n : Nat} : n ∈ s ∩ t ↔ n ∈ s ∧ n ∈ t := by
  simp [mem_def, Inter.inter]

theorem isEmpty_iff {s : Bitset} : s.isEmpty = true ↔ s = ∅ := by
  cases s
  simp [isEmpty, EmptyCollection.emptyCollection]

@[simp] theorem mem_next {s : Bitset} {n : Nat} : n ∈ s.next ↔ ∃ m ∈ s, n = m + 1 := by
  cases n with
  | zero => simp [mem_def, next]
  | succ n => simp [mem_def, next, Nat.testBit_succ]

@[simp] theorem mem_upTo {last n : Nat} : n ∈ upTo last ↔ n ≤ last := by
  have bit : (upTo last).bits.testBit n = decide (n < last + 1) :=
    Nat.testBit_two_pow_sub_one (last + 1) n
  rw [mem_def, bit, decide_eq_true_eq]
  exact Nat.lt_succ_iff

@[simp] theorem mem_ofTests {tests : List Bool} {n : Nat} :
    n ∈ ofTests tests ↔ tests[n]? = some true := by
  induction tests generalizing n with
  | nil => simp [mem_def, ofTests]
  | cons test rest ih =>
      cases n with
      | zero => cases test <;> simp [mem_def, ofTests, Nat.testBit_zero, Nat.add_mod]
      | succ n =>
          have half : (2 * (ofTests rest).bits + test.toNat) / 2 = (ofTests rest).bits := by
            cases test <;> simp [Nat.add_mul_div_left, Nat.add_comm]
          rw [List.getElem?_cons_succ, ← ih, mem_def, mem_def, Nat.testBit_succ]
          exact Bool.eq_iff_iff.1 (congrArg (fun bits => bits.testBit n) half)

end Bitset

end FormValidity
