import FormValidity.Proofs.OrderedMap
import FormValidity.Value.Basic
import Mathlib.Data.List.Perm.Subperm

/-! # Structural equality of values

A document can hold finite numbers only, and no object of it has a key twice
(`Value.WellFormed`). On such values structural equality is an equivalence: each of them equals
itself (`Value.equal_self`), and equality is symmetric (`Value.equal_comm`) and transitive
(`Value.equal_trans`). The order of an object's entries does not count: two objects are equal
exactly if their look-ups agree under every key (`Value.equal_obj_iff`).
-/

namespace FormValidity

/-- An integer, or a double that is finite. -/
def Number.isFinite : Number → Bool
  | .integer _ => true
  | .double x => x.isFinite

namespace Number

/-- A finite number is equal to itself. -/
theorem equal_self {n : Number} (finite : n.isFinite = true) : n.equal n := by
  cases n with
  | integer n => exact beq_self_eq_true n
  | double x =>
      refine Binary64.numEq_self ?_
      cases x with
      | finite negative units => rfl
      | infinite negative => rfl
      | nan => cases finite

/-- Equality of stored numbers is symmetric. -/
theorem equal_comm (m n : Number) : m.equal n = n.equal m := by
  cases m with
  | integer i =>
      cases n with
      | integer j => exact Bool.beq_comm
      | double y => rfl
  | double x =>
      cases n with
      | integer j => rfl
      | double y => exact Binary64.numEq_comm x y

/-- Equality of stored numbers is transitive. -/
theorem equal_trans {l m n : Number} (left : l.equal m) (right : m.equal n) : l.equal n := by
  cases m with
  | integer j =>
      cases l with
      | double x => cases left
      | integer i =>
          rw [show i = j from eq_of_beq left]
          exact right
  | double y =>
      cases l with
      | integer i => cases left
      | double x =>
          cases n with
          | integer k => cases right
          | double z => exact Binary64.numEq_trans left right

end Number

namespace Value

/-- A value that a document can hold: its numbers are finite, and the keys of each object are
distinct. -/
inductive WellFormed : Value → Prop
  | null : WellFormed .null
  | bool (b : Bool) : WellFormed (.bool b)
  | num {n : Number} (finite : n.isFinite = true) : WellFormed (.num n)
  | str (s : String) : WellFormed (.str s)
  | arr {items : List Value} (formed : ∀ item ∈ items, WellFormed item) :
      WellFormed (.arr items)
  | obj {entries : List (String × Value)} (distinct : (Assoc.keys entries).Nodup)
      (formed : ∀ entry ∈ entries, WellFormed entry.2) : WellFormed (.obj entries)

/-- Two optional values are both missing, or both there and equal. -/
abbrev Alike (first second : Option Value) : Prop := Option.Rel (fun x y => equal x y) first second

private theorem Alike.isSome_eq {first second : Option Value} (alike : Alike first second) :
    first.isSome = second.isSome := by
  cases alike with
  | some same => rfl
  | none => rfl

private theorem Alike.symm {first second : Option Value} (alike : Alike first second)
    (flip : ∀ x y, first = some x → second = some y → equal x y → equal y x) :
    Alike second first := by
  cases alike with
  | some same => exact .some (flip _ _ rfl rfl same)
  | none => exact .none

private theorem Alike.trans {first second third : Option Value} (left : Alike first second)
    (right : Alike second third)
    (chain : ∀ x y z, first = some x → second = some y → third = some z →
      equal x y → equal y z → equal x z) : Alike first third := by
  cases left with
  | some same =>
      cases right with
      | some again => exact .some (chain _ _ _ rfl rfl rfl same again)
  | none =>
      cases right with
      | none => exact .none

/-- Two arrays are equal exactly if their items are equal at every index. -/
theorem equal_arr_iff (xs ys : List Value) :
    equal (.arr xs) (.arr ys) ↔ ∀ index : Nat, Alike xs[index]? ys[index]? := by
  rw [equal]
  induction xs generalizing ys with
  | nil =>
      cases ys with
      | nil => simpa only [equalItems, List.getElem?_nil, true_iff] using fun _ => Option.Rel.none
      | cons y ys =>
          refine iff_of_false (by simp only [equalItems, Bool.false_eq_true, not_false_eq_true]) ?_
          intro alike
          cases alike 0
  | cons x xs ih =>
      cases ys with
      | nil =>
          refine iff_of_false (by simp only [equalItems, Bool.false_eq_true, not_false_eq_true]) ?_
          intro alike
          cases alike 0
      | cons y ys =>
          rw [equalItems, Bool.and_eq_true, ih]
          constructor
          · rintro ⟨head, tail⟩ index
            cases index with
            | zero => exact .some head
            | succ index => exact tail index
          · intro alike
            have head := alike 0
            simp only [List.getElem?_cons_zero, Option.rel_some_some] at head
            exact ⟨head, fun index => alike (index + 1)⟩

private theorem equalEntries_iff (xs ys : List (String × Value)) :
    equalEntries xs ys ↔ ∀ entry ∈ xs, ∃ y, Assoc.get? ys entry.1 = some y ∧ equal entry.2 y := by
  induction xs with
  | nil => simp only [equalEntries, List.not_mem_nil, false_implies, implies_true]
  | cons entry rest ih =>
      obtain ⟨key, x⟩ := entry
      rw [equalEntries, Bool.and_eq_true, ih, List.forall_mem_cons]
      refine and_congr_left' ?_
      cases Assoc.get? ys key with
      | none => simp only [Bool.false_eq_true, reduceCtorEq, false_and, exists_false]
      | some y => simp only [Option.some.injEq, exists_eq_left']

/-- Two objects are equal exactly if they hold equal values under every key, whatever the order
of their entries. -/
theorem equal_obj_iff {xs ys : List (String × Value)} (distinct : (Assoc.keys xs).Nodup)
    (unique : (Assoc.keys ys).Nodup) :
    equal (.obj xs) (.obj ys) ↔ ∀ key, Alike (Assoc.get? xs key) (Assoc.get? ys key) := by
  rw [equal, Bool.and_eq_true, beq_iff_eq, equalEntries_iff]
  constructor
  · rintro ⟨size, found⟩ key
    cases held : Assoc.get? xs key with
    | some x =>
        obtain ⟨y, present, same⟩ := found _ ((Assoc.get?_eq_some_iff distinct key x).mp held)
        rw [present]
        exact .some same
    | none =>
        -- As many distinct keys on both sides, so no key stands on the right only.
        have subset : Assoc.keys xs ⊆ Assoc.keys ys := by
          intro other member
          obtain ⟨entry, listed, rfl⟩ := List.mem_map.mp member
          obtain ⟨y, present, _⟩ := found entry listed
          exact (Assoc.isSome_get?_iff ys entry.1).mp (by rw [present]; rfl)
        have lengths : (Assoc.keys ys).length ≤ (Assoc.keys xs).length := by
          rw [Assoc.keys, Assoc.keys, List.length_map, List.length_map]
          exact Nat.le_of_eq size.symm
        have same := (List.subperm_of_subset distinct subset).perm_of_length_le lengths
        have absent := (Assoc.get?_eq_none_iff xs key).mp held
        rw [(Assoc.get?_eq_none_iff ys key).mpr fun member => absent (same.mem_iff.mpr member)]
        exact .none
  · intro alike
    have same : ∀ key, key ∈ Assoc.keys xs ↔ key ∈ Assoc.keys ys := by
      intro key
      rw [← Assoc.isSome_get?_iff, ← Assoc.isSome_get?_iff]
      rw [(alike key).isSome_eq]
    constructor
    · have lengths := ((List.perm_ext_iff_of_nodup distinct unique).mpr same).length_eq
      rwa [Assoc.keys, Assoc.keys, List.length_map, List.length_map] at lengths
    · intro entry member
      have alike := alike entry.1
      rw [(Assoc.get?_eq_some_iff distinct entry.1 entry.2).mpr member] at alike
      cases held : Assoc.get? ys entry.1 with
      | none =>
          rw [held] at alike
          cases alike
      | some y =>
          rw [held] at alike
          cases alike with
          | some equal => exact ⟨y, rfl, equal⟩

/-- A value of a document equals itself. -/
theorem equal_self {value : Value} (formed : value.WellFormed) : equal value value := by
  induction formed with
  | null => rfl
  | bool b => exact beq_self_eq_true b
  | num finite => exact Number.equal_self finite
  | str s => exact beq_self_eq_true s
  | @arr items formed ih =>
      refine (equal_arr_iff items items).mpr fun index => ?_
      cases found : items[index]? with
      | none => exact .none
      | some x => exact .some (ih x (List.mem_of_getElem? found))
  | @obj entries distinct formed ih =>
      refine (equal_obj_iff distinct distinct).mpr fun key => ?_
      cases found : Assoc.get? entries key with
      | none => exact .none
      | some x => exact .some (ih _ ((Assoc.get?_eq_some_iff distinct key x).mp found))

private theorem equal_symm {first : Value} (formed : first.WellFormed) {second : Value}
    (other : second.WellFormed) (same : equal first second) : equal second first := by
  induction formed generalizing second with
  | null =>
      cases other with
      | null => rfl
      | _ => cases same
  | bool b =>
      cases other with
      | bool => exact BEq.symm same
      | _ => cases same
  | @num n _ =>
      cases other with
      | @num m _ => exact (Number.equal_comm m n).trans same
      | _ => cases same
  | str s =>
      cases other with
      | str => exact BEq.symm same
      | _ => cases same
  | arr formed ih =>
      cases other with
      | arr others =>
          refine (equal_arr_iff _ _).mpr fun index => ?_
          refine ((equal_arr_iff _ _).mp same index).symm fun x y left right agree => ?_
          exact ih x (List.mem_of_getElem? left) (others y (List.mem_of_getElem? right)) agree
      | _ => cases same
  | obj distinct formed ih =>
      cases other with
      | obj unique others =>
          refine (equal_obj_iff unique distinct).mpr fun key => ?_
          refine ((equal_obj_iff distinct unique).mp same key).symm fun x y left right agree => ?_
          exact ih _ ((Assoc.get?_eq_some_iff distinct key x).mp left)
            (others _ ((Assoc.get?_eq_some_iff unique key y).mp right)) agree
      | _ => cases same

/-- Equality is symmetric on well-formed values. -/
theorem equal_comm {first second : Value} (formed : first.WellFormed)
    (other : second.WellFormed) : equal first second = equal second first :=
  Bool.eq_iff_iff.mpr ⟨equal_symm formed other, equal_symm other formed⟩

/-- Equality is transitive on well-formed values. -/
theorem equal_trans {first : Value} (formed : first.WellFormed) {second third : Value}
    (middle : second.WellFormed) (last : third.WellFormed) (left : equal first second)
    (right : equal second third) : equal first third := by
  induction formed generalizing second third with
  | null =>
      cases middle with
      | null => exact right
      | _ => cases left
  | bool b =>
      cases middle with
      | bool c =>
          rw [show b = c from eq_of_beq left]
          exact right
      | _ => cases left
  | num _ =>
      cases middle with
      | num _ =>
          cases last with
          | num _ => exact Number.equal_trans left right
          | _ => cases right
      | _ => cases left
  | str s =>
      cases middle with
      | str t =>
          rw [show s = t from eq_of_beq left]
          exact right
      | _ => cases left
  | arr formed ih =>
      cases middle with
      | arr middle =>
          cases last with
          | arr last =>
              refine (equal_arr_iff _ _).mpr fun index => ?_
              refine ((equal_arr_iff _ _).mp left index).trans ((equal_arr_iff _ _).mp right index)
                fun x y z isFirst isSecond isThird => ?_
              exact ih x (List.mem_of_getElem? isFirst) (middle y (List.mem_of_getElem? isSecond))
                (last z (List.mem_of_getElem? isThird))
          | _ => cases right
      | _ => cases left
  | obj distinct formed ih =>
      cases middle with
      | obj between middle =>
          cases last with
          | obj unique last =>
              refine (equal_obj_iff distinct unique).mpr fun key => ?_
              refine ((equal_obj_iff distinct between).mp left key).trans
                ((equal_obj_iff between unique).mp right key)
                fun x y z isFirst isSecond isThird => ?_
              exact ih _ ((Assoc.get?_eq_some_iff distinct key x).mp isFirst)
                (middle _ ((Assoc.get?_eq_some_iff between key y).mp isSecond))
                (last _ ((Assoc.get?_eq_some_iff unique key z).mp isThird))
          | _ => cases right
      | _ => cases left

end Value

end FormValidity
