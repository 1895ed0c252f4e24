import FormValidity.FieldPath

/-! # Splitting names at dots

A name is cut at every dot, so joining pieces without dots by dots is undone by cutting
(`FieldPath.splitDots_intercalate`).
-/

namespace FormValidity

namespace FieldPath

private theorem splitDots_ne_nil (text : List Char) : splitDots text ≠ [] := by
  cases text with
  | nil => exact List.cons_ne_nil _ _
  | cons c rest =>
      rw [splitDots]
      split
      · exact List.cons_ne_nil _ _
      · split <;> exact List.cons_ne_nil _ _

private theorem splitDots_dot (text : List Char) :
    splitDots ('.' :: text) = [] :: splitDots text := by
  rw [splitDots]
  split
  · next nothing => exact (splitDots_ne_nil text nothing).elim
  · next pieces => rw [if_pos rfl, pieces]

private theorem splitDots_cons {c : Char} (noDot : c ≠ '.') {text piece : List Char}
    {pieces : List (List Char)} (split : splitDots text = piece :: pieces) :
    splitDots (c :: text) = (c :: piece) :: pieces := by
  rw [splitDots, split]
  exact if_neg noDot

private theorem splitDots_of_not_mem {piece : List Char} (noDot : '.' ∉ piece) :
    splitDots piece = [piece] := by
  induction piece with
  | nil => rfl
  | cons c rest ih =>
      obtain ⟨differs, others⟩ := not_or.mp (mt List.mem_cons.mpr noDot)
      exact splitDots_cons (Ne.symm differs) (ih others)

private theorem splitDots_append_dot {piece : List Char} (noDot : '.' ∉ piece) (text : List Char) :
    splitDots (piece ++ '.' :: text) = piece :: splitDots text := by
  induction piece with
  | nil => exact splitDots_dot text
  | cons c rest ih =>
      obtain ⟨differs, others⟩ := not_or.mp (mt List.mem_cons.mpr noDot)
      exact splitDots_cons (Ne.symm differs) (ih others)

/-- Pieces without dots that are joined by dots are the pieces between the dots. -/
theorem splitDots_intercalate {pieces : List (List Char)} (nonempty : pieces ≠ [])
    (noDot : ∀ piece ∈ pieces, '.' ∉ piece) : splitDots (['.'].intercalate pieces) = pieces := by
  induction pieces with
  | nil => exact (nonempty rfl).elim
  | cons piece rest ih =>
      have first := noDot piece List.mem_cons_self
      cases rest with
      | nil =>
          rw [List.intercalate_singleton]
          exact splitDots_of_not_mem first
      | cons next others =>
          rw [List.intercalate_cons_cons, List.append_assoc, List.singleton_append,
            splitDots_append_dot first]
          exact congrArg _ (ih (List.cons_ne_nil _ _) fun other member =>
            noDot other (List.mem_cons_of_mem piece member))

/-- The name under which keys are stored as one, with dots between them. -/
def dotted (keys : List String) : String := ".".intercalate keys

/-- Keys without dots can be told from their dotted name. -/
theorem map_splitDots_dotted {keys : List String} (nonempty : keys ≠ [])
    (noDot : ∀ key ∈ keys, '.' ∉ key.toList) :
    (splitDots (dotted keys).toList).map String.ofList = keys := by
  have pieces : splitDots (dotted keys).toList = keys.map String.toList := by
    rw [dotted, String.toList_intercalate]
    refine splitDots_intercalate (mt List.map_eq_nil_iff.mp nonempty) fun piece member => ?_
    obtain ⟨key, inside, rfl⟩ := List.mem_map.mp member
    exact noDot key inside
  rw [pieces, List.map_map]
  exact List.map_id'' (fun _ => String.ofList_toList) keys

end FieldPath

end FormValidity
