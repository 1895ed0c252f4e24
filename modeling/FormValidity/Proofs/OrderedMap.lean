import FormValidity.OrderedMap
import Mathlib.Data.List.Induction

/-! # Entries and removal in ordered maps

No key of an ordered map stands twice, so its entries are what its look-ups find
(`OrderedMap.mem_entries_iff`), and a map is told by its keys and its look-ups
(`OrderedMap.ext_get?`). A new key is appended to the entries
(`OrderedMap.entries_insert_of_not_mem`), and removing a key leaves the other entries in
their order (`OrderedMap.erase`). Of a list of entries a map keeps the keys in the order of
their first occurrence (`OrderedMap.keys_ofList`) with their last values
(`OrderedMap.get?_ofList`).
-/

namespace FormValidity

variable {κ α : Type} [DecidableEq κ]

/-- Without repetitions, one more item comes last if it is new. -/
theorem eraseDups_concat (items : List κ) (item : κ) :
    (items ++ [item]).eraseDups =
      if item ∈ items then items.eraseDups else items.eraseDups ++ [item] := by
  rw [List.eraseDups_append]
  by_cases inside : item ∈ items <;> simp [List.removeAll, List.eraseDups_cons, inside]

namespace Assoc

/-- Among distinct keys a look-up finds exactly the entries. -/
theorem get?_eq_some_iff {entries : List (κ × α)} (distinct : (keys entries).Nodup) (key : κ)
    (value : α) : get? entries key = some value ↔ (key, value) ∈ entries := by
  induction entries with
  | nil => simp only [get?, reduceCtorEq, List.not_mem_nil]
  | cons entry rest ih =>
      obtain ⟨fresh, distinct⟩ := List.nodup_cons.mp distinct
      rw [get?, List.mem_cons]
      by_cases same : entry.1 = key
      · subst same
        have absent : (entry.1, value) ∉ rest := fun member =>
          fresh (List.mem_map.mpr ⟨_, member, rfl⟩)
        simp only [↓reduceIte, Option.some.injEq, absent, or_false, Prod.ext_iff, true_and]
        exact eq_comm
      · have differ : (key, value) ≠ entry := fun equal => same (congrArg Prod.fst equal).symm
        simp only [same, ↓reduceIte, ih distinct, differ, false_or]

private theorem insert_of_not_mem {entries : List (κ × α)} {key : κ} (absent : key ∉ keys entries)
    (value : α) : insert entries key value = entries ++ [(key, value)] := by
  induction entries with
  | nil => rfl
  | cons entry rest ih =>
      obtain ⟨differ, absent⟩ := not_or.mp (mt List.mem_cons.mpr absent)
      rw [insert, if_neg (Ne.symm differ), ih absent, List.cons_append]

/-- Of two values inserted under one key the first one leaves no trace. -/
theorem insert_insert (entries : List (κ × α)) (key : κ) (first second : α) :
    insert (insert entries key first) key second = insert entries key second := by
  induction entries with
  | nil => simp only [insert, ↓reduceIte]
  | cons entry rest ih =>
      by_cases same : entry.1 = key
      · simp only [insert, same, ↓reduceIte]
      · simp only [insert, same, ↓reduceIte, ih]

/-- There is no value for a key exactly if it is not among the keys. -/
theorem get?_eq_none_iff (entries : List (κ × α)) (key : κ) :
    get? entries key = none ↔ key ∉ keys entries := by
  rw [← isSome_get?_iff, Option.not_isSome_iff_eq_none]

/-- Entries with distinct keys are told by their keys and what the look-ups find. -/
theorem eq_of_get? {first second : List (κ × α)} (distinct : (keys first).Nodup)
    (sameKeys : keys first = keys second) (sameValues : ∀ key, get? first key = get? second key) :
    first = second := by
  induction first generalizing second with
  | nil => exact (List.map_eq_nil_iff.mp sameKeys.symm).symm
  | cons entry rest ih =>
      obtain ⟨fresh, distinct⟩ := List.nodup_cons.mp distinct
      cases second with
      | nil => cases sameKeys
      | cons other others =>
          obtain ⟨sameKey, sameRest⟩ := List.cons.inj sameKeys
          have sameValue : entry.2 = other.2 := by
            have found := sameValues entry.1
            rw [get?, if_pos rfl, get?, if_pos sameKey.symm] at found
            exact Option.some.inj found
          have sameTail : rest = others := by
            refine ih distinct sameRest fun key => ?_
            by_cases here : entry.1 = key
            · subst here
              have missing := (get?_eq_none_iff rest entry.1).mpr fresh
              rw [sameRest] at fresh
              exact missing.trans ((get?_eq_none_iff others entry.1).mpr fresh).symm
            · have found := sameValues key
              rwa [get?, if_neg here, get?, if_neg (sameKey ▸ here)] at found
          rw [sameTail, Prod.ext sameKey sameValue]

/-- What is kept of the entries of one key is what is kept of its value. -/
theorem filterMap_key {β : Type} {entries : List (κ × α)}
    (distinct : (keys entries).Nodup) (key : κ) (keep : α → Option β) :
    (entries.filterMap fun entry => if entry.1 = key then keep entry.2 else none) =
      ((get? entries key).bind keep).toList := by
  induction entries with
  | nil => rfl
  | cons entry rest ih =>
      obtain ⟨fresh, distinct⟩ := List.nodup_cons.mp distinct
      have others := ih distinct
      rw [List.filterMap_cons, get?]
      by_cases same : entry.1 = key
      · subst same
        rw [(get?_eq_none_iff rest entry.1).mpr fresh] at others
        simp only [↓reduceIte, others, Option.bind_some]
        cases keep entry.2 <;> rfl
      · simp only [same, ↓reduceIte, others]

/-- What is kept does not change when a value is replaced by one of which the same is kept. -/
theorem filterMap_insert_congr {β : Type} {keep : κ × α → Option β}
    {key : κ} {first second : α} (alike : keep (key, first) = keep (key, second))
    (entries : List (κ × α)) :
    (insert entries key first).filterMap keep = (insert entries key second).filterMap keep := by
  induction entries with
  | nil => simp only [insert, List.filterMap_cons, alike]
  | cons entry rest ih =>
      by_cases same : entry.1 = key
      · simp only [insert, same, ↓reduceIte, List.filterMap_cons, alike]
      · simp only [insert, same, ↓reduceIte, List.filterMap_cons, ih]

end Assoc

namespace OrderedMap

/-- The entries of a map are what its look-ups find. -/
theorem mem_entries_iff (map : OrderedMap κ α) {key : κ} {value : α} :
    (key, value) ∈ map.entries ↔ map.get? key = some value :=
  (Assoc.get?_eq_some_iff map.distinct key value).symm

/-- A map has no value for the keys that it does not have. -/
theorem get?_eq_none_iff (map : OrderedMap κ α) (key : κ) :
    map.get? key = none ↔ key ∉ map.keys :=
  Assoc.get?_eq_none_iff map.entries key

private theorem entries_insert_of_not_mem (map : OrderedMap κ α) {key : κ} (absent : key ∉ map.keys)
    (value : α) : (map.insert key value).entries = map.entries ++ [(key, value)] :=
  Assoc.insert_of_not_mem absent value

/-- The later of two values counts. -/
theorem insert_insert (map : OrderedMap κ α) (key : κ) (first second : α) :
    (map.insert key first).insert key second = map.insert key second :=
  ext_entries (Assoc.insert_insert map.entries key first second)

/-- Two maps with the same keys in the same order and the same values are the same map. -/
theorem ext_get? {first second : OrderedMap κ α} (sameKeys : first.keys = second.keys)
    (sameValues : ∀ key, first.get? key = second.get? key) : first = second :=
  ext_entries (Assoc.eq_of_get? first.distinct sameKeys sameValues)

private theorem ofList_concat (entries : List (κ × α)) (entry : κ × α) :
    ofList (entries ++ [entry]) = (ofList entries).insert entry.1 entry.2 := by
  rw [ofList, List.foldl_append]
  rfl

/-- The keys of a list of entries stand in the order of their first occurrence. -/
theorem keys_ofList (entries : List (κ × α)) :
    (ofList entries).keys = (Assoc.keys entries).eraseDups := by
  induction entries using List.reverseRecOn with
  | nil => rfl
  | append_singleton earlier entry ih =>
      have appended : Assoc.keys (earlier ++ [entry]) = Assoc.keys earlier ++ [entry.1] :=
        List.map_append
      rw [ofList_concat, keys_insert, ih, appended, eraseDups_concat]
      simp only [List.mem_eraseDups]

/-- Of a list of entries the last one under a key counts. -/
theorem get?_ofList (entries : List (κ × α)) (key : κ) :
    (ofList entries).get? key =
      (entries.filter (·.1 = key)).getLast?.map Prod.snd := by
  induction entries using List.reverseRecOn with
  | nil => rfl
  | append_singleton earlier entry ih =>
      rw [ofList_concat, get?_insert, List.filter_append, List.filter_cons, List.filter_nil]
      by_cases same : entry.1 = key
      · simp only [same, ↓reduceIte, decide_true, List.getLast?_concat, Option.map_some]
      · simp only [same, ↓reduceIte, decide_false, Bool.false_eq_true, List.append_nil, ih]

/-- A map from entries has no value that is not among them. -/
theorem mem_of_get?_ofList {entries : List (κ × α)} {key : κ} {value : α}
    (found : (ofList entries).get? key = some value) : (key, value) ∈ entries := by
  rw [get?_ofList, Option.map_eq_some_iff] at found
  obtain ⟨entry, last, rfl⟩ := found
  obtain ⟨member, same⟩ := List.mem_filter.mp (List.mem_of_getLast? last)
  exact of_decide_eq_true same ▸ member

/-- A list of entries with distinct keys makes a map of just these entries. -/
theorem entries_ofList {entries : List (κ × α)} (distinct : (Assoc.keys entries).Nodup) :
    (ofList entries).entries = entries := by
  induction entries using List.reverseRecOn with
  | nil => rfl
  | append_singleton earlier entry ih =>
      have split : (Assoc.keys earlier ++ [entry.1]).Nodup := by
        rw [Assoc.keys, List.map_append] at distinct
        exact distinct
      obtain ⟨before, -, apart⟩ := List.nodup_append.mp split
      have absent : entry.1 ∉ (ofList earlier).keys := by
        rw [keys_ofList, List.mem_eraseDups]
        exact fun member => apart _ member _ (List.mem_singleton_self _) rfl
      rw [ofList_concat, entries_insert_of_not_mem _ absent, ih before]

/-- Remove a key; the other entries keep their order. -/
def erase (map : OrderedMap κ α) (key : κ) : OrderedMap κ α where
  entries := map.entries.filter (·.1 ≠ key)
  distinct := map.distinct.sublist (List.filter_sublist.map _)

/-- The entry of one key, without the others. -/
def only (map : OrderedMap κ α) (key : κ) : OrderedMap κ α where
  entries := ((map.get? key).map (key, ·)).toList
  distinct := by cases map.get? key <;> simp [Assoc.keys]

/-- A map restricted to a key has no entry but that of the key. -/
theorem entries_only (map : OrderedMap κ α) (key : κ) :
    (map.only key).entries = ((map.get? key).map (key, ·)).toList := rfl

/-- A map restricted to a key has no other value. -/
theorem get?_only (map : OrderedMap κ α) (key other : κ) :
    (map.only key).get? other = if key = other then map.get? key else none := by
  rw [get?, entries_only]
  cases map.get? key with
  | none => exact (ite_self none).symm
  | some value => rfl

end OrderedMap

end FormValidity
