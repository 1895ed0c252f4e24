/-! # Maps in insertion order

An `OrderedMap` keeps its entries in the order in which their keys were first
inserted. Inserting a key that is already there replaces its value in place
(`OrderedMap.keys_insert`), and a look-up sees the last value inserted
(`OrderedMap.get?_insert`). The operations on the underlying association lists
stand in the namespace `Assoc`, for the places where a bare list of entries is
the data.
-/

namespace FormValidity

variable {κ α β : Type}

namespace Assoc

/-- Replace the value of `key` where it stands, or append the entry. -/
def insert [DecidableEq κ] : List (κ × α) → κ → α → List (κ × α)
  | [], key, value => [(key, value)]
  | entry :: rest, key, value =>
      if entry.1 = key then (key, value) :: rest else entry :: insert rest key value

/-- The value of the first entry under `key`. -/
def get? [DecidableEq κ] : List (κ × α) → κ → Option α
  | [], _ => none
  | entry :: rest, key => if entry.1 = key then some entry.2 else get? rest key

/-- The keys, in order. -/
def keys (entries : List (κ × α)) : List κ := entries.map Prod.fst

variable [DecidableEq κ]

/-- A look-up after an insertion sees the inserted value under its key and is
unchanged elsewhere. -/
theorem get?_insert (entries : List (κ × α)) (key other : κ) (value : α) :
    get? (insert entries key value) other =
      if key = other then some value else get? entries other := by
  induction entries with
  | nil => rfl
  | cons entry rest ih =>
      simp only [insert]
      by_cases same : entry.1 = key
      · subst same
        simp only [↓reduceIte, get?]
        split <;> simp_all
      · simp only [same, ↓reduceIte, get?, ih]
        by_cases hit : entry.1 = other
        · subst hit
          simp [Ne.symm same]
        · simp [hit]

/-- An insertion keeps the keys if the key is there and appends it otherwise. -/
theorem keys_insert (entries : List (κ × α)) (key : κ) (value : α) :
    keys (insert entries key value) =
      if key ∈ keys entries then keys entries else keys entries ++ [key] := by
  induction entries with
  | nil => simp [keys, insert]
  | cons entry rest ih =>
      simp only [insert]
      by_cases same : entry.1 = key
      · subst same
        simp [keys]
      · simp only [keys] at ih
        by_cases inside : key ∈ List.map Prod.fst rest <;>
          simp [keys, same, Ne.symm same, ih, inside]

/-- Insertion keeps keys distinct. -/
theorem nodup_keys_insert {entries : List (κ × α)} (distinct : (keys entries).Nodup) (key : κ)
    (value : α) : (keys (insert entries key value)).Nodup := by
  rw [keys_insert]
  split
  · exact distinct
  · rename_i absent
    exact List.nodup_append.2 ⟨distinct, by simp, by
      intro a inside b last same
      simp only [List.mem_singleton] at last
      exact absent (last ▸ same ▸ inside)⟩

/-- A look-up succeeds exactly on the keys. -/
theorem isSome_get?_iff (entries : List (κ × α)) (key : κ) :
    (get? entries key).isSome ↔ key ∈ keys entries := by
  induction entries with
  | nil => simp [get?, keys]
  | cons entry rest ih =>
      simp only [get?, keys, List.map_cons, List.mem_cons]
      by_cases same : entry.1 = key
      · simp [same]
      · simp only [same, ↓reduceIte, ih, keys, Ne.symm same, false_or]

end Assoc

/-- A finite map whose entries stand in the order of first insertion. -/
structure OrderedMap (κ α : Type) where
  /-- Keys and values, in order. -/
  entries : List (κ × α)
  /-- No key stands twice. -/
  distinct : (Assoc.keys entries).Nodup

namespace OrderedMap

/-- The map with no entries. -/
def empty : OrderedMap κ α := ⟨[], List.nodup_nil⟩

instance : EmptyCollection (OrderedMap κ α) := ⟨empty⟩

instance : Inhabited (OrderedMap κ α) := ⟨empty⟩

/-- The keys, in order of first insertion. -/
def keys (map : OrderedMap κ α) : List κ := Assoc.keys map.entries

/-- The values, in the order of their keys. -/
def values (map : OrderedMap κ α) : List α := map.entries.map Prod.snd

/-- How many entries there are. -/
def size (map : OrderedMap κ α) : Nat := map.entries.length

/-- Whether there is no entry. -/
def isEmpty (map : OrderedMap κ α) : Bool := map.entries.isEmpty

@[simp] theorem keys_empty : (empty : OrderedMap κ α).keys = [] := rfl

/-- No key comes twice. -/
theorem nodup_keys (map : OrderedMap κ α) : map.keys.Nodup := map.distinct

/-- Two maps with the same entries are the same map. -/
theorem ext_entries {first second : OrderedMap κ α} (same : first.entries = second.entries) :
    first = second := by
  cases first
  cases second
  cases same
  rfl

variable [DecidableEq κ]

/-- The value under a key. -/
def get? (map : OrderedMap κ α) (key : κ) : Option α := Assoc.get? map.entries key

/-- Whether a key has a value. -/
def contains (map : OrderedMap κ α) (key : κ) : Bool := (map.get? key).isSome

/-- Replace the value of a key where it stands, or append a new entry. -/
def insert (map : OrderedMap κ α) (key : κ) (value : α) : OrderedMap κ α :=
  ⟨Assoc.insert map.entries key value, Assoc.nodup_keys_insert map.distinct key value⟩

/-- Insert entries one after the other: a repeated key keeps its first place and
its last value. -/
def ofList (entries : List (κ × α)) : OrderedMap κ α :=
  entries.foldl (fun map entry => map.insert entry.1 entry.2) empty

@[simp] theorem get?_empty (key : κ) : (empty : OrderedMap κ α).get? key = none := rfl

/-- An insertion sets the value of one key. -/
theorem get?_insert (map : OrderedMap κ α) (key other : κ) (value : α) :
    (map.insert key value).get? other = if key = other then some value else map.get? other :=
  Assoc.get?_insert map.entries key other value

@[simp] theorem get?_insert_self (map : OrderedMap κ α) (key : κ) (value : α) :
    (map.insert key value).get? key = some value := by
  simp [get?_insert]

/-- An insertion does not change the values of other keys. -/
theorem get?_insert_of_ne (map : OrderedMap κ α) {key other : κ} (differ : key ≠ other)
    (value : α) :
    (map.insert key value).get? other = map.get? other := by
  simp [get?_insert, differ]

/-- A new key comes last, and the others keep their order. -/
theorem keys_insert (map : OrderedMap κ α) (key : κ) (value : α) :
    (map.insert key value).keys = if key ∈ map.keys then map.keys else map.keys ++ [key] :=
  Assoc.keys_insert map.entries key value

theorem contains_iff (map : OrderedMap κ α) (key : κ) : map.contains key ↔ key ∈ map.keys :=
  Assoc.isSome_get?_iff map.entries key

end OrderedMap

end FormValidity
