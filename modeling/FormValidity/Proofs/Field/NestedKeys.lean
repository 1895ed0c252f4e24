import FormValidity.Field.Descriptor
import Mathlib.Data.List.Basic

/-! # Nested predicates of one kind

The keys of an object constraint that name built-in predicates share one descriptor. There is
none if the registry holds none of the keys (`Descriptor.ofKeys?_eq_none_iff`). Otherwise its
test accepts what the predicates of all known keys accept (`Descriptor.accepts_of_ofKeys?`),
although the test stops at the first part that does not accept.
-/

namespace FormValidity

namespace Descriptor

private theorem mem_resolveKeys_iff (registry : Registry) (kind : String) (keys : List String)
    (entry : String × Predicate) :
    entry ∈ resolveKeys registry kind keys ↔
      entry.1 ∈ keys ∧ registry.lookup kind (some entry.1) = some entry.2 := by
  unfold resolveKeys
  rw [List.mem_filterMap]
  constructor
  · rintro ⟨key, asked, resolved⟩
    obtain ⟨test, found, rfl⟩ := Option.map_eq_some_iff.mp resolved
    exact ⟨asked, found⟩
  · rintro ⟨asked, found⟩
    exact ⟨entry.1, asked, by rw [found, Option.map_some]⟩

/-- Nested keys give no predicate exactly if none of them is known. -/
theorem ofKeys?_eq_none_iff (registry : Registry) (kind : String) (keys : List String) :
    ofKeys? registry kind keys = none ↔ ∀ key ∈ keys, registry.lookup kind (some key) = none := by
  have resolved : resolveKeys registry kind keys = [] ↔
      ∀ key ∈ keys, registry.lookup kind (some key) = none := by
    simp only [resolveKeys, List.filterMap_eq_nil_iff, Option.map_eq_none_iff]
  rw [← resolved]
  cases found : resolveKeys registry kind keys with
  | nil => simp only [ofKeys?, found]
  | cons first others => cases others <;> simp only [ofKeys?, found, reduceCtorEq]

/-- The joint test of nested predicates accepts what each of them accepts that the registry
holds. Keys that it does not hold say nothing, and neither order nor repetition counts. -/
theorem accepts_of_ofKeys? {registry : Registry} {kind rule : String} {keys : List String}
    {test : Predicate} (found : ofKeys? registry kind keys = some (rule, test)) (value : Value)
    (site : Site) :
    (test value site).accepts ↔ ∀ key ∈ keys, ∀ part,
      registry.lookup kind (some key) = some part → (part value site).accepts := by
  have all : (test value site).accepts ↔
      ∀ entry ∈ resolveKeys registry kind keys, (entry.2 value site).accepts := by
    unfold ofKeys? at found
    split at found
    · cases found
    · next single =>
        cases found
        simp only [single, List.mem_singleton, forall_eq]
    · cases found
      rw [Predicate.accepts_all, List.all_map, List.all_eq_true]
      rfl
  rw [all]
  constructor
  · intro accepted key asked part held
    exact accepted (key, part) ((mem_resolveKeys_iff registry kind keys _).mpr ⟨asked, held⟩)
  · intro accepted entry member
    obtain ⟨asked, held⟩ := (mem_resolveKeys_iff registry kind keys entry).mp member
    exact accepted entry.1 asked entry.2 held

end Descriptor

end FormValidity
