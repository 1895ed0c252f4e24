import FormValidity.Registry

/-! # Registrations

A host extends a registry by registrations, one after the other (`Registry.addAll`). If each
of them takes a key that the registry does not hold, the result holds every predicate of the
registry under its old key (`Registry.extends_addAll`). The registrations may meet among
themselves: then the last one of a key counts, and the keys of the registry stay untouched.
-/

namespace FormValidity

/-- A predicate that a host registers, with its key. -/
inductive Registration where
  | builtin (kind : String) (subKind : Option String) (predicate : Predicate)
  | named (name : String) (predicate : Predicate)

namespace Registry

def add (registry : Registry) : Registration → Registry
  | .builtin kind subKind predicate => registry.register kind subKind predicate
  | .named name predicate => registry.registerNamed name predicate

def addAll (registry : Registry) (registrations : List Registration) : Registry :=
  registrations.foldl add registry

/-- The registry holds no predicate under the key of a registration. -/
def Lacks (registry : Registry) : Registration → Prop
  | .builtin kind subKind _ => registry.lookup kind subKind = none
  | .named name _ => registry.named? name = none

/-- One registry holds all predicates of another one, under the same keys. -/
structure Extends (larger smaller : Registry) : Prop where
  lookup : ∀ kind subKind predicate, smaller.lookup kind subKind = some predicate →
    larger.lookup kind subKind = some predicate
  named? : ∀ name predicate, smaller.named? name = some predicate →
    larger.named? name = some predicate

variable {larger smaller : Registry}

private theorem Extends.refl (registry : Registry) : registry.Extends registry :=
  ⟨fun _ _ _ found => found, fun _ _ found => found⟩

/-- A registration under a key that the smaller registry lacks extends it. -/
theorem Extends.add (extension : larger.Extends smaller) {registration : Registration}
    (lacks : smaller.Lacks registration) : (larger.add registration).Extends smaller := by
  cases registration with
  | builtin kind subKind predicate =>
      refine ⟨fun otherKind otherSubKind other found => ?_, extension.named?⟩
      have differ : (kind, subKind) ≠ (otherKind, otherSubKind) := by
        intro same
        cases same
        cases lacks.symm.trans found
      exact (larger.builtins.get?_insert_of_ne differ predicate).trans
        (extension.lookup otherKind otherSubKind other found)
  | named name predicate =>
      refine ⟨extension.lookup, fun otherName other found => ?_⟩
      have differ : name ≠ otherName := by
        intro same
        cases same
        cases lacks.symm.trans found
      exact (larger.named.get?_insert_of_ne differ predicate).trans
        (extension.named? otherName other found)

/-- Registrations of keys that a registry lacks extend the registry. -/
theorem extends_addAll {registrations : List Registration}
    (lacks : ∀ registration ∈ registrations, smaller.Lacks registration) :
    (smaller.addAll registrations).Extends smaller := by
  -- The keys are compared with those of the first registry, so that one stays fixed.
  suffices grows : ∀ larger : Registry, larger.Extends smaller →
      (larger.addAll registrations).Extends smaller from grows smaller (.refl smaller)
  induction registrations with
  | nil => exact fun _ extension => extension
  | cons registration rest ih =>
      intro larger extension
      have others : ∀ other ∈ rest, smaller.Lacks other := fun other member =>
        lacks other (List.mem_cons_of_mem registration member)
      exact ih others _ (extension.add (lacks registration List.mem_cons_self))

end Registry

end FormValidity
