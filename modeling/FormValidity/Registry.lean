import FormValidity.Predicate.Builtin

/-! # Registries

A registry holds the predicates that constraints can call for: built-in ones by kind
and optional sub-kind, and named ones. A host extends either table.
-/

namespace FormValidity

/-- The predicates constraints can call for. -/
structure Registry where
  /-- Predicates by kind and sub-kind. -/
  builtins : OrderedMap (String × Option String) Predicate
  /-- Predicates by name. -/
  named : OrderedMap String Predicate
  /-- What is appended to a field's name to find its confirming sibling. -/
  confirmationSuffix : String

namespace Registry

/-- The suffix of a registry that has been given none. -/
def defaultSuffix : String := "Confirmation"

/-- The registry that holds nothing. -/
def empty : Registry := ⟨.empty, .empty, defaultSuffix⟩

instance : Inhabited Registry := ⟨empty⟩

/-- Register a predicate under a kind and a sub-kind, or replace it. -/
def register (registry : Registry) (kind : String) (subKind : Option String)
    (predicate : Predicate) : Registry :=
  { registry with builtins := registry.builtins.insert (kind, subKind) predicate }

/-- Register a predicate under a name, or replace it. -/
def registerNamed (registry : Registry) (name : String) (predicate : Predicate) : Registry :=
  { registry with named := registry.named.insert name predicate }

/-- The predicate of a kind and a sub-kind. -/
def lookup (registry : Registry) (kind : String) (subKind : Option String) : Option Predicate :=
  registry.builtins.get? (kind, subKind)

/-- The predicate of a name. -/
def named? (registry : Registry) (name : String) : Option Predicate := registry.named.get? name

/-- Whether a kind and a sub-kind have a predicate. -/
def contains (registry : Registry) (kind : String) (subKind : Option String) : Bool :=
  (registry.lookup kind subKind).isSome

/-- The registry of the standard predicates. -/
def builtin : Registry :=
  empty
    |>.register "presence" none Predicate.presence
    |>.register "absence" none Predicate.absence
    |>.register "acceptance" none Predicate.acceptance
    |>.register "confirmation" none (Predicate.confirmation defaultSuffix)
    |>.register "uniqueness" none Predicate.uniqueness
    |>.register "numericality" none (Predicate.numericality {})
    |>.register "format" (some "email") (Predicate.matching Format.email)
    |>.register "format" (some "zip") (Predicate.matching Format.zip)

/-- Change the confirmation suffix. The predicate `confirmation` follows it, if the
registry holds one. -/
def withConfirmationSuffix (registry : Registry) (suffix : String) : Registry :=
  let rebound :=
    if registry.contains "confirmation" none then
      registry.register "confirmation" none (Predicate.confirmation suffix)
    else registry
  { rebound with confirmationSuffix := suffix }

end Registry

end FormValidity
