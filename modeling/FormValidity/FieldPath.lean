/-! # Field paths

A field is named by an attribute and, mostly, the model it belongs to:
`user.password` is the attribute `password` of the model `user`. Its displayed path
is the key of its committed value.
-/

namespace FormValidity

/-- The qualified name of a field. -/
structure FieldPath where
  model : Option String
  attributeName : String
  deriving DecidableEq, Repr

namespace FieldPath

/-- The path of an attribute; an empty model is no model. -/
def make (model : Option String) (attributeName : String) : FieldPath :=
  ⟨model.filter (· ≠ ""), attributeName⟩

/-- A text before and after its first dot, if it has one. -/
def splitAtDot? : List Char → Option (List Char × List Char)
  | [] => none
  | c :: rest =>
      if c = '.' then some ([], rest)
      else (splitAtDot? rest).map fun (before, after) => (c :: before, after)

/-- The path a qualified name denotes: the model stands before the first dot. -/
def parse (qualified : String) : FieldPath :=
  match splitAtDot? qualified.toList with
  | some (model, rest) => make (some (String.ofList model)) (String.ofList rest)
  | none => make none qualified

/-- The qualified name of a path. -/
def display (path : FieldPath) : String :=
  match path.model with
  | some model => model ++ "." ++ path.attributeName
  | none => path.attributeName

/-- The name of the sibling that confirms a field. -/
def confirmationName (path : FieldPath) (suffix : String) : String := path.display ++ suffix

/-- The pieces of a text between its dots. -/
def splitDots : List Char → List (List Char)
  | [] => [[]]
  | c :: rest =>
      match splitDots rest with
      | [] => [[]]
      | piece :: pieces => if c = '.' then [] :: piece :: pieces else (c :: piece) :: pieces

end FieldPath

end FormValidity
