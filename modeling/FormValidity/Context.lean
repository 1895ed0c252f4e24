import FormValidity.FieldPath
import FormValidity.Value.Basic

/-! # What a predicate may see

Besides the value under test a predicate sees the path of its field and, through the
form, the committed values of other fields and the records of models.
-/

namespace FormValidity

/-- What a form shows to predicates. -/
structure Context where
  /-- The committed value under a name, if there is one. -/
  fieldValue? : String → Option Value
  /-- The known records of a model. -/
  records : String → List Value

namespace Context

/-- The context without fields and records. -/
def empty : Context := ⟨fun _ => none, fun _ => []⟩

/-- The context of stored values and records. -/
def ofMaps (values : OrderedMap String Value) (records : OrderedMap String (List Value)) :
    Context :=
  ⟨values.get?, fun model => (records.get? model).getD []⟩

end Context

/-- Where a predicate is evaluated: at a field of a form. -/
structure Site where
  field : FieldPath
  form : Context

namespace Site

/-- The committed value of another field. -/
def sibling? (site : Site) (name : String) : Option Value := site.form.fieldValue? name

/-- The records of the field's model; a field without one belongs to the model of
the empty name. -/
def records (site : Site) : List Value := site.form.records (site.field.model.getD "")

end Site

end FormValidity
