import FormValidity.Form.Config.Loading
import FormValidity.Inspection.Rules
import FormValidity.Json.Writing
import FormValidity.Model.Reading
import FormValidity.Schema.Reading
import FormValidity.Value.LooseEq
import FormValidity.Proofs.Constraint.LengthSpelling
import FormValidity.Proofs.Constraint.Precedence
import FormValidity.Proofs.Engine.History
import FormValidity.Proofs.Field.Conjunction
import FormValidity.Proofs.Form.AbandonedKey
import FormValidity.Proofs.Form.Assignment
import FormValidity.Proofs.Form.Config.Override
import FormValidity.Proofs.Form.Overwrite
import FormValidity.Proofs.Form.Pathless
import FormValidity.Proofs.Form.QualifiedName
import FormValidity.Proofs.Form.Rendering
import FormValidity.Proofs.Form.SharedKey
import FormValidity.Proofs.Predicate.Format
import FormValidity.Proofs.Predicate.IntegerIdentity
import FormValidity.Proofs.Predicate.Numeral
import FormValidity.Proofs.Predicate.NumericReading
import FormValidity.Proofs.Predicate.Uniqueness
import FormValidity.Proofs.Registry.Confirmation
import FormValidity.Proofs.Registry.RegistrationOrder
import FormValidity.Proofs.Schema.Entrywise
import FormValidity.Proofs.Schema.Extension
import FormValidity.Proofs.Schema.Noninterference
import FormValidity.Proofs.Schema.Vacuity
import FormValidity.Proofs.Value.LooseEq
