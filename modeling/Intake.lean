import Intake.Clause.Update
import Intake.Endpoint
import Intake.ListQuery
import Intake.Proofs.Dict
import Intake.Proofs.Objects
import Intake.Proofs.Pick
import Intake.Proofs.Schema
import Intake.Proofs.Coerce
import Intake.Proofs.Validate
import Intake.Proofs.Canonical
import Intake.Proofs.Conformance
import Intake.Proofs.Resolution
import Intake.Proofs.FilterForms
import Intake.Proofs.Lookup
import Intake.Proofs.Query
import Intake.Proofs.PathPriority
import Intake.Proofs.MalformedKeys
import Intake.Proofs.Undeclared
import Intake.Proofs.DeclaredSources
import Intake.Proofs.FirstViolation
import Intake.Proofs.Condition
import Intake.Proofs.Disclosure
import Intake.Proofs.Registered
import Intake.Proofs.Renaming
import Intake.Proofs.FieldOrder
import Intake.Proofs.Depth
import Intake.Proofs.PickedUpdates
import Intake.Proofs.Responses
import Intake.Proofs.SchemaProblems
import Intake.Proofs.Projection
import Intake.Proofs.Rounding
import Intake.Proofs.Spelling
import Intake.Proofs.IntCoercion
import Intake.Proofs.NumericRules
import Intake.Proofs.RepeatedCoercion
import Intake.Proofs.CleanedBody
import Intake.Proofs.WrittenValues
import Intake.Proofs.SortOrders
import Intake.Proofs.WireValues
import Intake.Proofs.CookieHeaders
import Intake.Proofs.FilterRoundTrip
import Intake.Proofs.Identifiers
import Intake.Proofs.NumericCoercion
