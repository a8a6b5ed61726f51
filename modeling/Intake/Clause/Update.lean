import Intake.Clause.FieldMap
import Intake.Event
import Intake.Json.Embedded

/-!
# Updates

Clients assign values to fields.  The assignments are resolved through an allow-list and their
values pass as they are.

Main results:

- {lit}`Updates` holds values under fields.
- Definition {lit}`Updates.resolve` gives the assignments to columns, in the order of the
  fields, or the first refusal.
-/

namespace Intake

/-- Values under the fields that they are assigned to. -/
abbrev Updates := Dict Json

/-- An assignment to a column. -/
structure ColumnUpdate where
  /-- The table. -/
  table : String
  /-- The column. -/
  column : String
  /-- The value. -/
  value : Json

namespace Updates

/-- Reads assignments from an object; of several to one field the last one stays. -/
def ofJson : Json → Except FormError Updates
  | .object entries =>
    ((Json.canonicalEntries entries).mapError .embedded).map Dict.ofList
  | value => .error (.unexpected value "a map")

/-- Reads assignments from a JSON text. -/
def read? (text : String) : Option Updates :=
  (Json.readOrdered text).toOption.bind fun value => (ofJson value).toOption

/-- Resolves one assignment. -/
def resolveOne (fields : FieldMap) (name : String) (value : Json) :
    Except ClauseError ColumnUpdate :=
  match fields.resolve? name with
  | none => .error (.invalidField name)
  | some entry => .ok ⟨entry.table, entry.column, value⟩

/-- Resolves all assignments, or gives the first refusal. -/
def resolve (fields : FieldMap) (updates : Updates) :
    Except ClauseError (List ColumnUpdate) :=
  updates.entries.mapM fun entry => resolveOne fields entry.1 entry.2

/-- What is reported of a refusal. -/
def rejection (e : ClauseError) : Event :=
  ⟨.debug, "Rejected update of field outside the allow-list", [("field", e.field)]⟩

end Updates

end Intake
