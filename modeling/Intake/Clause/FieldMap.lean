import Intake.Dict
import Intake.Schema.Field
import Intake.Clause.Predicate

/-!
# Allow-lists

Which columns of a database clients may reach, under which names and with which predicates.

Main results:

- {lit}`FieldMap` is the allow-list, with one {lit}`ColumnEntry` for each name.
- Definition {lit}`FieldMap.resolve?` gives the entry of a name if it has a column.
- Definition {lit}`Schema.fieldMap` is the allow-list that a schema declares.
-/

namespace Intake

/-- Where a field is in a database, and which predicates may filter it. -/
structure ColumnEntry where
  /-- The table. -/
  table : String
  /-- The column; without a name it cannot be used. -/
  column : String
  /-- The predicates. -/
  predicates : PredicateSet := .full
  deriving DecidableEq

/-- The entries under the names that clients use. -/
abbrev FieldMap := Dict ColumnEntry

namespace FieldMap

/-- The entry of a name, if it has a column that can be used. -/
def resolve? (fields : FieldMap) (name : String) : Option ColumnEntry :=
  (fields.get? name).filter fun entry => !entry.column.isEmpty

end FieldMap

/-- The entries of the fields of a schema that declare a column, with all predicates. -/
def Schema.fieldMap (schema : Schema) (table : String) : FieldMap :=
  Dict.ofList (schema.filterMap fun f =>
    f.attributes.column?.map fun column => (f.name, { table, column }))

end Intake
