import Intake.Clause.FieldMap
import Intake.Event
import Intake.Json.Embedded

/-!
# Filters

Clients filter by one condition per field.  The conditions are read from JSON, where a bare value
stands for equality and an array for membership, and are resolved through an allow-list.

Main results:

- {lit}`Selector` is one condition, {lit}`Selectors` the conditions under their fields.
- Definition {lit}`Selector.ofJson` reads a condition, {lit}`Selectors.ofJson` all of them.
- Definition {lit}`Selectors.resolve` gives the conditions on columns, in the order of the
  fields, or the first refusal.
-/

namespace Intake

/-! ## Conditions -/

/-- A condition: a predicate as the client wrote it, and the value to compare with. -/
structure Selector where
  /-- The text for the predicate. -/
  predicate : String
  /-- The value. -/
  value : Json

namespace Selector

/-- The condition that a value states in full: an object of just a predicate and a value, or an
array of the two. -/
def explicit? : Json → Option Selector
  | .object [("predicate", .string predicate), ("value", value)]
  | .object [("value", value), ("predicate", .string predicate)]
  | .array [.string predicate, value] => some ⟨predicate, value⟩
  | _ => none

/-- The condition that a bare value stands for: membership in an array, or else equality. -/
def bare : Json → Selector
  | .array items => ⟨Predicate.isIn.mnemonic, .array items⟩
  | value => ⟨Predicate.equal.mnemonic, value⟩

/-- Reads a condition.  Whether it is stated in full is seen before the texts that are embedded in
the value are read, and what a bare value stands for is seen after that. -/
def ofJson (value : Json) : Except FormError Selector :=
  let selector? :=
    match explicit? value with
    | some ⟨predicate, value⟩ => value.canonical.map (Selector.mk predicate)
    | none => value.canonical.map bare
  selector?.mapError fun _ => .noCondition

/-- The condition as a value, stated in full. -/
def toJson (s : Selector) : Json :=
  .object [("predicate", .string s.predicate), ("value", s.value)]

end Selector

/-- Conditions under their fields. -/
abbrev Selectors := Dict Selector

/-! ## Conditions on columns -/

/-- A condition on a column; the field is kept for messages. -/
structure ColumnFilter where
  /-- The field. -/
  field : String
  /-- The table. -/
  table : String
  /-- The column. -/
  column : String
  /-- The predicate. -/
  predicate : Predicate
  /-- The value. -/
  value : Json

namespace Selectors

/-- Reads conditions from an object; of several under one field the last one stays. -/
def ofJson : Json → Except FormError Selectors
  | .object entries => do
    let selectors ← entries.mapM fun entry => (Selector.ofJson entry.2).map (entry.1, ·)
    return Dict.ofList selectors
  | value => .error (.unexpected value "a map")

/-- Reads conditions from a JSON text. -/
def read? (text : String) : Option Selectors :=
  (Json.readOrdered text).toOption.bind fun value => (ofJson value).toOption

/-- The conditions as a value. -/
def toJson (selectors : Selectors) : Json :=
  .object (selectors.entries.map fun entry => (entry.1, entry.2.toJson))

/-- The predicate of a condition if the field may be filtered by it. -/
def allowed? (entry : ColumnEntry) (selector : Selector) : Option Predicate :=
  (Predicate.parse? selector.predicate).filter entry.predicates.contains

/-- Resolves one condition. -/
def resolveOne (fields : FieldMap) (name : String) (selector : Selector) :
    Except ClauseError ColumnFilter :=
  match fields.resolve? name with
  | none => .error (.invalidField name)
  | some entry =>
    match allowed? entry selector with
    | none => .error (.invalidPredicate name selector.predicate)
    | some predicate => .ok ⟨name, entry.table, entry.column, predicate, selector.value⟩

/-- Resolves all conditions, or gives the first refusal. -/
def resolve (fields : FieldMap) (selectors : Selectors) :
    Except ClauseError (List ColumnFilter) :=
  selectors.entries.mapM fun entry => resolveOne fields entry.1 entry.2

/-- What is reported of a refusal. -/
def rejection : ClauseError → Event
  | .invalidPredicate field token =>
    ⟨.debug, "Rejected filter predicate", [("field", field), ("predicate", token)]⟩
  | e => ⟨.debug, "Rejected filter on field outside the allow-list", [("field", e.field)]⟩

end Selectors

end Intake
