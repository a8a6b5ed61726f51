import Intake.ApiError
import Intake.Request.Wire
import Intake.Sql.Statement

/-!
# Queries for lists

A client asks for a list with a filter and an order, each as a JSON text, and receives what the
allow-list admits.

Main results:

- {lit}`ListQuery` holds the two texts; {lit}`ListQuery.ofTarget?` takes them from the target of a
  request.
- Definition {lit}`ListQuery.plan` reads and resolves them; {lit}`ListFailure` says where it
  fails first.
-/

namespace Intake

/-- A filter and an order, as JSON texts. -/
structure ListQuery where
  /-- The filter. -/
  filter : Option String
  /-- The order. -/
  sort : Option String

/-- A resolved query for a list. -/
structure ListPlan where
  /-- The conditions on columns. -/
  filters : List ColumnFilter
  /-- The query. -/
  statement : Sql.Statement

/-- Where a query for a list fails. -/
inductive ListFailure where
  /-- The filter is no JSON object. -/
  | malformedFilter
  /-- The order is no JSON object or array. -/
  | malformedSort
  /-- The filter is not allowed. -/
  | filter (e : ClauseError)
  /-- The order is not allowed. -/
  | order (e : ClauseError)
  /-- A value does not go with its predicate. -/
  | value (f : ColumnFilter)

namespace ListFailure

/-- The error that a client receives. -/
def toApiError : ListFailure → ApiError
  | malformedFilter => .badRequest "filter must be a JSON object"
  | malformedSort => .badRequest "sort must be a JSON object or array"
  | filter e => .ofClause e
  | order e => .ofClause e
  | value f => .ofClause f.refusal

/-- What is reported of a failure before the response is built. -/
def event : ListFailure → Event
  | malformedFilter => ⟨.debug, "Rejected malformed filter parameter", []⟩
  | malformedSort => ⟨.debug, "Rejected malformed sort parameter", []⟩
  | filter e => Selectors.rejection e
  | order e => Orders.rejection e
  | value f => f.rejection

end ListFailure

namespace ListQuery

/-- The one value of a name among pairs, if there is one; several are refused. -/
def single (pairs : Pairs) (name : String) : Option (Option String) :=
  match valuesOf pairs name with
  | [] => some none
  | [value] => some (some value)
  | _ => none

/-- Takes the two texts from the query string of a target; none of them may come twice. -/
def ofTarget? (target : Target) : Option ListQuery := do
  let pairs := Text.formPairs (target.query?.getD "").toList
  let filter ← single pairs "filter"
  let sort ← single pairs "sort"
  return ⟨filter, sort⟩

/-- Reads a text unless it is missing or blank. -/
def readPresent {α : Type} (none : α) (read? : String → Option α) (text : Option String) :
    Option α :=
  let trimmed := Text.trim (text.getD "")
  if trimmed.isEmpty then some none else read? trimmed

/-- The conditions of the filter. -/
def selectors (q : ListQuery) : Except ListFailure Selectors :=
  match readPresent ∅ Selectors.read? q.filter with
  | some selectors => .ok selectors
  | none => .error .malformedFilter

/-- The fields to sort by. -/
def orders (q : ListQuery) : Except ListFailure Orders :=
  match readPresent [] Orders.read? q.sort with
  | some orders => .ok orders
  | none => .error .malformedSort

/-- Reads and resolves the filter, then the order, and then makes the condition. -/
def plan (fields : FieldMap) (q : ListQuery) : Except ListFailure ListPlan := do
  let selectors ← q.selectors
  let filters ← (selectors.resolve fields).mapError .filter
  let orders ← q.orders
  let columns ← (orders.resolve fields).mapError .order
  let conjuncts ← (Sql.condition filters).mapError .value
  return ⟨filters, ⟨conjuncts, columns⟩⟩

end ListQuery

end Intake
