import Intake.Event
import Intake.Json.Reader
import Intake.Json.Writer
import Intake.Clause.FieldMap

/-!
# Orders

Clients sort by fields in order of priority, each with one direction.  Orders are read from an
object or from a flat array and resolved through an allow-list.

Main results:

- {lit}`Direction` is ascending or descending; {lit}`Direction.parse?` knows two words for each.
- {lit}`Orders` lists fields with their directions, and {lit}`Orders.insert` keeps one direction
  for each field.
- Definition {lit}`Orders.resolve` gives the orders by columns or the first refusal.
-/

namespace Intake

/-! ## Directions -/

/-- A direction. -/
inductive Direction where
  /-- From the least to the greatest. -/
  | ascending
  /-- From the greatest to the least. -/
  | descending
  deriving DecidableEq

namespace Direction

/-- The direction that a text names, in any letter case. -/
def parse? (token : String) : Option Direction :=
  let token := Text.asciiLower token
  if token = "asc" ∨ token = "ascending" then some ascending
  else if token = "desc" ∨ token = "descending" then some descending
  else none

/-- The keyword of a direction. -/
def keyword : Direction → String
  | ascending => "ASC"
  | descending => "DESC"

end Direction

/-! ## Orders -/

/-- Fields with the texts for their directions, in order of priority. -/
abbrev Orders := List (String × String)

/-- An order by a column. -/
structure ColumnOrder where
  /-- The table. -/
  table : String
  /-- The column. -/
  column : String
  /-- The direction. -/
  direction : Direction
  deriving DecidableEq

namespace Orders

/-- Puts a field last, or gives it another direction in its place. -/
def insert : Orders → String → String → Orders
  | [], field, direction => [(field, direction)]
  | (f, d) :: rest, field, direction =>
    if f = field then (f, direction) :: rest else (f, d) :: insert rest field direction

/-- Puts fields in, one after the other. -/
def insertAll (orders : Orders) (pairs : List (String × String)) : Orders :=
  pairs.foldl (fun orders pair => orders.insert pair.1 pair.2) orders

/-- The orders of pairs that are put in one after the other. -/
def ofPairs (pairs : List (String × String)) : Orders :=
  insertAll [] pairs

/-- The text for the direction of a field. -/
def get? (orders : Orders) (field : String) : Option String :=
  orders.lookup field

/-! ## Reading -/

/-- Reads the entries of an object as fields with directions. -/
def readEntries : List (String × Json) → Except FormError (List (String × String))
  | [] => .ok []
  | (field, value) :: rest => do
    let direction ← value.readText
    return (field, direction) :: (← readEntries rest)

/-- Reads the items of an array as fields and directions in turn. -/
def readItems : List Json → Except FormError (List (String × String))
  | [] => .ok []
  | [last] => do
    let field ← last.readText
    .error (.missingDirection field)
  | first :: second :: rest => do
    let field ← first.readText
    let direction ← second.readText
    return (field, direction) :: (← readItems rest)

/-- Reads orders from an object or from a flat array. -/
def ofJson : Json → Except FormError Orders
  | .object entries => (readEntries entries).map ofPairs
  | .array items => (readItems items).map ofPairs
  | value =>
    .error (.unexpected value
      "an object of field directions or an array like [\"field\", \"ASC\"]")

/-- Reads orders from a JSON text; the entries of an object come in the order of the text. -/
def read? (text : String) : Option Orders :=
  (Json.readOrdered text).toOption.bind fun value => (ofJson value).toOption

/-- The orders as an object, in order of priority. -/
def toJson (orders : Orders) : Json :=
  .object (orders.map fun entry => (entry.1, .string entry.2))

/-- The orders as a JSON text. -/
def write (orders : Orders) : String :=
  orders.toJson.write

/-! ## Orders by columns -/

/-- Resolves one order. -/
def resolveOne (fields : FieldMap) (name token : String) :
    Except ClauseError ColumnOrder :=
  match fields.resolve? name with
  | none => .error (.invalidOrderField name)
  | some entry =>
    match Direction.parse? token with
    | none => .error (.invalidDirection name token)
    | some direction => .ok ⟨entry.table, entry.column, direction⟩

/-- Resolves all orders, or gives the first refusal. -/
def resolve (fields : FieldMap) (orders : Orders) :
    Except ClauseError (List ColumnOrder) :=
  orders.mapM fun entry => resolveOne fields entry.1 entry.2

/-- What is reported of a refusal. -/
def rejection : ClauseError → Event
  | .invalidDirection field token =>
    ⟨.debug, "Rejected order direction", [("field", field), ("direction", token)]⟩
  | e => ⟨.debug, "Rejected order on field outside the allow-list", [("field", e.field)]⟩

end Orders

end Intake
