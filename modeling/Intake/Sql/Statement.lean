import Intake.Clause.Order
import Intake.Clause.Selector
import Intake.Sql.Value

/-!
# Statements

Conditions on columns become the conjuncts of a condition, and a statement is written with
placeholders or with its values.

Main results:

- {lit}`Sql.Conjunct` is one comparison; {lit}`Sql.conjunct?` makes it from a condition on a
  column if the value goes with the predicate.
- Definition {lit}`Sql.condition` makes all conjuncts, or gives the first condition that has none.
- {lit}`Sql.Statement` is a query with a condition and an order; {lit}`Sql.Statement.text`,
  {lit}`Sql.Statement.values` and {lit}`Sql.Statement.inlineText` write it.
-/

namespace Intake

/-! ## Refused values -/

namespace ColumnFilter

/-- The refusal of the value of a condition. -/
def refusal (f : ColumnFilter) : ClauseError :=
  .invalidValue f.field f.predicate.mnemonic

/-- What is reported of the refusal. -/
def rejection (f : ColumnFilter) : Event :=
  ⟨.debug, "Rejected filter value", [("field", f.field), ("predicate", f.predicate.symbol)]⟩

end ColumnFilter

namespace Sql

/-! ## Conditions -/

/-- A column of a table. -/
structure Column where
  /-- The table. -/
  table : String
  /-- The column. -/
  name : String
  deriving DecidableEq

/-- An operator between two values. -/
inductive Operator where
  /-- Equal. -/
  | equal
  /-- Not equal. -/
  | notEqual
  /-- Greater. -/
  | greater
  /-- Greater or equal. -/
  | greaterOrEqual
  /-- Less. -/
  | less
  /-- Less or equal. -/
  | lessOrEqual
  deriving DecidableEq

/-- The spelling of an operator. -/
def Operator.text : Operator → String
  | equal => "="
  | notEqual => "<>"
  | greater => ">"
  | greaterOrEqual => ">="
  | less => "<"
  | lessOrEqual => "<="

/-- One comparison of a condition. -/
inductive Conjunct where
  /-- The column has no value. -/
  | isNull (column : Column)
  /-- The column has a value. -/
  | isNotNull (column : Column)
  /-- The column compares with a value. -/
  | compare (column : Column) (operator : Operator) (value : Scalar)
  /-- The column has one of the values. -/
  | isIn (column : Column) (values : List Scalar)
  /-- The column has none of the values. -/
  | notIn (column : Column) (values : List Scalar)
  deriving DecidableEq

/-- The scalars of an array, if all of its items have one. -/
def scalars? : Json → Option (List Scalar)
  | .array items => items.mapM Scalar.ofJson?
  | _ => none

/-- The comparison that a condition on a column asks for, if its value goes with its predicate:
null with equality alone, an array with membership, and a scalar with all else. -/
def conjunct? (f : ColumnFilter) : Option Conjunct :=
  let column : Column := ⟨f.table, f.column⟩
  let compare (operator : Operator) := (Scalar.ofJson? f.value).map (.compare column operator)
  match f.predicate, f.value with
  | .equal, .null => some (.isNull column)
  | .notEqual, .null => some (.isNotNull column)
  | .isIn, value => (scalars? value).map (.isIn column)
  | .notIn, value => (scalars? value).map (.notIn column)
  | .equal, _ => compare .equal
  | .notEqual, _ => compare .notEqual
  | .greater, _ => compare .greater
  | .greaterOrEqual, _ => compare .greaterOrEqual
  | .less, _ => compare .less
  | .lessOrEqual, _ => compare .lessOrEqual

/-- The conjuncts of conditions on columns, in order, or the first one that has none. -/
def condition : List ColumnFilter → Except ColumnFilter (List Conjunct)
  | [] => .ok []
  | f :: rest =>
    match conjunct? f with
    | none => .error f
    | some conjunct => (condition rest).map (conjunct :: ·)

/-! ## Writing -/

/-- A piece of a statement. -/
inductive Piece where
  /-- A fixed text. -/
  | text (s : String)
  /-- The place of a value. -/
  | value (s : Scalar)

/-- A name between double quotes, with those inside it doubled. -/
def identifier (s : String) : String :=
  String.ofList ('\x22' ::
    s.toList.flatMap (fun c => if c = '\x22' then ['\x22', '\x22'] else [c]) ++ ['\x22'])

/-- A column with its table. -/
def Column.text (c : Column) : String :=
  identifier c.table ++ "." ++ identifier c.name

/-- Pieces with a fixed text between them. -/
def separated (separator : String) : List (List Piece) → List Piece
  | [] => []
  | [pieces] => pieces
  | pieces :: rest => pieces ++ .text separator :: separated separator rest

/-- Membership in a list of values; without values a comparison of two numbers that always gives
the same result stands in its place. -/
def membership (column : Column) (keyword : String) (second : Int) (values : List Scalar) :
    List Piece :=
  if values.isEmpty then [.value (.int 1), .text " = ", .value (.int second)]
  else
    .text (column.text ++ " " ++ keyword ++ " (") ::
      separated ", " (values.map fun value => [.value value]) ++ [.text ")"]

/-- The pieces of a comparison. -/
def Conjunct.pieces : Conjunct → List Piece
  | isNull column => [.text (column.text ++ " IS NULL")]
  | isNotNull column => [.text (column.text ++ " IS NOT NULL")]
  | compare column operator value =>
    [.text (column.text ++ " " ++ operator.text ++ " "), .value value]
  | isIn column values => membership column "IN" 2 values
  | notIn column values => membership column "NOT IN" 1 values

/-- A query of all columns of a table. -/
structure Statement where
  /-- The conjuncts of the condition. -/
  conjuncts : List Conjunct
  /-- The order of the rows. -/
  orders : List ColumnOrder

namespace Statement

/-- The pieces of the condition; without conjuncts all rows satisfy it. -/
def conditionPieces (s : Statement) : List Piece :=
  if s.conjuncts.isEmpty then [.text "TRUE"]
  else separated " AND " (s.conjuncts.map Conjunct.pieces)

/-- The text of an order by a column. -/
def orderText (o : ColumnOrder) : String :=
  (⟨o.table, o.column⟩ : Column).text ++ " " ++ o.direction.keyword

/-- The pieces of the order; without columns there are none. -/
def orderPieces (s : Statement) : List Piece :=
  if s.orders.isEmpty then []
  else [.text (" ORDER BY " ++ ", ".intercalate (s.orders.map orderText))]

/-- The pieces of the query. -/
def pieces (s : Statement) : List Piece :=
  .text "SELECT * FROM \"t\" WHERE " :: s.conditionPieces ++ s.orderPieces

/-- The text of pieces with placeholders, counted from {lit}`n` on. -/
def placeholderText (n : Nat) : List Piece → String
  | [] => ""
  | .text s :: rest => s ++ placeholderText n rest
  | .value _ :: rest => "$" ++ toString n ++ placeholderText (n + 1) rest

/-- The query with placeholders. -/
def text (s : Statement) : String :=
  placeholderText 1 s.pieces

/-- The values of the placeholders. -/
def values (s : Statement) : List Scalar :=
  s.pieces.filterMap fun piece =>
    match piece with
    | .text _ => none
    | .value value => some value

/-- The query with its values written in. -/
def inlineText (s : Statement) : String :=
  String.join (s.pieces.map fun piece =>
    match piece with
    | .text s => s
    | .value value => value.literal)

end Statement

end Sql

end Intake
