import Intake.Json.Value

/-!
# Values of SQL

The values that statements carry, bound to placeholders or written in.

Main results:

- {lit}`Sql.Scalar` is a value that can be compared, {lit}`Sql.Value` one that can be assigned.
- Definition {lit}`Sql.Scalar.ofJson?` is the scalar of a JSON value, and {lit}`Sql.Value.ofJson`
  the value that is assigned for it.
- Definition {lit}`Sql.Scalar.literal` writes a scalar into a statement.
-/

namespace Intake.Sql

/-- A value that can be compared. -/
inductive Scalar where
  /-- A truth value. -/
  | bool (b : Bool)
  /-- An integer of 32 bits. -/
  | int (n : Int)
  /-- An integer of 64 bits with a sign. -/
  | bigInt (n : Int)
  /-- An integer of 64 bits without a sign. -/
  | bigUnsigned (n : Int)
  /-- A double. -/
  | double (x : Double)
  /-- A text. -/
  | text (s : String)
  deriving DecidableEq

namespace Scalar

/-- The scalar of a number: an integer with a sign if 64 bits hold it so. -/
def ofNumber : Json.Number → Scalar
  | .integer n => if n.val ≤ maxInt64 then .bigInt n.val else .bigUnsigned n.val
  | .double x => .double x

/-- The scalar of a JSON value; null, arrays and objects have none. -/
def ofJson? : Json → Option Scalar
  | .bool b => some (.bool b)
  | .number n => some (ofNumber n)
  | .string s => some (.text s)
  | _ => none

/-! ## Literals -/

/-- What one character becomes in a literal with escapes, if it needs one. -/
def escape? (c : Char) : Option Char :=
  if c = '\\' then some '\\'
  else if c = '\x22' then some '\x22'
  else if c = '\'' then some '\''
  else if c = '\x00' then some '0'
  else if c = '\x08' then some 'b'
  else if c = '\t' then some 't'
  else if c = '\x1a' then some 'z'
  else if c = '\n' then some 'n'
  else if c = '\r' then some 'r'
  else none

/-- The characters of a literal in place of one character. -/
def literalChar (c : Char) : List Char :=
  match escape? c with
  | some e => ['\\', e]
  | none => [c]

/-- A text as a literal; one with escapes is marked. -/
def textLiteral (s : String) : String :=
  let cs := s.toList
  let marker := if cs.any fun c => (escape? c).isSome then "E'" else "'"
  marker ++ String.ofList (cs.flatMap literalChar) ++ "'"

/-- A scalar as a literal. -/
def literal : Scalar → String
  | bool true => "TRUE"
  | bool false => "FALSE"
  | int n | bigInt n | bigUnsigned n => toString n
  | double x => DoubleLayout.plain.write x
  | text s => textLiteral s

end Scalar

/-- A value that can be assigned. -/
inductive Value where
  /-- A scalar. -/
  | scalar (s : Scalar)
  /-- The null of texts. -/
  | null
  /-- A JSON array or object. -/
  | json (value : Json)

/-- The value that is assigned for a JSON value. -/
def Value.ofJson (value : Json) : Value :=
  match Scalar.ofJson? value with
  | some s => .scalar s
  | none =>
    match value with
    | .array _ | .object _ => .json value
    | _ => .null

end Intake.Sql
