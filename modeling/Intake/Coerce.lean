import Intake.Json.Walk
import Intake.Schema.Field
import Intake.Text.Blank

/-!
# Coercing values

Query strings, headers and cookies carry texts alone, and clients are loose about the kind of a
value.  A value is moved towards the type that its field declares, and one that cannot be moved
stays as it is.

Main results:

- Definition {lit}`coerce` moves one value towards a type.
- Definition {lit}`coerceObject` moves the values of an object towards the types of a schema.
-/

namespace Intake

/-! ## Single values -/

/-- The integer of 64 bits that a number stands for: itself, or a whole double up to two to the
power 63, which is cut to the greatest integer. -/
def Json.Number.wholeInt64? (n : Json.Number) : Option Int :=
  match n.toInt64? with
  | some m => some m
  | none =>
    match n.toBinary64 with
    | .finite x =>
      x.toInt?.bind fun m =>
        if minInt64 ≤ m ∧ m ≤ maxInt64 + 1 then some (min m maxInt64) else none
    | _ => none

/-- An integer as a value, if it is in range. -/
def Json.ofInt? (n : Int) : Option Json :=
  (Json.Integer.ofInt? n).map fun m => .number (.integer m)

/-- A double as a value, if it is finite. -/
def Json.ofBinary64? : Binary64 → Option Json
  | .finite x => some (.number (.double x))
  | _ => none

/-- The spellings of the two truth values. -/
def readBool? (s : String) : Option Bool :=
  if ["1", "t", "T", "true", "TRUE", "True", "yes", "on"].contains s then some true
  else if ["0", "f", "F", "false", "FALSE", "False", "no", "off"].contains s then some false
  else none

/-- The value as an integer, if it stands for one. -/
def Json.asInt? : Json → Option Json
  | .string s => (readInt? (Text.trim s)).bind Json.ofInt?
  | .number n => n.wholeInt64?.bind Json.ofInt?
  | .bool b => some (Json.ofBit b)
  | _ => none

/-- A text or a truth value as a double, if it stands for one. -/
def Json.asFloat? : Json → Option Json
  | .string s => (Binary64.read? (Text.trim s)).bind Json.ofBinary64?
  | .bool b => Json.ofBinary64? (.ofInt (if b then 1 else 0))
  | _ => none

/-- A text or a number as a truth value, if it stands for one. -/
def Json.asBool? : Json → Option Json
  | .string s => (readBool? (Text.trim s)).map .bool
  | .number n => some (.bool (!n.toBinary64.eq .zero))
  | _ => none

/-- A number or a truth value as a text. -/
def Json.asText? : Json → Option Json
  | .number n => some (.string n.write)
  | .bool b => some (.string (if b then "true" else "false"))
  | _ => none

/-- A number as a text, or a text without white space around it. -/
def Json.asUuid? : Json → Option Json
  | .number n => some (.string n.write)
  | .string s => some (.string (Text.trim s))
  | _ => none

/-- A value other than an array or null as the only item of an array. -/
def Json.asArray? : Json → Option Json
  | .array _ | .null => none
  | value => some (.array [value])

/-- Moves a value towards a type; a value that cannot be moved stays as it is. -/
def coerce (type : FieldType) (value : Json) : Json :=
  let moved :=
    match type with
    | .int => value.asInt?
    | .float => value.asFloat?
    | .bool => value.asBool?
    | .string => value.asText?
    | .uuid => value.asUuid?
    | .array => value.asArray?
    | .any | .object => none
  moved.getD value

/-! ## Objects -/

/-- An object as the only item of an array. -/
def Json.wrapObject : Json → Json
  | .object entries => .array [.object entries]
  | value => value

mutual

/-- Moves the value of a field towards its type.  The objects of a group are moved towards its
schema, and an object where an array is declared becomes its only item. -/
def Field.coerce : Field → Json → Json
  | .leaf a, value => Intake.coerce a.type value
  | .group a fields, value =>
    let inner := Json.mapObjects (fun entries => Field.coerceAll entries fields) value
    if a.type = .array then inner.wrapObject else inner
termination_by structural field => field

/-- Moves the values of an object towards the types of the fields, one field after the other. -/
def Field.coerceAll (entries : Entries Json) : List Field → Entries Json
  | [] => entries
  | f :: rest => Field.coerceAll (entries.adjust f.key (Field.coerce f)) rest
termination_by structural fields => fields

end

/-- Moves the values of an object towards the types that a schema declares. -/
def coerceObject (schema : Schema) (entries : Entries Json) : Entries Json :=
  Field.coerceAll entries schema

end Intake
