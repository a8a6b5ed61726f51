import Intake.Json.Value
import Intake.Text.Quoted

/-!
# Fields and schemas

A schema lists the fields that an object may have.  A field is a leaf, or a group with a schema of
its own for the object, or the objects in an array, that it holds.

Main results:

- {lit}`Attributes` is what a field declares about itself, {lit}`Field` the tree of fields.
- Definition {lit}`Attributes.key` is the name under which a picked value is kept.
- Definition {lit}`Field.same` compares two fields with everything below them.
- Definitions {lit}`Schema.get?` and {lit}`Schema.getMany` look fields up by name.
-/

namespace Intake

/-! ## Attributes -/

/-- Where in a request the value of a field is. -/
inductive Source where
  /-- Among the path parameters, or else in the query string. -/
  | url
  /-- In the body. -/
  | body
  /-- In a header. -/
  | header
  /-- In a cookie. -/
  | cookie
  deriving DecidableEq

/-- The name of a source. -/
def Source.name : Source → String
  | url => "Url"
  | body => "Body"
  | header => "Header"
  | cookie => "Cookie"

/-- What kind of value a field is meant to have. -/
inductive FieldType where
  /-- Any value. -/
  | any
  /-- A text. -/
  | string
  /-- An integer. -/
  | int
  /-- A number. -/
  | float
  /-- A truth value. -/
  | bool
  /-- An identifier, as a text. -/
  | uuid
  /-- An array. -/
  | array
  /-- An object. -/
  | object
  deriving DecidableEq

namespace FieldType

/-- The name of a type. -/
def name : FieldType → String
  | any => "Any"
  | string => "String"
  | int => "Int"
  | float => "Float"
  | bool => "Bool"
  | uuid => "Uuid"
  | array => "Array"
  | object => "Object"

/-- Whether a group of fields may have this type. -/
def allowsGroup : FieldType → Bool
  | any | array | object => true
  | _ => false

/-- A group may have no particular type, or that of an array or object. -/
theorem allowsGroup_iff {type : FieldType} :
    type.allowsGroup = true ↔ type = .any ∨ type = .array ∨ type = .object := by
  cases type <;> decide

end FieldType

/-- What a field declares about itself. -/
structure Attributes where
  /-- The name in requests. -/
  name : String
  /-- Another name for the picked value. -/
  alias? : Option String := none
  /-- The column of a database that the field stands for. -/
  column? : Option String := none
  /-- Whether a value must be there. -/
  required : Bool := false
  /-- The value that is picked when the request has none. -/
  default? : Option Json := none
  /-- Where the value is. -/
  source : Source := .body
  /-- The names of the rules for the value, in order. -/
  rules : List String := []
  /-- The name of the conversion of the value. -/
  conversion? : Option String := none
  /-- What kind of value is meant. -/
  type : FieldType := .any

namespace Attributes

/-- The name under which the picked value is kept: the alias, or else the name. -/
def key (a : Attributes) : String :=
  a.alias?.getD a.name

/-- The name, and the alias if it is another one. -/
def names (a : Attributes) : List String :=
  a.name :: (a.alias?.filter (· ≠ a.name)).toList

/-- A field is known by its name and by its alias, and by nothing else. -/
theorem mem_names {a : Attributes} {name : String} :
    name ∈ a.names ↔ name = a.name ∨ a.alias? = some name := by
  rw [names, List.mem_cons, Option.mem_toList, ← Option.mem_def, Option.mem_filter_iff]
  by_cases h : name = a.name <;> simp [h]

/-- Equality of attributes. -/
def same (a b : Attributes) : Bool :=
  a.name == b.name && a.alias? == b.alias? && a.column? == b.column? && a.required == b.required
    && Json.sameOption a.default? b.default? && a.source == b.source && a.rules == b.rules
    && a.conversion? == b.conversion? && a.type == b.type

end Attributes

/-! ## Fields -/

/-- A field of a schema. -/
inductive Field where
  /-- A field without a schema of its own. -/
  | leaf (attributes : Attributes)
  /-- A field whose object, or the objects in whose array, have the given fields. -/
  | group (attributes : Attributes) (fields : List Field)

/-- A schema lists the fields of one object. -/
abbrev Schema := List Field

namespace Field

/-- What the field declares about itself. -/
def attributes : Field → Attributes
  | leaf a => a
  | group a _ => a

/-- The schema of its own that the field has. -/
def nested? : Field → Option Schema
  | leaf _ => none
  | group _ fields => some fields

/-- The name of the field. -/
def name (f : Field) : String :=
  f.attributes.name

/-- The name under which the picked value is kept. -/
def key (f : Field) : String :=
  f.attributes.key

/-- The field with other attributes. -/
def withAttributes (f : Field) (change : Attributes → Attributes) : Field :=
  match f with
  | leaf a => leaf (change a)
  | group a fields => group (change a) fields

/-- The field with a schema of its own. -/
def withNested (f : Field) (fields : Schema) : Field :=
  group f.attributes fields

mutual

/-- Whether two fields are equal with everything below them. -/
def same : Field → Field → Bool
  | leaf a, leaf b => a.same b
  | group a fields, group b fields' => a.same b && sameAll fields fields'
  | _, _ => false
termination_by structural field => field

/-- Whether two schemas list equal fields. -/
def sameAll : List Field → List Field → Bool
  | [], [] => true
  | f :: fields, g :: fields' => same f g && sameAll fields fields'
  | _, _ => false
termination_by structural fields => fields

end

end Field

/-! ## Looking fields up -/

namespace Schema

/-- The first field with the name. -/
def get? (schema : Schema) (name : String) : Option Field :=
  schema.find? fun f => f.name == name

/-- The fields with the names of a list, in that order, or the first name that no field has. -/
def getMany (schema : Schema) : List String → Except String Schema
  | [] => .ok []
  | name :: rest =>
    match schema.get? name with
    | none => .error name
    | some f => (getMany schema rest).map (f :: ·)

/-- What is said of a name that no field has. -/
def undeclared (name : String) : String :=
  "api field " ++ Text.quoted name ++ " is not declared"

end Schema

end Intake
