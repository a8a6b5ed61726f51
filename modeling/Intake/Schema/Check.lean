import Intake.Event
import Intake.Key
import Intake.Path
import Intake.Schema.Field
import Intake.Settings

/-!
# Checking schemas

Whether a schema can be served with given settings: names are well formed and differ among the
fields of one object, rules and conversions are registered, and a group reads from the body, has
no rules, a fitting type and at least one field.

Main results:

- {lit}`SchemaError` is the first problem of a schema, with the place of the field.
- Definition {lit}`Schema.check` looks for it in the order of declaration.
-/

namespace Intake

/-! ## Problems -/

/-- What is wrong with a field. -/
inductive SchemaProblem where
  /-- A rule is not registered. -/
  | unknownRule (rule : String)
  /-- The conversion is not registered. -/
  | unknownConversion (conversion : String)
  /-- The name or the alias is not a well-formed key. -/
  | invalidName (name : String)
  /-- A field before it has the same name or alias. -/
  | duplicateName (name : String)
  /-- A group has rules. -/
  | groupWithRules
  /-- A group does not read from the body. -/
  | groupSource (source : Source)
  /-- A group has no fields. -/
  | emptyGroup
  /-- A group has a type that does not fit it. -/
  | groupType
  deriving DecidableEq

/-- A problem of the field at a place. -/
structure SchemaError where
  /-- The place of the field. -/
  path : Path
  /-- What is wrong with it. -/
  problem : SchemaProblem
  deriving DecidableEq

/-- The wording of a problem. -/
def SchemaProblem.message : SchemaProblem → String
  | unknownRule rule => "unknown validation rule " ++ Text.quoted rule
  | unknownConversion conversion => "unknown conversion " ++ Text.quoted conversion
  | invalidName name => "invalid name " ++ Text.quoted name
  | duplicateName name => "name " ++ Text.quoted name ++ " is declared twice"
  | groupWithRules => "nested fields cannot carry validation rules"
  | groupSource source => "nested fields must come from the body, not " ++ source.name
  | emptyGroup => "nested field list is empty"
  | groupType => "nested fields must be typed Any, Object or Array"

namespace SchemaError

/-- The wording of a problem with the place of the field. -/
def message (e : SchemaError) : String :=
  "field " ++ Text.quoted e.path.text ++ ": " ++ e.problem.message

/-- What is said when a program stops for the problem. -/
def fatalMessage (e : SchemaError) : String :=
  "invalid api field schema: " ++ e.message

/-- What is reported before a program stops for the problem. -/
def event (e : SchemaError) : Event :=
  ⟨.error, "Invalid api field schema", [("error", e.message)]⟩

end SchemaError

/-! ## The check -/

/-- The name and the alias of a field, if it has one. -/
def Attributes.declared (a : Attributes) : List String :=
  a.name :: a.alias?.toList

/-- The problem of a field with its names, given those that the fields before it have. -/
def Attributes.nameProblem? (maxKeyLength : Nat) (taken : List String) (a : Attributes) :
    Option SchemaProblem :=
  match a.declared.find? fun name => !isValidKey maxKeyLength name with
  | some name => some (.invalidName name)
  | none => (a.names.find? taken.contains).map .duplicateName

/-- The problem of a field with its conversion. -/
def Attributes.conversionProblem? (settings : Settings) (a : Attributes) :
    Option SchemaProblem :=
  match a.conversion? with
  | some name =>
    if settings.conversions.contains name then none else some (.unknownConversion name)
  | none => none

/-- The problem of a leaf with its rules. -/
def Attributes.ruleProblem? (settings : Settings) (a : Attributes) : Option SchemaProblem :=
  match resolve settings.rules a.rules with
  | .ok _ => none
  | .error name => some (.unknownRule name)

/-- The problem of a group apart from those of its fields. -/
def Attributes.groupProblem? (a : Attributes) (fields : Schema) : Option SchemaProblem :=
  if !a.rules.isEmpty then some .groupWithRules
  else if a.source ≠ .body then some (.groupSource a.source)
  else if !a.type.allowsGroup then some .groupType
  else if fields.isEmpty then some .emptyGroup
  else none

/-- The first problem of a field apart from those of the fields below it. -/
def Field.problem? (settings : Settings) (taken : List String) (f : Field) :
    Option SchemaProblem :=
  (f.attributes.nameProblem? settings.limits.maxKeyLength taken).or
    ((f.attributes.conversionProblem? settings).or
      (match f with
        | .leaf a => a.ruleProblem? settings
        | .group a fields => a.groupProblem? fields))

mutual

/-- Checks a field of the object at {lit}`path` and what is below it. -/
def Field.check (settings : Settings) (path : Path) (taken : List String) :
    Field → Except SchemaError Unit
  | .leaf a =>
    match (Field.leaf a).problem? settings taken with
    | some problem => .error ⟨path.child a.name, problem⟩
    | none => .ok ()
  | .group a fields =>
    match (Field.group a fields).problem? settings taken with
    | some problem => .error ⟨path.child a.name, problem⟩
    | none => Field.checkAll settings (path.child a.name) [] fields
termination_by structural field => field

/-- Checks the fields of the object at {lit}`path` one after the other. -/
def Field.checkAll (settings : Settings) (path : Path) (taken : List String) :
    List Field → Except SchemaError Unit
  | [] => .ok ()
  | f :: rest => do
    Field.check settings path taken f
    Field.checkAll settings path (f.attributes.names ++ taken) rest
termination_by structural fields => fields

end

/-- Checks a schema: accepts it, or gives its first problem in the order of declaration. -/
def Schema.check (settings : Settings) (schema : Schema) : Except SchemaError Unit :=
  Field.checkAll settings [] [] schema

end Intake
