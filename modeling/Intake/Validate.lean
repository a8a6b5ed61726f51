import Intake.Event
import Intake.Path
import Intake.Schema.Field
import Intake.Settings

/-!
# Validating picked values

Picked values are held against their schema: what is required must be there, the value of a group
must be an object or an array of objects, and the rules of a leaf must accept its value.

Main results:

- {lit}`Violation` is the first violation with its place, {lit}`ValidationError` its text form;
  theorem {lit}`Violation.message_toError` spells the text out.
- Definition {lit}`validate` looks for it in the order of declaration, depth first.
-/

namespace Intake

/-! ## Violations -/

/-- A violation as it is told to clients: the place as a text and the wording. -/
structure ValidationError where
  /-- The place. -/
  field : String
  /-- The wording. -/
  message : String
  deriving DecidableEq

namespace ValidationError

/-- A required field is missing. -/
def required (field : String) : ValidationError :=
  ⟨field, "field " ++ Text.quoted field ++ " is required"⟩

/-- A group has a value without objects. -/
def notObject (field : String) : ValidationError :=
  ⟨field, "field " ++ Text.quoted field ++ " must be an object or an array of objects"⟩

/-- A rule refuses a value. -/
def refused (field reason : String) : ValidationError :=
  ⟨field, "field " ++ Text.quoted field ++ " " ++ reason⟩

/-- A group is nested too deep. -/
def tooDeep (field : String) (limit : Nat) : ValidationError :=
  ⟨field, "field " ++ Text.quoted field ++ s!" exceeds the maximum nesting depth of {limit}"⟩

end ValidationError

/-- What a picked value violates. -/
inductive Fault where
  /-- It is required and missing. -/
  | required
  /-- It should be an object or an array of objects. -/
  | notObject
  /-- A rule refuses it. -/
  | refused (rule : String) (reason : Reason)
  /-- A rule for it is not registered. -/
  | unregistered (rule : String)
  /-- It is nested too deep. -/
  | tooDeep (limit : Nat)

/-- The wording of a fault, after the place. -/
def Fault.wording : Fault → String
  | required => "is required"
  | notObject => "must be an object or an array of objects"
  | refused _ reason => reason.message
  | unregistered _ => "failed validation"
  | tooDeep limit => "exceeds the maximum nesting depth of " ++ toString limit

/-- A fault with its place. -/
structure Violation where
  /-- The place. -/
  path : Path
  /-- What is wrong there. -/
  fault : Fault

namespace Violation

/-- The violation as it is told to clients. -/
def toError (v : Violation) : ValidationError :=
  let field := v.path.text
  match v.fault with
  | .required => .required field
  | .notObject => .notObject field
  | .refused _ reason => .refused field reason.message
  | .unregistered _ => .refused field "failed validation"
  | .tooDeep limit => .tooDeep field limit

/-- The place that clients are told is the text of the place. -/
theorem field_toError (v : Violation) : v.toError.field = v.path.text := by
  unfold toError
  cases v.fault <;> rfl

/-- Clients are told the place, between quotes, and what is wrong there. -/
theorem message_toError (v : Violation) :
    v.toError.message = "field " ++ Text.quoted v.path.text ++ " " ++ v.fault.wording := by
  obtain ⟨path, fault⟩ := v
  have hblank (begun wording : String) : begun ++ (" " ++ wording) = begun ++ " " ++ wording :=
    String.append_assoc.symm
  cases fault with
  | required => exact hblank _ "is required"
  | notObject => exact hblank _ "must be an object or an array of objects"
  | refused rule reason => rfl
  | unregistered rule => rfl
  | tooDeep limit => exact hblank _ ("exceeds the maximum nesting depth of " ++ toString limit)

/-- What is reported of a violation: the rule that is behind it, if there is one. -/
def events (v : Violation) : List Event :=
  let details (rule : String) := [("field", v.path.text), ("rule", rule)]
  match v.fault with
  | .refused rule _ => [⟨.debug, "Validation rule rejected value", details rule⟩]
  | .unregistered rule => [⟨.error, "Validation rule is not registered", details rule⟩]
  | _ => []

end Violation

/-! ## Rules -/

/-- Applies rules in order to the value at {lit}`path`. -/
def applyRules (rules : Dict Rule) (path : Path) (value : Json) :
    List String → Except Violation Unit
  | [] => .ok ()
  | name :: rest =>
    match rules.get? name with
    | none => .error ⟨path, .unregistered name⟩
    | some rule =>
      match rule value with
      | .error reason => .error ⟨path, .refused name reason⟩
      | .ok () => applyRules rules path value rest

/-! ## Objects -/

/-- Checks the items of an array from position {lit}`n` on, which must all be objects. -/
def validateItems (check : Path → Entries Json → Except Violation Unit) (path : Path) (n : Nat) :
    List Json → Except Violation Unit
  | [] => .ok ()
  | .object entries :: rest => do
    check (path.item n) entries
    validateItems check path (n + 1) rest
  | _ :: _ => .error ⟨path.item n, .notObject⟩

/-- Checks the value of a group, which must be an object or an array of objects. -/
def validateObjects (check : Path → Entries Json → Except Violation Unit) (path : Path) :
    Json → Except Violation Unit
  | .object entries => check path entries
  | .array items => validateItems check path 0 items
  | _ => .error ⟨path, .notObject⟩

/-- Enters the object at {lit}`path` if it is not too deep. -/
def enter (limits : Limits) (depth : Nat) (path : Path) (check : Except Violation Unit) :
    Except Violation Unit :=
  if limits.maxDepth < depth then .error ⟨path, .tooDeep limits.maxDepth⟩ else check

mutual

/-- Checks the value of a field at {lit}`path` inside an object of the given depth. -/
def Field.validate (settings : Settings) (depth : Nat) (path : Path) (value : Json) :
    Field → Except Violation Unit
  | .leaf a => applyRules settings.rules path value a.rules
  | .group _ fields =>
    validateObjects
      (fun place entries =>
        enter settings.limits (depth + 1) place
          (Field.validateAll settings (depth + 1) place entries fields))
      path value
termination_by structural field => field

/-- Checks the fields of the object at {lit}`path` one after the other. -/
def Field.validateAll (settings : Settings) (depth : Nat) (path : Path) (entries : Entries Json) :
    List Field → Except Violation Unit
  | [] => .ok ()
  | f :: rest => do
    match entries.get? f.key with
    | some value => Field.validate settings depth (path.child f.name) value f
    | none =>
      if f.attributes.required then .error ⟨path.child f.name, .required⟩ else .ok ()
    Field.validateAll settings depth path entries rest
termination_by structural fields => fields

end

/-- Checks picked values against a schema: accepts them or gives the first violation. -/
def validate (settings : Settings) (schema : Schema) (picked : Entries Json) :
    Except Violation Unit :=
  enter settings.limits 1 [] (Field.validateAll settings 1 [] picked schema)

end Intake
