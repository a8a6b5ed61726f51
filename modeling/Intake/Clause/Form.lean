import Intake.Json.Embedded

/-!
# Values of another form

Filters, orders and updates arrive as JSON values.  A value of another form is refused with a
description of what stands there.

Main results:

- {lit}`FormError` lists the causes, {lit}`FormError.message` gives their wording.
-/

namespace Intake

/-- Why a value is refused. -/
inductive FormError where
  /-- A text names no predicate. -/
  | unknownPredicate (token : String)
  /-- Another kind of value is expected. -/
  | unexpected (value : Json) (expected : String)
  /-- The last field of a list has no direction. -/
  | missingDirection (field : String)
  /-- A text that is embedded in a value cannot be read. -/
  | embedded (cause : Json.SyntaxError)
  /-- The value of a condition cannot be read. -/
  | noCondition

/-- The wording of a cause. -/
def FormError.message : FormError → String
  | unknownPredicate token => "invalid predicate: " ++ token
  | unexpected value expected =>
    "invalid type: " ++ value.description ++ ", expected " ++ expected
  | missingDirection field => "missing direction for sort field " ++ Text.quoted field
  | embedded cause => cause.message
  | noCondition => "data did not match any variant of untagged enum SelectorRepr"

/-- Reads a text. -/
def Json.readText : Json → Except FormError String
  | .string s => .ok s
  | value => .error (.unexpected value "a string")

end Intake
