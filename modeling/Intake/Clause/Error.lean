/-!
# Refused clauses

Why a filter, an order or an update is not allowed.  The wording names what the client wrote,
never a table, a column or a value.

Main results:

- {lit}`ClauseError` lists the causes, {lit}`ClauseError.message` gives their wording.
-/

namespace Intake

/-- Why a filter, an order or an update is refused. -/
inductive ClauseError where
  /-- The field is not on the allow-list. -/
  | invalidField (field : String)
  /-- The predicate is unknown, or not allowed for the field. -/
  | invalidPredicate (field token : String)
  /-- The field to sort by is not on the allow-list. -/
  | invalidOrderField (field : String)
  /-- The direction is unknown. -/
  | invalidDirection (field token : String)
  /-- The value does not go with the predicate. -/
  | invalidValue (field predicate : String)
  deriving DecidableEq

namespace ClauseError

/-- The field that a refusal is about. -/
def field : ClauseError → String
  | invalidField field | invalidPredicate field _ | invalidOrderField field
  | invalidDirection field _ | invalidValue field _ => field

/-- The wording of a refusal. -/
def message : ClauseError → String
  | invalidField field => "invalid field: " ++ field
  | invalidPredicate _ token => "invalid predicate: " ++ token
  | invalidOrderField field => "invalid order field: " ++ field
  | invalidDirection _ token => "invalid order direction: " ++ token
  | invalidValue field predicate =>
    "invalid value for field " ++ field ++ " with predicate " ++ predicate

end ClauseError

end Intake
