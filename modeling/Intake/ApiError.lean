import Intake.Clause.Error
import Intake.Destination
import Intake.Event
import Intake.Json.Value
import Intake.Request.Error
import Intake.Schema.Check
import Intake.Validate

/-!
# Errors of an interface

Every failure becomes one of four errors with a status and a response.  Details of an unreadable
request and of a fault of the program are reported and never sent.

Main results:

- {lit}`ApiError` lists the errors, {lit}`ApiError.response` is what a client receives.
- Definition {lit}`ApiError.event` is what is reported when the response is built.
-/

namespace Intake

/-- An error that a client receives. -/
inductive ApiError where
  /-- A filter, order or update that is not allowed. -/
  | badRequest (message : String)
  /-- Values that violate their schema. -/
  | validationFailed (errors : List String)
  /-- Data that cannot be read; the details are not sent. -/
  | invalidInput (details : String)
  /-- A fault of the program; its details, if there are any, are not sent. -/
  | internal (message : String) (details : Option String)
  deriving DecidableEq

/-- The status of a response. -/
structure Status where
  /-- The number. -/
  code : Nat
  /-- The phrase that goes with it. -/
  phrase : String
  deriving DecidableEq

/-- The status as a text. -/
def Status.text (s : Status) : String :=
  toString s.code ++ " " ++ s.phrase

/-- A response with its body, which may be empty. -/
structure Response where
  /-- The number of the status. -/
  code : Nat
  /-- The body. -/
  body : Option Json

namespace ApiError

/-- The status of the response. -/
def status : ApiError → Status
  | badRequest _ | invalidInput _ => ⟨400, "Bad Request"⟩
  | validationFailed _ => ⟨422, "Unprocessable Entity"⟩
  | internal _ _ => ⟨500, "Internal Server Error"⟩

/-- What a client is told in words. -/
def userMessage : ApiError → String
  | badRequest message => message
  | validationFailed [single] => single
  | validationFailed errors => "Validation failed: " ++ ", ".intercalate errors
  | invalidInput _ => "Invalid input"
  | internal message _ => message

/-- The details that are not sent. -/
def details? : ApiError → Option String
  | invalidInput details => some details
  | internal _ details => details
  | _ => none

/-- The body of the response. -/
def body : ApiError → Json
  | validationFailed errors =>
    .object [("details", .array (errors.map .string)), ("error", .string "Validation failed")]
  | e => .object [("error", .string e.userMessage)]

/-- What a client receives. -/
def response (e : ApiError) : Response :=
  ⟨e.status.code, some e.body⟩

/-- What is reported when the response is built. -/
def event : ApiError → Event
  | invalidInput details =>
    ⟨.warning, "Rejected unreadable request input", [("details", details)]⟩
  | internal _ (some details) => ⟨.error, "Internal error occurred", [("details", details)]⟩
  | e => ⟨.debug, "API error", [("error", e.userMessage), ("status", e.status.text)]⟩

/-! ## Failures as errors -/

/-- The error of a violation. -/
def ofValidation (e : ValidationError) : ApiError :=
  .validationFailed [e.message]

/-- The error of an unreadable request. -/
def ofRequest (e : RequestError) : ApiError :=
  .invalidInput e.message

/-- The error of a value that does not fit its destination. -/
def ofDecode (e : DecodeError) : ApiError :=
  .invalidInput e.message

/-- The error of a filter, an order or an update that is refused. -/
def ofClause (e : ClauseError) : ApiError :=
  .badRequest e.message

/-- The error of a schema that cannot be served. -/
def ofSchema (e : SchemaError) : ApiError :=
  .internal "Server misconfiguration" (some e.message)

end ApiError

end Intake
