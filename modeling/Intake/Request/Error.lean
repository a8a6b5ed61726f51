import Intake.Conversion
import Intake.Json.SyntaxError
import Intake.Path
import Intake.Text.Quoted

/-!
# Unreadable requests

Why the declared values of a request cannot be read.

Main results:

- {lit}`RequestError` lists the causes, {lit}`RequestError.message` gives their wording.
-/

namespace Intake

/-- Why a request cannot be read. -/
inductive RequestError where
  /-- The body is no JSON text. -/
  | invalidBody (cause : Json.SyntaxError)
  /-- The body is a JSON value other than an object. -/
  | bodyNotObject
  /-- The body has more bytes than allowed. -/
  | bodyTooLarge (limit : Nat)
  /-- The conversion of a field fails. -/
  | conversion (path : Path) (failure : ConversionFailure)
  /-- The body is nested deeper than allowed. -/
  | tooDeep (limit : Nat)

/-- The wording of a cause. -/
def RequestError.message : RequestError → String
  | invalidBody cause => "request body is not valid JSON: " ++ cause.message
  | bodyNotObject => "request body must be a JSON object"
  | bodyTooLarge limit => s!"request body exceeds the limit of {limit} bytes"
  | conversion path failure =>
    "conversion of field " ++ Text.quoted path.text ++ " failed: " ++ failure.message
  | tooDeep limit => s!"request body nests deeper than {limit} levels"

end Intake
