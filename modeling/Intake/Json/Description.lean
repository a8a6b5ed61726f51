import Intake.Json.Value
import Intake.Text.Quoted

/-!
# Values in words

What a refusal says about a value that it does not expect.

Main results:

- Definition {lit}`Json.description` says what a value is.
-/

namespace Intake

/-- What a value is, in words. -/
def Json.description : Json → String
  | .null => "null"
  | .bool b => "boolean `" ++ (if b then "true" else "false") ++ "`"
  | .number (.integer n) => "integer `" ++ toString n.val ++ "`"
  | .number (.double x) => "floating point `" ++ DoubleLayout.json.write x ++ "`"
  | .string s => "string " ++ Text.quoted s
  | .array _ => "sequence"
  | .object _ => "map"

end Intake
