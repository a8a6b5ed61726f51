import Intake.Json.Value
import Intake.Text.Blank
import Intake.Text.Casing
import Intake.Uuid

/-!
# Conversions

A conversion turns a value into another one or fails.  The ready-made ones change the texts of a
value or bring an identifier into its one written form.

Main results:

- {lit}`Conversion` is the type of conversions, {lit}`ConversionFailure` says why one fails.
- Definition {lit}`Conversion.standard` lists the conversions that every default configuration
  has.
-/

namespace Intake

/-- Why a conversion fails. -/
inductive ConversionFailure where
  /-- The text spells no identifier. -/
  | notUuid
  /-- The value is no text where an identifier is expected. -/
  | uuidFromNonText
  /-- A failure in words, from a conversion of the library's user. -/
  | other (text : String)

/-- The wording of a failure. -/
def ConversionFailure.message : ConversionFailure → String
  | notUuid => "invalid uuid: the text has none of the accepted forms"
  | uuidFromNonText => "uuid conversion expects a string"
  | other text => text

/-- A conversion turns a value into another one or fails. -/
abbrev Conversion := Json → Except ConversionFailure Json

namespace Conversion

/-- Applies a function to a value that is a text and leaves any other one alone. -/
def onText (f : String → String) : Json → Json
  | .string s => .string (f s)
  | value => value

/-- Applies a function to a text, or to the texts that are items of an array. -/
def onTexts (f : String → String) : Conversion
  | .array items => .ok (.array (items.map (onText f)))
  | value => .ok (onText f value)

/-- Brings an identifier into its written form and leaves null alone. -/
def uuid : Conversion
  | .string s =>
    match Uuid.read? (Text.trim s) with
    | some id => .ok (.string id.write)
    | none => .error .notUuid
  | .null => .ok .null
  | _ => .error .uuidFromNonText

/-- The conversions of a default configuration. -/
def standard : Dict Conversion :=
  Dict.ofList
    [("trim", onTexts Text.trim), ("lowercase", onTexts Text.lowercase),
      ("uppercase", onTexts Text.uppercase), ("uuid", uuid)]

end Conversion

end Intake
