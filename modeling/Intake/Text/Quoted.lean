import Intake.Text.Casing
import Intake.Text.Hex
import Intake.Text.HiddenTable

/-!
# Quoted texts

How a text is shown inside a message: between double quotes, with a backslash before a quote and
a backslash, short escapes for the common control characters, and a hexadecimal escape for every
character without a visible form.

Main results:

- Definition {lit}`quoted` is the quoted form of a text, {lit}`quotedList` that of several.
-/

namespace Intake.Text

/-- What one character of a text becomes between the quotes. -/
def quotedChar (c : Char) : List Char :=
  if c = '\x22' ∨ c = '\\' then ['\\', c]
  else if c = '\n' then ['\\', 'n']
  else if c = '\r' then ['\\', 'r']
  else if c = '\t' then ['\\', 't']
  else if c = '\x00' then ['\\', '0']
  else if inRanges hiddenRanges c.toNat then
    ['\\', 'u', '\x7b'] ++ hexDigits c.toNat ++ ['\x7d']
  else [c]

/-- The text between double quotes, with everything that needs it escaped. -/
def quoted (s : String) : String :=
  String.ofList ('\x22' :: s.toList.flatMap quotedChar ++ ['\x22'])

/-- The texts of a list, quoted and set off by commas, between square brackets. -/
def quotedList (items : List String) : String :=
  "[" ++ ", ".intercalate (items.map quoted) ++ "]"

end Intake.Text
