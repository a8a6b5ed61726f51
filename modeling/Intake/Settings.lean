import Intake.Conversion
import Intake.Rule
import Intake.Text.Quoted

/-!
# Settings

What the library needs besides a schema: rules and conversions under their names, and limits on
untrusted data.

Main results:

- {lit}`Settings` holds all of it; {lit}`Settings.standard` is the default and
  {lit}`Settings.bare` has no rules and conversions.
- Definition {lit}`resolve` looks names up and reports the first one that is unknown.
-/

namespace Intake

/-- Limits on untrusted data. -/
structure Limits where
  /-- The greatest size of a body in bytes. -/
  maxBodyBytes : Nat
  /-- The greatest length of a key. -/
  maxKeyLength : Nat
  /-- The greatest depth of nesting. -/
  maxDepth : Nat
  deriving DecidableEq

/-- The default limits. -/
def Limits.standard : Limits :=
  ⟨1024 * 1024, 100, 32⟩

/-- Rules, conversions and limits. -/
structure Settings where
  /-- The rules under their names. -/
  rules : Dict Rule
  /-- The conversions under their names. -/
  conversions : Dict Conversion
  /-- The limits. -/
  limits : Limits

namespace Settings

/-- The ready-made rules and conversions and the default limits. -/
def standard : Settings :=
  ⟨Rule.standard, Conversion.standard, .standard⟩

/-- The default limits and nothing else. -/
def bare : Settings :=
  ⟨∅, ∅, .standard⟩

/-- The names in a registry, as the content of a record with one member. -/
def namesText {α : Type} (record member : String) (registry : Dict α) : String :=
  record ++ " \x7b " ++ member ++ ": " ++ Text.quotedList registry.keys ++ " \x7d"

/-- The names of the rules. -/
def rulesText (s : Settings) : String :=
  namesText "RuleRegistry" "rules" s.rules

/-- The names of the conversions. -/
def conversionsText (s : Settings) : String :=
  namesText "ConversionRegistry" "conversions" s.conversions

end Settings

/-- What a registry has under the names of a list, or the first name under which it has nothing. -/
def resolve {α : Type} (registry : Dict α) : List String → Except String (List α)
  | [] => .ok []
  | name :: rest =>
    match registry.get? name with
    | none => .error name
    | some entry => (resolve registry rest).map (entry :: ·)

end Intake
