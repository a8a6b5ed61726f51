import Intake.Event
import Intake.Json.Embedded

/-!
# Destinations

The value that a program works with has a type of its own.  A value of JSON is read into it
without any further conversion, in a way that is the program's own too.

Main results:

- {lit}`Destination` is a way to read values of JSON as values of a type, {lit}`DecodeError` says
  why one cannot be read.
- Definition {lit}`Destination.any` is the destination that takes every value for what it stands
  for.
-/

namespace Intake

/-- Why a value does not fit a destination, in words. -/
structure DecodeError where
  /-- The words of the destination. -/
  detail : String

namespace DecodeError

/-- The wording of the error. -/
def message (e : DecodeError) : String :=
  "failed to decode request input: " ++ e.detail

/-- What is reported of a value that does not fit: the schema and the destination disagree. -/
def event (e : DecodeError) : Event :=
  ⟨.error, "Validated input does not match its destination type", [("details", e.message)]⟩

end DecodeError

/-- A way to read values of JSON as values of a type. -/
abbrev Destination (α : Type) := Json → Except DecodeError α

/-- Every value is taken for what it stands for. -/
def Destination.any : Destination Json := fun value =>
  value.canonical.mapError fun cause => ⟨cause.message⟩

end Intake
