/-!
# Events

What the library reports about its work, for the one who runs it and never for a client.

Main results:

- {lit}`Event` is one report: a level, a message and named details.
-/

namespace Intake

/-- How much an event matters. -/
inductive Level where
  /-- Of interest while looking for a fault. -/
  | debug
  /-- A request that could not be read. -/
  | warning
  /-- A fault of the program or of its configuration. -/
  | error
  deriving DecidableEq

/-- The name of a level. -/
def Level.name : Level → String
  | debug => "DEBUG"
  | warning => "WARN"
  | error => "ERROR"

/-- One report. -/
structure Event where
  /-- How much it matters. -/
  level : Level
  /-- What happened. -/
  message : String
  /-- Details under their names. -/
  fields : List (String × String)
  deriving DecidableEq

end Intake
