import Intake.ApiError
import Intake.Coerce
import Intake.Destination
import Intake.Pick

/-!
# Handlers

A handler takes a request through three stages: the declared values are picked, held against the
schema, and read into their destination.

Main results:

- {lit}`Handler` is a checked schema with settings and a destination.
- Definition {lit}`Handler.handle` runs the stages; the first failure ends the run, which theorems
  {lit}`Handler.handle_of_unreadable`, {lit}`Handler.handle_of_violation` and
  {lit}`Handler.handle_of_valid` say stage by stage.
-/

namespace Intake

variable {α : Type}

/-- Moves picked values towards their declared types and reads them into a destination. -/
def decode (schema : Schema) (destination : Destination α) (picked : Entries Json) :
    Except DecodeError α :=
  destination (.object (coerceObject schema picked))

/-- A checked schema with settings and a destination. -/
structure Handler (α : Type) where
  /-- The fields that requests may have. -/
  schema : Schema
  /-- The settings. -/
  settings : Settings
  /-- The destination. -/
  destination : Destination α
  /-- The schema can be served with the settings. -/
  check_eq : schema.check settings = .ok ()

/-- The stage at which a request fails. -/
inductive Failure where
  /-- It cannot be read. -/
  | request (e : RequestError)
  /-- It violates the schema. -/
  | violation (v : Violation)
  /-- It does not fit its destination. -/
  | decode (e : DecodeError)

namespace Failure

/-- The error that a client receives. -/
def toApiError : Failure → ApiError
  | request e => .ofRequest e
  | violation v => .ofValidation v.toError
  | decode e => .ofDecode e

/-- What is reported of a failure before the response is built. -/
def events : Failure → List Event
  | request _ => []
  | violation v => v.events
  | decode e => [e.event]

end Failure

namespace Handler

/-- A handler for a schema that can be served. -/
def create (schema : Schema) (settings : Settings) (destination : Destination α) :
    Except SchemaError (Handler α) :=
  match h : schema.check settings with
  | .ok () => .ok ⟨schema, settings, destination, h⟩
  | .error e => .error e

/-- Takes a request through the stages. -/
def handle (handler : Handler α) (r : Request) : Except Failure α := do
  let picked ← (pick handler.settings handler.schema r).mapError .request
  (validate handler.settings handler.schema picked.entries).mapError .violation
  (decode handler.schema handler.destination picked.entries).mapError .decode

section

variable {handler : Handler α} {r : Request}

/-- A request that cannot be read goes no further. -/
theorem handle_of_unreadable {e : RequestError}
    (h : pick handler.settings handler.schema r = .error e) :
    handler.handle r = .error (.request e) := by
  rw [handle, h]
  rfl

/-- Nor does one with a violation. -/
theorem handle_of_violation {picked : Dict Json} {v : Violation}
    (h : pick handler.settings handler.schema r = .ok picked)
    (hv : validate handler.settings handler.schema picked.entries = .error v) :
    handler.handle r = .error (.violation v) := by
  rw [handle, h]
  change (validate _ _ picked.entries).mapError _ >>= _ = _
  rw [hv]
  rfl

/-- Picked values that are accepted are read into the destination. -/
theorem handle_of_valid {picked : Dict Json}
    (h : pick handler.settings handler.schema r = .ok picked)
    (hv : validate handler.settings handler.schema picked.entries = .ok ()) :
    handler.handle r =
      (decode handler.schema handler.destination picked.entries).mapError .decode := by
  rw [handle, h]
  change (validate _ _ picked.entries).mapError _ >>= _ = _
  rw [hv]
  rfl

end

/-- What is reported while a request is taken through the stages. -/
def events (handler : Handler α) (r : Request) : List Event :=
  pickEvents handler.settings r ++
    match handler.handle r with
    | .ok _ => []
    | .error failure => failure.events

end Handler

end Intake
