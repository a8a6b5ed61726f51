import Intake.Handler
import Intake.Request.Wire
import Intake.Route

/-!
# Endpoints

An endpoint answers the requests for one route with the value that its handler reads.

Main results:

- {lit}`Endpoint` is a route with a handler and with what is answered for a value.
- Definition {lit}`Endpoint.respond` is the response to a request, and {lit}`Endpoint.events` is
  what is reported of it.
-/

namespace Intake

/-- A route with a handler. -/
structure Endpoint (α : Type) where
  /-- The route. -/
  route : Route
  /-- The handler. -/
  handler : Handler α
  /-- The response for a value that the handler reads. -/
  answer : α → Response

namespace Endpoint

variable {α : Type}

/-- The request of a head and a body, with the parameters of the path; if the bytes of one of them
are malformed, there are none at all. -/
def request (endpoint : Endpoint α) (parameters : List (String × List Char)) (head : Head)
    (body : List UInt8) : Except ApiError Request :=
  let limits := endpoint.handler.settings.limits
  if limits.maxBodyBytes < body.length then
    .error (.invalidInput "failed to read request body: length limit exceeded")
  else
    match Request.ofHead limits head body with
    | .error e => .error (.ofRequest e)
    | .ok r => .ok { r with path := r.path ++ (decodeParameters? parameters).getD [] }

/-- Reads the value of a request whose path has the given parameters. -/
def run (endpoint : Endpoint α) (parameters : List (String × List Char)) (head : Head)
    (body : List UInt8) : Except ApiError α := do
  let r ← endpoint.request parameters head body
  (endpoint.handler.handle r).mapError Failure.toApiError

/-- The response as it is sent for a method: some responses have no body. -/
def sent (method : String) (response : Response) : Response :=
  if method = "HEAD" ∨ (method = "CONNECT" ∧ response.code = 200) then
    { response with body := none }
  else response

/-- The response to a request; there is none but an empty one outside the route. -/
def respond (endpoint : Endpoint α) (head : Head) (body : List UInt8) : Response :=
  match endpoint.route head.target.path with
  | none => ⟨404, none⟩
  | some parameters =>
    sent head.method
      (match endpoint.run parameters head body with
        | .ok value => endpoint.answer value
        | .error e => e.response)

/-- What is reported of a request. -/
def events (endpoint : Endpoint α) (head : Head) (body : List UInt8) : List Event :=
  match endpoint.route head.target.path with
  | none => []
  | some parameters =>
    match endpoint.request parameters head body with
    | .error e => [e.event]
    | .ok r =>
      endpoint.handler.events r ++
        match endpoint.run parameters head body with
        | .ok _ => []
        | .error e => [e.event]

end Endpoint

end Intake
