import Intake.Json.Value
import Intake.Text.Casing

/-!
# Requests

The untrusted data of a request: pairs from the path, the query string, the headers and the
cookies, and the body.

Main results:

- {lit}`Request` holds the data; the names of its headers are in lower case.
- Definitions {lit}`valuesOf` and {lit}`headerValuesOf` look the values of a name up, in order.
- Definition {lit}`Request.same` compares two requests.
-/

namespace Intake

/-- Names with values, in order. -/
abbrev Pairs := List (String × String)

/-- The values of a name, in order. -/
def valuesOf (pairs : Pairs) (name : String) : List String :=
  (pairs.filter fun pair => pair.1 == name).map Prod.snd

/-- The values of a name in any letter case, in order. -/
def headerValuesOf (pairs : Pairs) (name : String) : List String :=
  (pairs.filter fun pair => Text.asciiLower pair.1 == Text.asciiLower name).map Prod.snd

/-- The untrusted data of a request. -/
structure Request where
  /-- The parameters of the path. -/
  path : Pairs := []
  /-- The pairs of the query string. -/
  query : Pairs := []
  /-- The headers, with their names in lower case. -/
  headers : Pairs := []
  /-- The cookies. -/
  cookies : Pairs := []
  /-- The body, if there is one. -/
  body : Option Json := none

namespace Request

/-! ## Adding data -/

/-- The request with one more parameter of the path. -/
def addPath (r : Request) (name value : String) : Request :=
  { r with path := r.path ++ [(name, value)] }

/-- The request with one more pair of the query string. -/
def addQuery (r : Request) (name value : String) : Request :=
  { r with query := r.query ++ [(name, value)] }

/-- The request with one more header. -/
def addHeader (r : Request) (name value : String) : Request :=
  { r with headers := r.headers ++ [(Text.asciiLower name, value)] }

/-- The request with one more cookie. -/
def addCookie (r : Request) (name value : String) : Request :=
  { r with cookies := r.cookies ++ [(name, value)] }

/-- The request with the body in place of any that it had. -/
def withBody (r : Request) (body : Json) : Request :=
  { r with body := some body }

/-! ## Equality -/

/-- Whether two requests hold the same data. -/
def same (r s : Request) : Bool :=
  r.path == s.path && r.query == s.query && r.headers == s.headers && r.cookies == s.cookies
    && Json.sameOption r.body s.body

end Request

end Intake
