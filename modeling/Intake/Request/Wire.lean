import Intake.Json.Embedded
import Intake.Request.Basic
import Intake.Request.Error
import Intake.Settings
import Intake.Text.Blank
import Intake.Text.Form

/-!
# Requests on the wire

How the query string, the cookie header, the body and the head of a request are read.

Main results:

- Definition {lit}`cookiePairs` reads a cookie header, and theorem {lit}`cookiePairs_append` reads
  two headers that are joined by a semicolon.
- Definition {lit}`Request.addBody` reads the bytes of a body.
- Definition {lit}`Request.ofHead` reads a request from its head and body.
-/

namespace Intake

/-! ## Cookies -/

/-- The cookie in one piece of a header: the parts before and after the first equals sign, without
white space and, for the value, without double quotes around it. -/
def cookiePair? (piece : List Char) : Option (String × String) :=
  (Text.splitFirst? '=' piece).map fun (name, value) =>
    (String.ofList (Text.trimChars name),
      String.ofList (Text.stripBoth (· = '\x22') (Text.trimChars value)))

/-- The cookies of a header, in order; pieces without an equals sign hold none. -/
def cookiePairs (header : List Char) : Pairs :=
  (Text.splitAll ';' header).filterMap cookiePair?

/-- Two headers joined by a semicolon hold the cookies of both. -/
theorem cookiePairs_append (first second : List Char) :
    cookiePairs (first ++ ';' :: second) = cookiePairs first ++ cookiePairs second := by
  simp [cookiePairs, Text.splitAll_append]

namespace Request

/-- The request with the pairs of a query string, with question marks before it or without. -/
def addQueryString (r : Request) (query : String) : Request :=
  { r with query := r.query ++ Text.formPairs (query.toList.dropWhile (· = '?')) }

/-- The request with the cookies of a header. -/
def addCookieHeader (r : Request) (header : String) : Request :=
  { r with cookies := r.cookies ++ cookiePairs header.toList }

/-! ## Bodies -/

/-- Whether a byte is white space: the space, the tabulator, the form feed or a line end. -/
def isSpaceByte (b : UInt8) : Bool :=
  b = 0x20 || b = 0x09 || b = 0x0A || b = 0x0C || b = 0x0D

/-- Reads bytes as a JSON text. -/
def readBytes (bytes : List UInt8) : Except Json.SyntaxError Json :=
  match Text.decode? bytes with
  | some text => Json.read text
  | none => .error ⟨.badEncoding, none⟩

/-- The request with the body that the bytes hold.  A blank body leaves the request as it is. -/
def addBody (limits : Limits) (r : Request) (bytes : List UInt8) :
    Except RequestError Request :=
  if limits.maxBodyBytes < bytes.length then .error (.bodyTooLarge limits.maxBodyBytes)
  else if bytes.all isSpaceByte then .ok r
  else
    match readBytes bytes with
    | .error cause => .error (.invalidBody cause)
    | .ok body => if body.isObject then .ok (r.withBody body) else .error .bodyNotObject

end Request

/-! ## Heads -/

/-- What a request asks for. -/
structure Target where
  /-- The path. -/
  path : String
  /-- The query string, if there is one. -/
  query? : Option String
  deriving DecidableEq

namespace Target

/-- The part of a full address after the scheme and the host. -/
def afterHost : List Char → Option (List Char)
  | ':' :: '/' :: '/' :: rest => some (rest.dropWhile fun c => c ≠ '/' ∧ c ≠ '?')
  | _ :: rest => afterHost rest
  | [] => none

/-- Reads a path with an optional query string. -/
def ofPath (cs : List Char) : Target :=
  match Text.splitFirst? '?' cs with
  | some (path, query) => ⟨String.ofList path, some (String.ofList query)⟩
  | none => ⟨String.ofList cs, none⟩

/-- Reads the address of a request: a path or a full address, each with an optional query string
and a fragment that is not part of it.  A host alone has no path. -/
def read (address : String) : Target :=
  let cs := address.toList.takeWhile (· ≠ '#')
  if cs.head? = some '/' ∨ cs = ['*'] then ofPath cs
  else
    match afterHost cs with
    | none => ⟨"", none⟩
    | some rest => if rest.head? = some '/' then ofPath rest else ofPath ('/' :: rest)

end Target

/-- The head of a request. -/
structure Head where
  /-- The method. -/
  method : String
  /-- What is asked for. -/
  target : Target
  /-- The headers, with the bytes of their values. -/
  headers : List (String × List UInt8)

/-- Whether a byte of a header is read: a visible ASCII character, the space or the tabulator. -/
def isVisibleByte (b : UInt8) : Bool :=
  (0x20 ≤ b && b < 0x7F) || b = 0x09

namespace Request

/-- The request with one more header of a head.  A cookie header adds cookies instead, and a value
that is not visible ASCII adds nothing. -/
def addHeaderBytes (r : Request) (header : String × List UInt8) : Request :=
  if header.2.all isVisibleByte then
    let value := String.ofList (header.2.map fun b => Char.ofNat b.toNat)
    if Text.asciiLower header.1 = "cookie" then r.addCookieHeader value
    else r.addHeader header.1 value
  else r

/-- The request of a head and the bytes of a body. -/
def ofHead (limits : Limits) (head : Head) (body : List UInt8) : Except RequestError Request :=
  let start : Request :=
    match head.target.query? with
    | some query => ({} : Request).addQueryString query
    | none => {}
  (head.headers.foldl addHeaderBytes start).addBody limits body

end Request

end Intake
