import Intake.Request.Basic
import Intake.Text.Form

/-!
# Routes

The path of a request is held against a route, which gives the parts that stand for parameters as
they were received.  Then they are decoded.

Main results:

- {lit}`Route` is a way to take the raw parameters out of a path, and {lit}`decodeParameters?`
  decodes them, all of them or none.
- {lit}`Pattern` is a list of segments, read from its text by {lit}`Pattern.read`; definition
  {lit}`Pattern.route` is the route that it describes.
-/

namespace Intake

/-! ## Raw parameters -/

/-- The raw parameters of a path under their names, if the path fits. -/
abbrev Route := String → Option (List (String × List Char))

/-- The text of a raw parameter, if its bytes are well formed. -/
def decodeParameter? (raw : List Char) : Option String :=
  Text.decode? (Text.percentDecode (Text.encode (String.ofList raw)))

/-- The texts of raw parameters, if the bytes of all of them are well formed. -/
def decodeParameters? (raw : List (String × List Char)) : Option Pairs :=
  raw.mapM fun parameter => (decodeParameter? parameter.2).map fun text => (parameter.1, text)

/-! ## Patterns -/

/-- A segment of a pattern. -/
inductive Segment where
  /-- A fixed text. -/
  | literal (text : List Char)
  /-- A parameter for one segment of a path. -/
  | parameter (name : String)
  /-- A parameter for the rest of a path. -/
  | rest (name : String)
  deriving DecidableEq

/-- The segments after the first slash.  A parameter takes a whole segment; a route that finds
parameters inside of segments is no pattern. -/
abbrev Pattern := List Segment

/-- Reads a segment; a parameter stands in braces, with a star if it takes the rest. -/
def Segment.read (cs : List Char) : Segment :=
  if cs.head? = some '\x7b' ∧ cs.getLast? = some '\x7d' then
    match (cs.drop 1).dropLast with
    | '*' :: name => .rest (String.ofList name)
    | name => .parameter (String.ofList name)
  else .literal cs

namespace Pattern

/-- Reads a pattern, which starts with a slash. -/
def read (s : String) : Pattern :=
  (Text.splitAll '/' (s.toList.drop 1)).map Segment.read

/-- The raw parameters of the segments of a path, if they fit the pattern.  The one at the end of
the pattern is not empty. -/
def matchSegments? : Pattern → List (List Char) → Option (List (String × List Char))
  | [], [] => some []
  | [.rest name], pieces =>
    let value := List.intercalate ['/'] pieces
    if value.isEmpty then none else some [(name, value)]
  | .literal text :: pattern, piece :: pieces =>
    if piece = text then matchSegments? pattern pieces else none
  | [.parameter name], [piece] => if piece.isEmpty then none else some [(name, piece)]
  | .parameter name :: pattern, piece :: pieces =>
    (matchSegments? pattern pieces).map ((name, piece) :: ·)
  | _, _ => none

/-- The route that a pattern describes. -/
def route (pattern : Pattern) : Route := fun path =>
  match path.toList with
  | '/' :: cs => matchSegments? pattern (Text.splitAll '/' cs)
  | _ => none

end Pattern

end Intake
