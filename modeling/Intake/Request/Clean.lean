import Intake.Key
import Intake.Request.Basic
import Intake.Request.Error
import Intake.Settings

/-!
# Malformed keys

Keys that are not well formed are dropped from a body at every depth, and the depth of what
remains is limited.

Main results:

- Definition {lit}`Json.clean` drops malformed keys and limits the depth.
- Definition {lit}`Request.malformedKeys` counts the malformed keys of a request.
-/

namespace Intake

namespace Json

/-! ## Dropping -/

mutual

/-- The value without malformed keys, given its own depth; it must not nest deeper than the limit.
What stands under a malformed key does not count. -/
def clean (limits : Limits) (depth : Nat) : Json → Except RequestError Json
  | .object entries =>
    if limits.maxDepth < depth then .error (.tooDeep limits.maxDepth)
    else (cleanEntries limits (depth + 1) entries).map .object
  | .array items =>
    if limits.maxDepth < depth then .error (.tooDeep limits.maxDepth)
    else (cleanItems limits (depth + 1) items).map .array
  | value => .ok value
termination_by structural value => value

/-- The items of an array without malformed keys. -/
def cleanItems (limits : Limits) (depth : Nat) : List Json → Except RequestError (List Json)
  | [] => .ok []
  | item :: rest => do
    let item ← clean limits depth item
    let rest ← cleanItems limits depth rest
    return item :: rest
termination_by structural items => items

/-- The entries under well-formed keys, without malformed keys in their values. -/
def cleanEntries (limits : Limits) (depth : Nat) :
    List (String × Json) → Except RequestError (List (String × Json))
  | [] => .ok []
  | (key, value) :: rest =>
    if isValidKey limits.maxKeyLength key then do
      let value ← clean limits depth value
      let rest ← cleanEntries limits depth rest
      return (key, value) :: rest
    else cleanEntries limits depth rest
termination_by structural entries => entries

end

/-- The entries of an object under well-formed keys, given the depth of the object. -/
def cleanObject (limits : Limits) (depth : Nat) (entries : List (String × Json)) :
    Except RequestError (List (String × Json)) :=
  if limits.maxDepth < depth then .error (.tooDeep limits.maxDepth)
  else cleanEntries limits (depth + 1) entries

/-! ## Counting -/

mutual

/-- The number of malformed keys in a value, at every depth. -/
def malformedKeys (maxKeyLength : Nat) : Json → Nat
  | .object entries => malformedInEntries maxKeyLength entries
  | .array items => malformedInItems maxKeyLength items
  | _ => 0
termination_by structural value => value

/-- The number of malformed keys in the items of an array. -/
def malformedInItems (maxKeyLength : Nat) : List Json → Nat
  | [] => 0
  | item :: rest => malformedKeys maxKeyLength item + malformedInItems maxKeyLength rest
termination_by structural items => items

/-- The number of malformed keys among entries and in their values. -/
def malformedInEntries (maxKeyLength : Nat) : List (String × Json) → Nat
  | [] => 0
  | (key, value) :: rest =>
    (if isValidKey maxKeyLength key then 0 else 1) + malformedKeys maxKeyLength value
      + malformedInEntries maxKeyLength rest
termination_by structural entries => entries

end

end Json

namespace Request

/-- The number of pairs under malformed names. -/
def malformedPairs (maxKeyLength : Nat) (pairs : Pairs) : Nat :=
  pairs.countP fun pair => !isValidKey maxKeyLength pair.1

/-- The number of malformed keys of a request, from all its parts. -/
def malformedKeys (maxKeyLength : Nat) (r : Request) : Nat :=
  malformedPairs maxKeyLength r.path + malformedPairs maxKeyLength r.query
    + malformedPairs maxKeyLength r.headers + malformedPairs maxKeyLength r.cookies
    + (r.body.map (Json.malformedKeys maxKeyLength)).getD 0

end Request

end Intake
