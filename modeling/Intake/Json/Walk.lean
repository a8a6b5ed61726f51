import Intake.Json.Value
import Intake.Path

/-!
# Objects inside a value

The value of a group of fields is an object or an array of objects.  A function on objects is
carried over to such values.

Main results:

- Definition {lit}`Json.mapObjects` applies a function to the objects of a value and leaves
  everything else alone, and {lit}`Json.mapObjectsM` does so with a function that may fail and
  that is told the place of the object.
-/

namespace Intake.Json

/-- Applies a function to a value that is an object and leaves any other one alone. -/
def mapObject (f : List (String × Json) → List (String × Json)) : Json → Json
  | .object entries => .object (f entries)
  | value => value

/-- Applies a function to an object, or to the objects that are items of an array. -/
def mapObjects (f : List (String × Json) → List (String × Json)) : Json → Json
  | .array items => .array (items.map (mapObject f))
  | value => mapObject f value

section

variable {ε : Type}

/-- A function on the entries of an object that is told its place and may fail. -/
abbrev ObjectStep (ε : Type) :=
  Path → List (String × Json) → Except ε (List (String × Json))

/-- Applies a function to a value that is an object and leaves any other one alone. -/
def mapObjectM (f : ObjectStep ε) (path : Path) : Json → Except ε Json
  | .object entries => (f path entries).map .object
  | value => .ok value

/-- Applies a function to the objects among the items of an array from position {lit}`n` on. -/
def mapItemsM (f : ObjectStep ε) (path : Path) (n : Nat) : List Json → Except ε (List Json)
  | [] => .ok []
  | item :: rest =>
    match mapObjectM f (path.item n) item with
    | .error e => .error e
    | .ok item => (mapItemsM f path (n + 1) rest).map (item :: ·)

/-- Applies a function to an object, or to the objects that are items of an array. -/
def mapObjectsM (f : ObjectStep ε) (path : Path) : Json → Except ε Json
  | .array items => (mapItemsM f path 0 items).map .array
  | value => mapObjectM f path value

end

end Intake.Json
