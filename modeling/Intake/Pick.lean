import Intake.Event
import Intake.Json.Walk
import Intake.Request.Clean
import Intake.Schema.Field

/-!
# Picking declared values

The values that a schema declares are picked out of a request.  Nothing else is, and nothing is
judged yet.

Main results:

- Definition {lit}`pickWith` picks for any way to convert: {lit}`Field.pickFromWith` one field, and
  {lit}`Field.pickAllWith` the fields of an object.
- Definition {lit}`pick` is its instance for the conversions of the settings; it gives the picked
  values under the keys of their fields.
-/

namespace Intake

/-! ## Finding values -/

/-- The texts of a name as a value: all of them for an array, else the first one. -/
def Attributes.ofTexts (a : Attributes) (texts : List String) : Option Json :=
  if a.type = .array then
    if texts.isEmpty then none else some (.array (texts.map .string))
  else texts.head?.map .string

/-- The value of a field in a request, given the entries of the cleaned body.  The path comes
before the query string. -/
def Request.find (r : Request) (body : Option (Entries Json)) (a : Attributes) : Option Json :=
  match a.source with
  | .body => body.bind fun entries => entries.get? a.name
  | .url =>
    let fromPath := valuesOf r.path a.name
    a.ofTexts (if fromPath.isEmpty then valuesOf r.query a.name else fromPath)
  | .header => a.ofTexts (headerValuesOf r.headers a.name)
  | .cookie => a.ofTexts (valuesOf r.cookies a.name)

/-! ## Picking fields -/

/-- A way to convert the value of a field at a place. -/
abbrev Converter (ε : Type) := Attributes → Path → Json → Except ε Json

section

variable {ε : Type} (convert : Converter ε)

mutual

/-- Picks a field from the value that was found for it: the default if there is none, else the
value with the objects of a group picked anew, and converted. -/
def Field.pickFromWith (path : Path) : Field → Option Json → Except ε (Option Json)
  | .leaf a, found =>
    match found with
    | none => .ok a.default?
    | some value => (convert a path value).map some
  | .group a fields, found =>
    match found with
    | none => .ok a.default?
    | some value => do
      let picked ← Json.mapObjectsM
        (fun place entries => (Field.pickAllWith place entries ∅ fields).map Dict.entries)
        path value
      (convert a path picked).map some
termination_by structural field => field

/-- Picks the fields of the object at {lit}`path` from its entries and puts the values to those
already picked. -/
def Field.pickAllWith (path : Path) (entries : Entries Json) (picked : Dict Json) :
    List Field → Except ε (Dict Json)
  | [] => .ok picked
  | f :: rest => do
    match ← Field.pickFromWith (path.child f.name) f (entries.get? f.name) with
    | some value => Field.pickAllWith path entries (picked.insert f.key value) rest
    | none => Field.pickAllWith path entries picked rest
termination_by structural fields => fields

end

/-- Picks the fields of a schema from a request and the entries of its cleaned body. -/
def pickFieldsWith (r : Request) (body : Option (Entries Json)) (picked : Dict Json) :
    Schema → Except ε (Dict Json)
  | [] => .ok picked
  | f :: rest => do
    match ← f.pickFromWith convert [.name f.name] (r.find body f.attributes) with
    | some value => pickFieldsWith r body (picked.insert f.key value) rest
    | none => pickFieldsWith r body picked rest

/-- Picks the values that a schema declares out of a request whose body can be cleaned. -/
def pickWith (body : Except ε (Option (Entries Json))) (schema : Schema) (r : Request) :
    Except ε (Dict Json) := do
  let body ← body
  pickFieldsWith convert r body ∅ schema

end

/-! ## Picking with registered conversions -/

/-- Applies the conversion of a field, if it has one that is registered. -/
def Attributes.convert (settings : Settings) (a : Attributes) (path : Path) (value : Json) :
    Except RequestError Json :=
  match a.conversion?.bind settings.conversions.get? with
  | some conversion => (conversion value).mapError (.conversion path)
  | none => .ok value

/-- Picks a field from the value that was found for it, with the conversions of the settings. -/
def Field.pickFrom (settings : Settings) (path : Path) (f : Field) (found : Option Json) :
    Except RequestError (Option Json) :=
  f.pickFromWith (Attributes.convert settings) path found

/-- Picks the fields of the object at {lit}`path`, with the conversions of the settings. -/
def Field.pickAll (settings : Settings) (path : Path) (entries : Entries Json)
    (picked : Dict Json) (fields : List Field) : Except RequestError (Dict Json) :=
  Field.pickAllWith (Attributes.convert settings) path entries picked fields

/-- Picks the fields of a request, with the conversions of the settings. -/
def pickFields (settings : Settings) (r : Request) (body : Option (Entries Json))
    (picked : Dict Json) (schema : Schema) : Except RequestError (Dict Json) :=
  pickFieldsWith (Attributes.convert settings) r body picked schema

/-- The entries of the body of a request without malformed keys. -/
def cleanBody (limits : Limits) (r : Request) : Except RequestError (Option (Entries Json)) :=
  match r.body with
  | none => .ok none
  | some (.object entries) => (Json.cleanObject limits 1 entries).map some
  | some _ => .error .bodyNotObject

/-- Picks the values that a schema declares out of a request. -/
def pick (settings : Settings) (schema : Schema) (r : Request) :
    Except RequestError (Dict Json) :=
  pickWith (Attributes.convert settings) (cleanBody settings.limits r) schema r

section

variable (settings : Settings) (path : Path)

/-- Where nothing is found a field has its default. -/
theorem Field.pickFrom_none (f : Field) :
    f.pickFrom settings path none = .ok f.attributes.default? := by
  cases f <;> rw [Field.pickFrom, Field.pickFromWith, Field.attributes]

/-- The value of a leaf is converted. -/
theorem Field.pickFrom_leaf (a : Attributes) (value : Json) :
    Field.pickFrom settings path (.leaf a) (some value) =
      (a.convert settings path value).map some := by
  rw [Field.pickFrom, Field.pickFromWith]

/-- The objects in the value of a group are picked anew before it is converted. -/
theorem Field.pickFrom_group (a : Attributes) (fields : Schema) (value : Json) :
    Field.pickFrom settings path (.group a fields) (some value) =
      Json.mapObjectsM
        (fun place entries => (Field.pickAll settings place entries ∅ fields).map Dict.entries) path
        value >>= fun picked => (a.convert settings path picked).map some := by
  rw [Field.pickFrom, Field.pickFromWith]
  rfl

/-- The body is cleaned before anything is picked. -/
theorem pick_eq_bind (schema : Schema) (r : Request) :
    pick settings schema r =
      cleanBody settings.limits r >>= fun body => pickFields settings r body ∅ schema :=
  rfl

end

/-- What is reported of a request while it is picked: how many malformed keys it has, if any. -/
def pickEvents (settings : Settings) (r : Request) : List Event :=
  match r.malformedKeys settings.limits.maxKeyLength with
  | 0 => []
  | n => [⟨.debug, "Dropped malformed request keys", [("dropped", toString n)]⟩]

end Intake
