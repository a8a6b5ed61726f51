import Intake.Proofs.DeclaredSources
import Intake.Proofs.MalformedKeys

/-!
# Projecting a request

Picking first cleans the whole body and then looks the declared fields up in what remains.  The
same values are found the other way round: the fields are looked up in the request as it came, and
malformed keys are taken out of the values that are found.  No field is lost to the cleaning, since
its name is well formed, and none overwrites another one, since no two fields share a key.

Main results:

- Definition {lit}`project` looks the fields up first, at every level, and cleans afterwards.
- {lit}`Schema.Collects` says that an outcome is made of what was found for single fields: each
  value under the key of its own field, or the first error in the order of the fields.
- Theorem {lit}`Field.pickFrom_strip`: a field picks from a cleaned value what it projects from the
  value as it came.
- Theorem {lit}`Schema.pick_eq_project`: unless the body is nested too deep, picking and projecting
  give the same values, or fail with the same conversion of the same field.
-/

namespace Intake

/-! ## Looking up first -/

/-- The value with malformed keys taken out of everything but the objects that a group looks at:
itself, or those among its items. -/
def Json.stripRest (maxKeyLength : Nat) : Json → Json
  | .object entries => .object entries
  | .array items =>
    .array (items.map fun item => if item.isObject then item else item.strip maxKeyLength)
  | value => value

mutual

/-- The value of a field, given what was found for it in data as it came. -/
def Field.project (settings : Settings) (path : Path) :
    Field → Option Json → Except RequestError (Option Json)
  | .leaf a, found =>
    match found with
    | none => .ok a.default?
    | some value =>
      (a.convert settings path (value.strip settings.limits.maxKeyLength)).map some
  | .group a fields, found =>
    match found with
    | none => .ok a.default?
    | some value => do
      let inner ← Json.mapObjectsM
        (fun place entries =>
          (Field.projectAll settings place (fun g => Entries.get? entries g.name) fields).map
            Entries.ofList)
        path (value.stripRest settings.limits.maxKeyLength)
      (a.convert settings path inner).map some
termination_by structural field => field

/-- The values of the fields of the object at {lit}`path` under their keys, given what is found for
each field. -/
def Field.projectAll (settings : Settings) (path : Path) (found : Field → Option Json) :
    List Field → Except RequestError (List (String × Json))
  | [] => .ok []
  | f :: rest => do
    let value ← Field.project settings (path.child f.name) f (found f)
    let others ← Field.projectAll settings path found rest
    return (value.map (f.key, ·)).toList ++ others
termination_by structural fields => fields

end

/-- The object that a schema makes of the entries of the object at {lit}`path`. -/
def Schema.projectObject (settings : Settings) (path : Path) (schema : Schema)
    (entries : Entries Json) : Except RequestError (Dict Json) :=
  (Field.projectAll settings path (fun f => entries.get? f.name) schema).map Dict.ofList

/-- What a field finds in a request as it came, with malformed keys in its body. -/
def Request.findRaw (r : Request) (f : Field) : Option Json :=
  r.find (r.body.bind Json.entries?) f.attributes

/-- The values that a schema declares, looked up in a request as it came. -/
def project (settings : Settings) (schema : Schema) (r : Request) :
    Except RequestError (Dict Json) :=
  (Field.projectAll settings [] r.findRaw schema).map Dict.ofList

/-- The outcome is made of those for the fields of an object: each value stands under the key of
its own field and nothing else does, or the first error in the order of the fields is given. -/
structure Schema.Collects (schema : Schema) (one : Field → Except RequestError (Option Json))
    (outcome : Except RequestError (Dict Json)) : Prop where
  /-- With success there are the values of all fields and no others. -/
  ok : ∀ picked, outcome = .ok picked ↔
    (∀ f ∈ schema, one f = .ok (picked.get? f.key)) ∧
      ∀ key, key ∉ schema.map Field.key → picked.get? key = none
  /-- A failure is that of the first field that fails. -/
  error : ∀ e, outcome = .error e ↔
    ∃ before f after, schema = before ++ f :: after ∧
      (∀ g ∈ before, ∃ value, one g = .ok value) ∧ one f = .error e

/-! ## Fields of one object -/

section

variable {one : Field → Except RequestError (Option Json)} {fields : Schema}

theorem pickEach_eq_error {e : RequestError} :
    pickEach one fields = .error e ↔
      ∃ before f after, fields = before ++ f :: after ∧
        (∀ g ∈ before, ∃ value, one g = .ok value) ∧ one f = .error e := by
  rw [← Outcome.mapM_eq_error]
  induction fields with
  | nil => exact ⟨nofun, nofun⟩
  | cons f rest ih =>
      rw [pickEach, Outcome.mapM_cons]
      cases one f with
      | error e' => simp [bind, Except.bind]
      | ok value =>
          change (pickEach one rest).map _ = .error e ↔ (rest.mapM one).map _ = .error e
          rw [Outcome.map_eq_error, Outcome.map_eq_error, ih]

/-- Where no two fields share a key, the values of the fields are collected one by one. -/
theorem collects_pickEach (hkeys : (fields.map Field.key).Nodup) :
    fields.Collects one ((pickEach one fields).map Dict.ofList) := by
  have hok : ∀ picked, (pickEach one fields).map Dict.ofList = .ok picked →
      (∀ f ∈ fields, one f = .ok (picked.get? f.key)) ∧
        ∀ key, key ∉ fields.map Field.key → picked.get? key = none := by
    intro picked hpicked
    obtain ⟨found, hfound, rfl⟩ := Outcome.map_eq_ok.mp hpicked
    refine ⟨fun f hf => pickOne_eq_of_pickEach hkeys hfound hf, ?_⟩
    intro key hkey
    rw [Dict.get?_eq_none_iff]
    intro hmem
    obtain ⟨value, hentry⟩ := Entries.mem_keys.mp (Entries.mem_keys_ofList.mp hmem)
    obtain ⟨f, hf, heq, -⟩ := exists_field_of_mem_pickEach hfound hentry
    exact hkey (List.mem_map.mpr ⟨f, hf, heq⟩)
  refine ⟨fun picked => ⟨hok picked, ?_⟩, fun e => by rw [Outcome.map_eq_error, pickEach_eq_error]⟩
  rintro ⟨hvalues, hothers⟩
  obtain ⟨found, hfound⟩ := exists_pickEach_eq_ok.mpr fun f hf => ⟨_, hvalues f hf⟩
  have hcollected : (pickEach one fields).map Dict.ofList = .ok (Dict.ofList found) := by
    rw [hfound]
    rfl
  obtain ⟨hvalues', hothers'⟩ := hok _ hcollected
  rw [hcollected]
  congr 1
  refine Dict.ext_get? ?_
  intro key
  by_cases hkey : key ∈ fields.map Field.key
  · obtain ⟨f, hf, rfl⟩ := List.mem_map.mp hkey
    exact Except.ok.inj ((hvalues' f hf).symm.trans (hvalues f hf))
  · rw [hothers' key hkey, hothers key hkey]

end

section

variable {settings : Settings}

theorem Field.projectAll_eq_pickEach (path : Path) (found : Field → Option Json)
    (fields : Schema) :
    Field.projectAll settings path found fields =
      pickEach (fun f => f.project settings (path.child f.name) (found f)) fields := by
  induction fields with
  | nil => rfl
  | cons f rest ih =>
      rw [projectAll, pickEach, ih]
      rfl

/-- What is projected from an object is collected from its fields. -/
theorem Schema.collects_projectObject {schema : Schema} (hschema : schema.WellFormed settings)
    (path : Path) (entries : Entries Json) :
    schema.Collects (fun f => f.project settings (path.child f.name) (entries.get? f.name))
      (schema.projectObject settings path entries) := by
  rw [projectObject, Field.projectAll_eq_pickEach]
  exact collects_pickEach hschema.nodup_keys

/-- What is projected from a request is collected from the fields of the schema. -/
theorem Schema.collects_project {schema : Schema} (hschema : schema.WellFormed settings)
    (r : Request) :
    schema.Collects (fun f => f.project settings [.name f.name] (r.findRaw f))
      (Intake.project settings schema r) := by
  rw [Intake.project, Field.projectAll_eq_pickEach]
  exact collects_pickEach hschema.nodup_keys

end

/-! ## Cleaning before and after -/

namespace Json

variable {maxKeyLength : Nat}

/-- A well-formed key keeps its value, without the malformed keys in it. -/
theorem get?_stripEntries {key : String} (hkey : isValidKey maxKeyLength key = true)
    (entries : Entries Json) :
    Entries.get? (stripEntries maxKeyLength entries) key =
      (entries.get? key).map (strip maxKeyLength) := by
  induction entries with
  | nil => rfl
  | cons entry rest ih =>
      obtain ⟨k, value⟩ := entry
      by_cases heq : k = key
      · subst heq
        simp [stripEntries, hkey, Entries.get?]
      · rw [stripEntries]
        split <;> simp [Entries.get?, heq, ih]

theorem stripItems_eq_map (items : List Json) :
    stripItems maxKeyLength items = items.map (strip maxKeyLength) := by
  induction items with
  | nil => rfl
  | cons item rest ih => rw [stripItems, ih, List.map_cons]

variable {ε : Type} {f g : ObjectStep ε}

theorem mapObjectM_strip
    (h : ∀ place entries, g place (stripEntries maxKeyLength entries) = f place entries)
    (path : Path) (value : Json) :
    mapObjectM g path (value.strip maxKeyLength) =
      mapObjectM f path (if value.isObject then value else value.strip maxKeyLength) := by
  cases value with
  | object entries => simp only [strip, isObject, if_true, mapObjectM, h]
  | null | bool _ | number _ | string _ | array _ => rfl

theorem mapItemsM_strip
    (h : ∀ place entries, g place (stripEntries maxKeyLength entries) = f place entries)
    (path : Path) (n : Nat) (items : List Json) :
    mapItemsM g path n (items.map (strip maxKeyLength)) =
      mapItemsM f path n
        (items.map fun item => if item.isObject then item else item.strip maxKeyLength) := by
  induction items generalizing n with
  | nil => rfl
  | cons item rest ih =>
      rw [List.map_cons, List.map_cons, mapItemsM, mapItemsM, mapObjectM_strip h, ih]

/-- A visit of the objects of a cleaned value is one of the objects as they came, with everything
else cleaned. -/
theorem mapObjectsM_strip
    (h : ∀ place entries, g place (stripEntries maxKeyLength entries) = f place entries)
    (path : Path) (value : Json) :
    mapObjectsM g path (value.strip maxKeyLength) =
      mapObjectsM f path (value.stripRest maxKeyLength) := by
  cases value with
  | array items =>
      rw [strip, stripRest, mapObjectsM, mapObjectsM, stripItems_eq_map, mapItemsM_strip h]
  | object entries => simp only [strip, stripRest, mapObjectsM, mapObjectM, h]
  | null | bool _ | number _ | string _ => rfl

end Json

section

variable {settings : Settings} {schema : Schema}

/-- The fields of an object are picked from its cleaned entries as they are projected from those
that came, when each of them is. -/
theorem Field.pickAll_stripEntries (hschema : schema.WellFormed settings)
    (h : ∀ f ∈ schema, ∀ path found,
      f.pickFrom settings path (found.map (Json.strip settings.limits.maxKeyLength)) =
        f.project settings path found) (path : Path) (entries : Entries Json) :
    Field.pickAll settings path (Json.stripEntries settings.limits.maxKeyLength entries) ∅
        schema = schema.projectObject settings path entries := by
  rw [Field.pickAll_eq_pickEach, Schema.projectObject, Field.projectAll_eq_pickEach]
  change (pickEach _ schema).map Dict.ofList = _
  rw [pickEach_congr]
  intro f hf
  rw [Json.get?_stripEntries (hschema.isValidKey_name hf)]
  exact h f hf _ _

/-- A field picks from a cleaned value what it projects from the value as it came. -/
theorem Field.pickFrom_strip (hschema : schema.WellFormed settings) {f : Field} (hf : f ∈ schema)
    (path : Path) (found : Option Json) :
    f.pickFrom settings path (found.map (Json.strip settings.limits.maxKeyLength)) =
      f.project settings path found := by
  induction schema using Schema.induction generalizing f path found with
  | level schema ih =>
      cases found with
      | none => cases f <;> rw [project] <;> rfl
      | some value =>
          cases f with
          | leaf a => rw [project]; rfl
          | group a fields =>
              have hfields := hschema.nested hf
              have hobject : ∀ place entries,
                  (Field.pickAll settings place
                      (Json.stripEntries settings.limits.maxKeyLength entries) ∅ fields).map
                        Dict.entries =
                    (Field.projectAll settings place (fun g => Entries.get? entries g.name)
                      fields).map Entries.ofList := by
                intro place entries
                rw [Field.pickAll_stripEntries hfields
                  fun g hg path found => ih a fields hf hfields hg path found, Schema.projectObject]
                cases Field.projectAll settings place (fun g => Entries.get? entries g.name)
                  fields <;> rfl
              rw [Option.map_some, pickFrom_group, project, Json.mapObjectsM_strip hobject]

/-- What a field finds in a request with a cleaned body is what it finds in the request as it came,
without malformed keys. -/
theorem Request.find_stripEntries {maxKeyLength : Nat} {a : Attributes}
    (hname : isValidKey maxKeyLength a.name = true) (r : Request)
    (entries : Option (Entries Json)) :
    r.find (entries.map (Json.stripEntries maxKeyLength)) a =
      (r.find entries a).map (Json.strip maxKeyLength) := by
  have htexts : ∀ texts, a.ofTexts texts = (a.ofTexts texts).map (Json.strip maxKeyLength) := by
    intro texts
    unfold Attributes.ofTexts
    split
    · split
      · rfl
      · simp [Json.strip, Json.stripItems_eq_map]
    · cases texts <;> rfl
  unfold Request.find
  split
  · cases entries with
    | none => rfl
    | some entries => exact Json.get?_stripEntries hname entries
  · exact htexts _
  · exact htexts _
  · exact htexts _

end

/-! ## Failing conversions -/

/-- The names on the way to a place. -/
def Path.names (path : Path) : List String :=
  path.filterMap fun
    | .name s => some s
    | .index _ => none

theorem Path.names_child (path : Path) (name : String) :
    (path.child name).names = path.names ++ [name] := by
  simp [names, child]

theorem Path.names_item (path : Path) (n : Nat) : (path.item n).names = path.names := by
  simp [names, item]

namespace Json

variable {ε : Type} {f : ObjectStep ε} {path : Path} {e : ε}

theorem mapObjectM_eq_error {value : Json} (h : mapObjectM f path value = .error e) :
    ∃ entries, f path entries = .error e := by
  cases value with
  | object entries => exact ⟨entries, Outcome.map_eq_error.mp h⟩
  | null | bool _ | number _ | string _ | array _ => cases h

theorem mapItemsM_eq_error {n : Nat} {items : List Json}
    (h : mapItemsM f path n items = .error e) :
    ∃ place entries, place.names = path.names ∧ f place entries = .error e := by
  induction items generalizing n with
  | nil => cases h
  | cons item rest ih =>
      rw [mapItemsM_cons, Outcome.bind_eq_error] at h
      rcases h with h | ⟨item', -, h⟩
      · obtain ⟨entries, hentries⟩ := mapObjectM_eq_error h
        exact ⟨path.item n, entries, path.names_item n, hentries⟩
      · exact ih (Outcome.map_eq_error.mp h)

/-- A visit of objects fails as it does for one of them, which no name but those of the value leads
to. -/
theorem mapObjectsM_eq_error {value : Json} (h : mapObjectsM f path value = .error e) :
    ∃ place entries, place.names = path.names ∧ f place entries = .error e := by
  cases value with
  | array items => exact mapItemsM_eq_error (Outcome.map_eq_error.mp h)
  | null | bool _ | number _ | string _ | object _ =>
      simp only [mapObjectsM] at h
      obtain ⟨entries, hentries⟩ := mapObjectM_eq_error h
      exact ⟨path, entries, rfl, hentries⟩

end Json

theorem Attributes.convert_eq_error {settings : Settings} {a : Attributes} {path : Path}
    {value : Json} {e : RequestError} (h : a.convert settings path value = .error e) :
    ∃ failure, e = .conversion path failure := by
  unfold Attributes.convert at h
  split at h
  · obtain ⟨failure, -, rfl⟩ := Outcome.mapError_eq_error.mp h
    exact ⟨failure, rfl⟩
  · cases h

section

variable {settings : Settings} {schema : Schema}

/-- Projecting the fields of an object fails with a conversion of one of them or of one below
them. -/
theorem Schema.exists_reaches_of_projectAll_eq_error {path : Path} {found : Field → Option Json}
    {e : RequestError} (h : Field.projectAll settings path found schema = .error e) :
    ∃ above f place failure, schema.Reaches above f ∧ e = .conversion place failure ∧
      place.names = path.names ++ (above.map Attributes.name ++ [f.name]) := by
  induction schema using Schema.induction generalizing path found with
  | level schema ih =>
      rw [Field.projectAll_eq_pickEach, pickEach_eq_error] at h
      obtain ⟨before, f, after, hschema, -, hfails⟩ := h
      have hf : f ∈ schema := hschema ▸ List.mem_append_right _ List.mem_cons_self
      have hown : (∃ failure, e = .conversion (path.child f.name) failure) →
          ∃ above g place failure, schema.Reaches above g ∧ e = .conversion place failure ∧
            place.names = path.names ++ (above.map Attributes.name ++ [g.name]) := by
        rintro ⟨failure, rfl⟩
        exact ⟨[], f, _, failure, .here hf, rfl, path.names_child f.name⟩
      cases f with
      | leaf a =>
          simp only [Field.project] at hfails
          split at hfails
          · cases hfails
          · exact hown (Attributes.convert_eq_error (Outcome.map_eq_error.mp hfails))
      | group a fields =>
          simp only [Field.project] at hfails
          split at hfails
          · cases hfails
          · rcases Outcome.bind_eq_error.mp hfails with hinner | ⟨inner, -, hconvert⟩
            · obtain ⟨place, entries, hplace, hobject⟩ := Json.mapObjectsM_eq_error hinner
              obtain ⟨above, g, place', failure, hg, rfl, hnames⟩ :=
                ih a fields hf (Outcome.map_eq_error.mp hobject)
              refine ⟨a :: above, g, place', failure, .inner hf hg, rfl, ?_⟩
              rw [hnames, hplace, Path.names_child]
              simp [Field.name, Field.attributes]
            · exact hown (Attributes.convert_eq_error (Outcome.map_eq_error.mp hconvert))

/-! ## Main result -/

/-- A body that is an object is cleaned, unless it is nested too deep. -/
theorem cleanBody_eq_ok {r : Request} (hbody : ∀ body, r.body = some body → body.isObject = true)
    (hdepth : ∀ limit, cleanBody settings.limits r ≠ .error (.tooDeep limit)) :
    cleanBody settings.limits r = .ok ((r.body.bind Json.entries?).map
      (Json.stripEntries settings.limits.maxKeyLength)) := by
  unfold cleanBody at hdepth ⊢
  cases hvalue : r.body with
  | none => rfl
  | some body =>
      have hobject := hbody body hvalue
      cases body with
      | object entries =>
          simp only [hvalue, Json.cleanObject_eq, Limits.within] at hdepth ⊢
          split
          · rfl
          · next hlevels =>
            rw [if_neg hlevels] at hdepth
            exact absurd rfl (hdepth _)
      | null | bool _ | number _ | string _ | array _ => cases hobject

namespace Schema

/-- For a schema that can be served and a request without a body or with an object for one, picking
is projecting, unless the body is nested too deep.  At every level what is projected is collected
from the fields: each value under the key of its own field, or the first failure in their order.
Such a failure is one of the conversion of a field, whose place has the names that lead to it. -/
theorem pick_eq_project (hcheck : schema.check settings = .ok ()) {r : Request}
    (hbody : ∀ body, r.body = some body → body.isObject = true)
    (hdepth : ∀ limit, pick settings schema r ≠ .error (.tooDeep limit)) :
    pick settings schema r = project settings schema r ∧
      schema.Collects (fun f => f.project settings [.name f.name] (r.findRaw f))
        (project settings schema r) ∧
      (∀ above a fields, schema.Reaches above (.group a fields) → ∀ path (entries : Entries Json),
        Collects fields (fun f => f.project settings (path.child f.name) (entries.get? f.name))
          (projectObject settings path fields entries)) ∧
      ∀ e, pick settings schema r = .error e → ∃ above f place failure,
        schema.Reaches above f ∧ e = .conversion place failure ∧
          place.names = above.map Attributes.name ++ [f.name] := by
  have hschema := wellFormed_of_check hcheck
  have hcleans : ∀ limit, cleanBody settings.limits r ≠ .error (.tooDeep limit) := by
    intro limit h
    refine hdepth limit ?_
    rw [pick_eq_bind, h]
    rfl
  have hclean := cleanBody_eq_ok hbody hcleans
  have hpick : pick settings schema r = project settings schema r := by
    rw [pick_eq_bind, hclean, project, Field.projectAll_eq_pickEach]
    change pickFields settings r _ ∅ schema = _
    rw [pickFields_eq_pickEach]
    change (pickEach _ schema).map Dict.ofList = _
    rw [pickEach_congr]
    intro f hf
    rw [r.find_stripEntries (hschema.isValidKey_name hf)]
    exact Field.pickFrom_strip hschema hf _ _
  refine ⟨hpick, collects_project hschema r, ?_, ?_⟩
  · intro above a fields h path entries
    exact collects_projectObject (Reaches.wellFormed_fields hschema h) path entries
  · intro e he
    rw [hpick] at he
    obtain ⟨above, f, place, failure, hf, heq, hnames⟩ :=
      exists_reaches_of_projectAll_eq_error (Outcome.map_eq_error.mp he)
    exact ⟨above, f, place, failure, hf, heq, hnames⟩

end Schema

end

namespace Schema

/-- An album of a label, which a header names, with its tracks. -/
def album : Schema :=
  [.leaf { name := "X-Label", alias? := some "label", source := .header },
    .leaf { name := "title", alias? := some "name", conversion? := some "trim" },
    .group { name := "tracks", type := .array }
      [.leaf { name := "id", conversion? := some "uuid" },
        .leaf { name := "tags", type := .object }]]

/-- An album with malformed keys at its top level, in the tags of a track, and in an item that is
no track. -/
def albumRequest : Request where
  headers := [("x-label", "Verve"), ("x-label", "ECM")]
  body := some (.object
    [("$set", .object [("title", .null)]), ("title", .string " Blue "),
      ("tracks", .array
        [.object [("tags", .object [("a b", .null), ("ok", .bool true)])],
          .array [.object [("a b", .null)]]])])

theorem album_pick_eq_project :
    album.check .standard = .ok () ∧
      (∀ body, albumRequest.body = some body → body.isObject = true) ∧
      (∀ limit, pick .standard album albumRequest ≠ .error (.tooDeep limit)) ∧
      pick .standard album albumRequest = project .standard album albumRequest ∧
      project .standard album albumRequest = .ok (.ofList
        [("label", .string "Verve"), ("name", .string "Blue"),
          ("tracks", .array
            [.object [("tags", .object [("ok", .bool true)])], .array [.object []]])]) := by
  have hcheck : album.check .standard = .ok () := by decide
  have hbody : ∀ body, albumRequest.body = some body → body.isObject = true := by
    intro body h
    cases h
    rfl
  have hdepth : ∀ limit, pick .standard album albumRequest ≠ .error (.tooDeep limit) := by
    intro limit h
    cases h
  exact ⟨hcheck, hbody, hdepth, (pick_eq_project hcheck hbody hdepth).1, rfl⟩

/-- The first conversion that fails is that of the second track. -/
example :
    project .standard album { body := some (.object
      [("title", .null), ("tracks", .array [.object [], .object [("id", .string "x")]])]) } =
      .error (.conversion [.name "tracks", .index 1, .name "id"] .notUuid) := by
  rfl

end Schema

end Intake
