import Intake.Proofs.DeclaredSources
import Intake.Proofs.FirstViolation

/-!
# Registered names

Fields name rules and conversions that are looked up while a request is handled.  Picking goes on
without a conversion that it does not find, and validation blames the value for a rule that it does
not find, so that the check of schemas has to see to it that neither happens.

Main results:

- {lit}`pickStrictly` is picking that stops when it does not find a conversion.
- Theorem {lit}`Schema.Reaches.wellFormed`: in a well-formed schema the attributes of every field
  are well formed.
- Theorem {lit}`pickWith_eq`: picking with two ways to convert has the same results when they agree
  on the fields of the schema.
- Theorem {lit}`Schema.WellFormed.ne_unregistered`: no violation of a well-formed schema is a
  missing rule.
- Theorem {lit}`Schema.lookups_succeed`: with a schema that the check accepts every look-up finds
  something.
-/

namespace Intake

/-! ## Strict picking -/

/-- Why strict picking fails. -/
inductive StrictError where
  /-- There is no conversion with the name. -/
  | unregistered (name : String)
  /-- The request cannot be picked. -/
  | request (e : RequestError)

/-- Applies the conversion of a field and fails if it is not registered. -/
def Attributes.convertStrictly (settings : Settings) (a : Attributes) (path : Path)
    (value : Json) : Except StrictError Json :=
  match a.conversion? with
  | none => .ok value
  | some name =>
    match settings.conversions.get? name with
    | none => .error (.unregistered name)
    | some conversion =>
      (conversion value).mapError fun e => .request (.conversion path e)

/-- Picks as {lit}`pick` does, but fails at the first look-up that finds no conversion. -/
def pickStrictly (settings : Settings) (schema : Schema) (r : Request) :
    Except StrictError (Dict Json) :=
  pickWith (Attributes.convertStrictly settings)
    ((cleanBody settings.limits r).mapError .request) schema r

/-! ## Ways to convert that agree -/

section

variable {ε δ : Type} {schema : Schema} {convert : Converter ε} {convert' : Converter δ}
  {fail : ε → δ}

/-- Two ways to convert agree on the attributes of a field, up to their errors. -/
def Attributes.Agree (convert : Converter ε) (convert' : Converter δ) (fail : ε → δ)
    (a : Attributes) : Prop :=
  ∀ path value, convert' a path value = (convert a path value).mapError fail

/-- The fields of an object are picked alike when each of them is. -/
theorem Field.pickAllWith_eq {path : Path} {entries : Entries Json} (picked : Dict Json)
    (h : ∀ f ∈ schema, ∀ path found,
      Field.pickFromWith convert' path f found =
        (Field.pickFromWith convert path f found).mapError fail) :
    Field.pickAllWith convert' path entries picked schema =
      (Field.pickAllWith convert path entries picked schema).mapError fail := by
  rw [Field.pickAllWith_eq_pickEach, Field.pickAllWith_eq_pickEach, Outcome.mapError_map,
    pickEach_mapError fun f hf => h f hf _ _]

/-- A field is picked alike when the ways to convert agree on it and on all fields below it. -/
theorem Field.pickFromWith_eq
    (h : ∀ above f, schema.Reaches above f → f.attributes.Agree convert convert' fail) {f : Field}
    (hf : f ∈ schema) (path : Path) (found : Option Json) :
    Field.pickFromWith convert' path f found =
      (Field.pickFromWith convert path f found).mapError fail := by
  induction schema using Schema.induction generalizing f path found with
  | level schema ih =>
      have hagree : f.attributes.Agree convert convert' fail := h [] f (.here hf)
      cases f with
      | leaf a =>
          cases found with
          | none => rw [Field.pickFromWith, Field.pickFromWith]; rfl
          | some value =>
              rw [Field.pickFromWith, Field.pickFromWith, Outcome.mapError_map]
              exact congrArg (Except.map some) (hagree path value)
      | group a fields =>
          cases found with
          | none => rw [Field.pickFromWith, Field.pickFromWith]; rfl
          | some value =>
              have hinner : ∀ g ∈ fields, ∀ path found, Field.pickFromWith convert' path g found =
                  (Field.pickFromWith convert path g found).mapError fail := by
                intro g hg path found
                exact ih a fields hf (fun above g hg => h (a :: above) g (.inner hf hg)) hg path
                  found
              have hobjects : ∀ place entries,
                  (Field.pickAllWith convert' place entries ∅ fields).map Dict.entries =
                    ((Field.pickAllWith convert place entries ∅ fields).map
                      Dict.entries).mapError fail := by
                intro place entries
                rw [Outcome.mapError_map, Field.pickAllWith_eq ∅ hinner]
              rw [Field.pickFromWith, Field.pickFromWith, Outcome.mapError_bind,
                Json.mapObjectsM_mapError hobjects]
              congr 1
              funext picked
              rw [Outcome.mapError_map]
              exact congrArg (Except.map some) (hagree path picked)

/-- The same is picked from a request in two ways to convert that agree on the fields of the
schema. -/
theorem pickWith_eq
    (h : ∀ above f, schema.Reaches above f → f.attributes.Agree convert convert' fail)
    (body : Except ε (Option (Entries Json))) (r : Request) :
    pickWith convert' (body.mapError fail) schema r =
      (pickWith convert body schema r).mapError fail := by
  rw [pickWith, pickWith, Outcome.mapError_bind]
  congr 1
  funext body
  rw [pickFieldsWith_eq_pickEach, pickFieldsWith_eq_pickEach, Outcome.mapError_map,
    pickEach_mapError fun f hf => Field.pickFromWith_eq h hf _ _]

end

/-! ## Well-formed schemas -/

namespace Schema

variable {settings : Settings} {schema : Schema}

/-- In a well-formed schema the attributes of every field are well formed. -/
theorem Reaches.wellFormed {above : List Attributes} {f : Field} (h : schema.Reaches above f)
    (hschema : schema.WellFormed settings) : f.attributes.WellFormed settings := by
  induction h with
  | here hf =>
      cases hschema with
      | intro distinct attributes => exact attributes _ hf
  | inner hgroup h ih => exact ih (hschema.nested hgroup)

end Schema

namespace Attributes

variable {settings : Settings} {a : Attributes}

/-- The conversion that a well-formed field names is registered. -/
theorem WellFormed.exists_conversion (h : a.WellFormed settings) {name : String}
    (hname : a.conversion? = some name) :
    ∃ conversion, settings.conversions.get? name = some conversion :=
  Option.isSome_iff_exists.mp (h.conversion name hname)

theorem convert_of_get? {name : String} {conversion : Conversion}
    (hname : a.conversion? = some name)
    (hget : settings.conversions.get? name = some conversion) (path : Path) (value : Json) :
    a.convert settings path value = (conversion value).mapError (.conversion path) := by
  simp only [convert, hname, Option.bind_some, hget]

/-- For a well-formed field strict conversion fails as conversion does. -/
theorem WellFormed.agree (h : a.WellFormed settings) :
    a.Agree (convert settings) (convertStrictly settings) .request := by
  intro path value
  cases hname : a.conversion? with
  | none =>
      rw [convert_of_none hname, convertStrictly, hname]
      rfl
  | some name =>
      obtain ⟨conversion, hget⟩ := h.exists_conversion hname
      rw [convert_of_get? hname hget]
      simp only [convertStrictly, hname, hget]
      cases conversion value <;> rfl

end Attributes

namespace Schema

variable {settings : Settings} {schema : Schema}

/-- No violation of a well-formed schema is a missing rule. -/
theorem WellFormed.ne_unregistered (hschema : schema.WellFormed settings) {depth : Nat}
    {path : Path} {entries : Entries Json} {turn : Turn} {v : Violation}
    (h : schema.Violates settings depth path entries turn v) (name : String) :
    v.fault ≠ .unregistered name := by
  induction schema using Schema.induction generalizing depth path entries turn v with
  | level schema ih =>
      cases h with
      | tooDeep hdepth => exact nofun
      | @field _ _ _ _ _ f _ _ hf hfield =>
          have hmem := List.mem_of_getElem? hf
          generalize entries.get? f.key = found at hfield
          cases hfield with
          | required hrequired => exact nofun
          | rule hrule hfault =>
              cases hschema with
              | intro distinct attributes rules =>
                  obtain ⟨rule, hget⟩ :=
                    Option.isSome_iff_exists.mp (rules _ hmem _ (List.mem_of_getElem? hrule))
                  cases hfault with
                  | unregistered hnone =>
                      rw [hnone] at hget
                      cases hget
                  | refused hsome hrefuses => exact nofun
          | notObject hobject harray => exact nofun
          | item hitem hobject => exact nofun
          | object hinner => exact ih _ _ hmem (hschema.nested hmem) hinner
          | element hitem hinner => exact ih _ _ hmem (hschema.nested hmem) hinner

/-- Validation does not come upon a missing rule of a well-formed schema. -/
theorem WellFormed.validate_ne_unregistered (hschema : schema.WellFormed settings)
    (picked : Entries Json) (path : Path) (name : String) :
    validate settings schema picked ≠ .error ⟨path, .unregistered name⟩ := by
  intro h
  obtain ⟨turn, hviolates, -⟩ := (finds_enter schema picked).eq_error_iff.mp h
  exact hschema.ne_unregistered hviolates name rfl

end Schema

/-! ## Main result -/

/-- The value of a field before it is converted: the objects of a group are picked anew. -/
def Field.unconverted (settings : Settings) (path : Path) (value : Json) :
    Field → Except RequestError Json
  | .leaf _ => .ok value
  | .group _ fields =>
    Json.mapObjectsM
      (fun place entries => (Field.pickAll settings place entries ∅ fields).map Dict.entries) path
      value

/-- A value that is found for a field is picked by its conversion. -/
theorem Field.pickFrom_some (settings : Settings) (path : Path) (f : Field) (value : Json) :
    f.pickFrom settings path (some value) =
      f.unconverted settings path value >>= fun inner =>
        (f.attributes.convert settings path inner).map some := by
  cases f with
  | leaf a => exact pickFrom_leaf settings path a value
  | group a fields => exact pickFrom_group settings path a fields value

namespace Schema

/-- With a schema that the check accepts every look-up finds something.  Picking that stops when it
does not find a conversion picks the same from all requests, validation never comes upon a missing
rule, and whatever is found for a field with a conversion, at any depth, is picked converted. -/
theorem lookups_succeed {settings : Settings} {schema : Schema}
    (hcheck : schema.check settings = .ok ()) :
    (∀ r, pickStrictly settings schema r = (pick settings schema r).mapError .request) ∧
    (∀ picked path name, validate settings schema picked ≠ .error ⟨path, .unregistered name⟩) ∧
    ∀ above f name, schema.Reaches above f → f.attributes.conversion? = some name →
      ∃ conversion, settings.conversions.get? name = some conversion ∧
        ∀ path value, f.pickFrom settings path (some value) =
          f.unconverted settings path value >>= fun inner =>
            ((conversion inner).mapError (.conversion path)).map some := by
  have hschema := wellFormed_of_check hcheck
  refine ⟨?_, hschema.validate_ne_unregistered, ?_⟩
  · intro r
    exact pickWith_eq (fun above f hf => (hf.wellFormed hschema).agree) _ r
  · intro above f name hf hname
    obtain ⟨conversion, hget⟩ := (hf.wellFormed hschema).exists_conversion hname
    refine ⟨conversion, hget, ?_⟩
    intro path value
    rw [Field.pickFrom_some]
    simp only [Attributes.convert_of_get? hname hget]

/-- A parcel with its items, whose texts are cleaned. -/
def parcel : Schema :=
  [.leaf { name := "to", required := true, rules := ["not_blank"], conversion? := some "trim" },
    .group { name := "items", type := .array, conversion? := some "uppercase" }
      [.leaf { name := "sku", rules := ["not_blank"], conversion? := some "trim" }]]

/-- A request with two items, one of which has white space to be trimmed. -/
def parcelRequest : Request where
  body := some (.object
    [("items", .array [.object [("sku", .string " x1 ")], .object [("sku", .string "x2")]]),
      ("to", .string "Ann ")])

theorem parcel_lookups_succeed :
    parcel.check .standard = .ok () ∧
      pickStrictly .standard parcel parcelRequest =
        .ok (.ofList
          [("items", .array [.object [("sku", .string "x1")], .object [("sku", .string "x2")]]),
            ("to", .string "Ann")]) ∧
      validate .standard parcel [("to", .bool true)] ≠ .error ⟨[], .unregistered "not_blank"⟩ := by
  have hcheck : parcel.check .standard = .ok () := by decide
  obtain ⟨hpick, hvalidate, -⟩ := lookups_succeed hcheck
  refine ⟨hcheck, ?_, hvalidate _ _ _⟩
  rw [hpick]
  rfl

/-- Without the check a value may pass as it is, where strict picking fails. -/
example :
    pick .bare parcel parcelRequest =
        .ok (.ofList
          [("items", .array [.object [("sku", .string " x1 ")], .object [("sku", .string "x2")]]),
            ("to", .string "Ann ")]) ∧
      pickStrictly .bare parcel parcelRequest = .error (.unregistered "trim") :=
  ⟨rfl, rfl⟩

end Schema

end Intake
