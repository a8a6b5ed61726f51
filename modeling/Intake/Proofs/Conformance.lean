import Intake.Handler
import Intake.Proofs.Canonical
import Intake.Proofs.Coerce
import Intake.Proofs.Pick
import Intake.Proofs.Schema
import Intake.Proofs.Validate

/-!
# Output that conforms to its schema

A program that stores what a handler gives it relies on the handler for the keys: a client must not
get any value in that the schema does not declare.  No stage sees to that alone.  Picking takes
declared values, but it lets a group have a value without objects, validation refuses such a value,
and coercion changes values after they were accepted.

Main results:

- {lit}`Schema.Conforms` says that an object, and every object in its groups, has no other keys
  than declared ones, all keys that are required, and groups of the right kind.
- Theorem {lit}`conforms_coerceAll`: what was picked and accepted conforms once it is coerced.
- Theorem {lit}`Schema.Conforms.canonical`: it conforms in canonical form too.
- Theorem {lit}`Handler.conforms_of_handle`: whatever a handler gives for a request conforms.
-/

namespace Intake

/-! ## Conforming objects -/

/-- The object conforms to the schema at every depth. -/
inductive Schema.Conforms : Schema → List (String × Json) → Prop
  /-- Every key is declared, what is required is there, and the value of a group is an object or
  an array of objects, always an array where one is declared, each of which conforms. -/
  | intro {schema : Schema} {entries : List (String × Json)}
    (declared : ∀ entry ∈ entries, ∃ f ∈ schema, f.key = entry.1)
    (required : ∀ f ∈ schema, f.attributes.required = true →
      ∃ value, (f.key, value) ∈ entries)
    (kind : ∀ a fields value, Field.group a fields ∈ schema → (a.key, value) ∈ entries →
      value.IsGroup ∧ (a.type = .array → value.IsArray))
    (inner : ∀ a fields value, Field.group a fields ∈ schema → (a.key, value) ∈ entries →
      ∀ object ∈ value.objects, Schema.Conforms fields object) :
    Schema.Conforms schema entries

/-! ## Groups without objects of their own -/

mutual

/-- The attributes of the groups in a field, at every depth. -/
def Field.groups : Field → List Attributes
  | .leaf _ => []
  | .group a fields => a :: Field.groupsAll fields
termination_by structural field => field

/-- The attributes of the groups in a list of fields, at every depth. -/
def Field.groupsAll : List Field → List Attributes
  | [] => []
  | f :: rest => Field.groups f ++ Field.groupsAll rest
termination_by structural fields => fields

end

/-- The attributes of the groups in a schema, at every depth. -/
def Schema.groups (schema : Schema) : List Attributes :=
  Field.groupsAll schema

/-- The objects of the group come from requests: it has no default, and any conversion that it has
is a ready-made one. -/
structure Attributes.FromRequest (settings : Settings) (a : Attributes) : Prop where
  /-- There is no default. -/
  default : a.default? = none
  /-- A conversion is a ready-made one. -/
  conversion : ∀ name conversion, a.conversion? = some name →
    settings.conversions.get? name = some conversion →
    ∃ ready, Conversion.standard.get? ready = some conversion

theorem Schema.groups_subset {schema : Schema} {f : Field} (hf : f ∈ schema) :
    f.groups ⊆ schema.groups := by
  induction schema with
  | nil => cases hf
  | cons g rest ih =>
      intro a ha
      rw [Schema.groups, Field.groupsAll, List.mem_append]
      rcases List.mem_cons.mp hf with rfl | hf
      · exact Or.inl ha
      · exact Or.inr (ih hf ha)

theorem Schema.mem_groups {schema : Schema} {a : Attributes} {fields : Schema}
    (hf : Field.group a fields ∈ schema) : a ∈ schema.groups := by
  apply Schema.groups_subset hf
  rw [Field.groups]
  exact List.mem_cons_self

theorem Schema.mem_groups_of_mem {schema : Schema} {a b : Attributes} {fields : Schema}
    (hf : Field.group a fields ∈ schema) (hb : b ∈ fields.groups) : b ∈ schema.groups := by
  apply Schema.groups_subset hf
  rw [Field.groups]
  exact List.mem_cons_of_mem _ hb

/-- A group whose objects come from requests has a conversion that leaves them alone. -/
theorem Attributes.FromRequest.keepsObjects {settings : Settings} {a : Attributes}
    (h : a.FromRequest settings) : a.KeepsObjects settings := by
  intro path value value' hconvert
  unfold Attributes.convert at hconvert
  split at hconvert
  · next conversion hconversion =>
    obtain ⟨name, hname, hget⟩ := Option.bind_eq_some_iff.mp hconversion
    obtain ⟨ready, hready⟩ := h.conversion name conversion hname hget
    exact Conversion.objects_of_standard hready (Outcome.mapError_eq_ok.mp hconvert)
  · cases hconvert
    rfl

/-! ## Picked and accepted objects -/

section

variable {settings : Settings} {schema : Schema} {picked : Dict Json}

/-- A value after coercion was picked for the field with its key, and then moved. -/
theorem exists_picked_of_mem_coerceAll (hschema : schema.WellFormed settings) {f : Field}
    (hf : f ∈ schema) {value : Json} (h : (f.key, value) ∈ Field.coerceAll picked.entries schema) :
    ∃ before, picked.get? f.key = some before ∧ value = f.coerce before := by
  have hkeys : (Field.coerceAll picked.entries schema).keys.Nodup := by
    rw [Field.keys_coerceAll]
    exact Entries.nodup_keys picked.sorted
  have hget := (Entries.mem_iff_get?_eq_some hkeys).mp h
  rw [Field.get?_coerceAll hschema.nodup_keys hf] at hget
  obtain ⟨before, hbefore, hvalue⟩ := Option.map_eq_some_iff.mp hget
  exact ⟨before, hbefore, hvalue.symm⟩

/-- Every object in the value that was picked for a group was picked for the fields of the
group. -/
theorem Picked.group (h : Picked settings schema picked) (hschema : schema.WellFormed settings)
    {a : Attributes} (ha : a.FromRequest settings) {fields : Schema}
    (hf : Field.group a fields ∈ schema) {value : Json} (hvalue : picked.get? a.key = some value)
    {entries : Entries Json} (hentries : entries ∈ value.objects) :
    ∃ inner, Picked settings fields inner ∧ inner.entries = entries := by
  obtain ⟨g, hg, hkey, path, found, hpick⟩ := h a.key value hvalue
  -- The key belongs to one field alone, so that the value was picked for the group.
  have heq : g = .group a fields := hschema.eq_of_key_eq hg hf hkey
  rw [heq] at hpick
  exact picked_of_pickFrom_group ha.default ha.keepsObjects hpick hentries

/-- A value of a group after coercion was a group of accepted objects before. -/
theorem exists_group_of_mem_coerceAll (hschema : schema.WellFormed settings) {depth : Nat}
    {path : Path} (hvalid : Field.validateAll settings depth path picked.entries schema = .ok ())
    {a : Attributes} {fields : Schema} (hf : Field.group a fields ∈ schema) {value : Json}
    (h : (a.key, value) ∈ Field.coerceAll picked.entries schema) :
    ∃ before, picked.get? a.key = some before ∧ value = Field.coerce (.group a fields) before ∧
      before.IsGroup ∧ ∀ entries ∈ before.objects, ∃ place,
        Field.validateAll settings (depth + 1) place entries fields = .ok () := by
  obtain ⟨before, hbefore, hvalue⟩ := exists_picked_of_mem_coerceAll hschema hf h
  have haccepted := (Field.validateAll_eq_ok.mp hvalid _ hf).1 before hbefore
  exact ⟨before, hbefore, hvalue, Field.validate_group haccepted⟩

end

/-- What was picked for a schema and accepted conforms to the schema once it is coerced. -/
theorem conforms_coerceAll {settings : Settings} {depth : Nat} {path : Path} {schema : Schema}
    {picked : Dict Json} (hschema : schema.WellFormed settings)
    (hgroups : ∀ a ∈ schema.groups, a.FromRequest settings)
    (hpicked : Picked settings schema picked)
    (hvalid : Field.validateAll settings depth path picked.entries schema = .ok ()) :
    schema.Conforms (Field.coerceAll picked.entries schema) := by
  -- One level of the tree at a time: each object of a group was picked and accepted on its own, so
  -- that it conforms by the hypothesis for the schema of the group.
  induction schema using Schema.induction generalizing depth path picked with
  | level schema ih =>
      refine ⟨?_, ?_, ?_, ?_⟩
      · intro entry hentry
        have hkey : entry.1 ∈ picked.keys := by
          rw [Dict.keys, ← Field.keys_coerceAll picked.entries schema]
          exact Entries.mem_keys.mpr ⟨entry.2, hentry⟩
        obtain ⟨value, hvalue⟩ := Dict.mem_keys.mp hkey
        obtain ⟨f, hf, hkey, -⟩ := hpicked entry.1 value hvalue
        exact ⟨f, hf, hkey⟩
      · intro f hf hrequired
        apply Entries.mem_keys.mp
        rw [Field.keys_coerceAll]
        by_contra hmissing
        have hoptional := (Field.validateAll_eq_ok.mp hvalid f hf).2
          (Entries.get?_eq_none_iff.mpr hmissing)
        rw [hrequired] at hoptional
        cases hoptional
      · intro a fields value hf hmem
        obtain ⟨before, -, rfl, hobjects, -⟩ :=
          exists_group_of_mem_coerceAll hschema hvalid hf hmem
        have hcoerced := Field.coerce_group a fields hobjects
        exact ⟨hcoerced.1, hcoerced.2.1⟩
      · intro a fields value hf hmem object hobject
        obtain ⟨before, hbefore, rfl, hobjects, haccepted⟩ :=
          exists_group_of_mem_coerceAll hschema hvalid hf hmem
        rw [(Field.coerce_group a fields hobjects).2.2] at hobject
        obtain ⟨entries, hentries, rfl⟩ := List.mem_map.mp hobject
        obtain ⟨place, hplace⟩ := haccepted entries hentries
        have ha := hgroups a (Schema.mem_groups hf)
        have hinner : ∀ b ∈ Schema.groups fields, b.FromRequest settings :=
          fun b hb => hgroups b (Schema.mem_groups_of_mem hf hb)
        obtain ⟨inner, hinnerPicked, rfl⟩ := hpicked.group hschema ha hf hbefore hentries
        exact ih a fields hf (hschema.nested hf) hinner hinnerPicked hplace

/-! ## Canonical form -/

namespace Schema.Conforms

variable {settings : Settings} {schema : Schema} {entries : List (String × Json)}

/-- An object that conforms does not begin with the mark. -/
theorem embedding?_eq_none (h : schema.Conforms entries) (hschema : schema.WellFormed settings) :
    Json.embedding? entries = none := by
  cases entries with
  | nil => rfl
  | cons entry rest =>
      obtain ⟨declared, -, -, -⟩ := h
      obtain ⟨f, hf, hkey⟩ := declared entry List.mem_cons_self
      have hvalid := hschema.isValidKey_key hf
      rw [hkey] at hvalid
      exact Json.embedding?_eq_none_of_isValidKey hvalid

/-- The value of a group in the object that an object stands for is what a value of the group stands
for, and so are its objects. -/
theorem exists_group_of_mem_canonicalEntries (h : schema.Conforms entries)
    (hschema : schema.WellFormed settings) {entries' : List (String × Json)}
    (hentries' : Json.canonicalEntries entries = .ok entries') {a : Attributes} {fields : Schema}
    (hf : Field.group a fields ∈ schema) {value' : Json}
    (hmem : (a.key, value') ∈ Entries.ofList entries') :
    ∃ value, (a.key, value) ∈ entries ∧ value'.IsGroup ∧ (value.IsArray → value'.IsArray) ∧
      ∀ object' ∈ value'.objects, ∃ object ∈ value.objects,
        (Json.object object).canonical = .ok (.object object') := by
  obtain ⟨-, -, kind, inner⟩ := h
  obtain ⟨value, hvalue, hstands⟩ := Json.exists_of_mem_canonicalEntries hentries' hmem
  have hmarks : ∀ object ∈ value.objects, Json.embedding? object = none := by
    intro object hobject
    exact (inner a fields value hf hvalue object hobject).embedding?_eq_none (hschema.nested hf)
  exact ⟨value, hvalue, Json.canonical_group (kind a fields value hf hvalue).1 hmarks hstands⟩

/-- An object that conforms stands for an object that conforms. -/
theorem canonical (h : schema.Conforms entries) (hschema : schema.WellFormed settings)
    {value : Json} (hvalue : (Json.object entries).canonical = .ok value) :
    ∃ entries', value = .object entries' ∧ schema.Conforms entries' := by
  -- The keys of fields are well formed, so that no object on the way is taken for an embedded text.
  induction schema using Schema.induction generalizing entries value with
  | level schema ih =>
      have hmark := h.embedding?_eq_none hschema
      obtain ⟨entries', hentries', rfl⟩ := (Json.canonical_object_eq_ok hmark).mp hvalue
      have hparts := h
      obtain ⟨declared, required, kind, inner⟩ := hparts
      refine ⟨_, rfl, ?_, ?_, ?_, ?_⟩
      · intro entry hentry
        obtain ⟨value, hvalue, -⟩ := Json.exists_of_mem_canonicalEntries hentries' hentry
        exact declared (entry.1, value) hvalue
      · intro f hf hrequired
        have hkey := Entries.mem_keys.mpr (required f hf hrequired)
        rw [← Json.keys_canonicalEntries hentries', ← Entries.mem_keys_ofList] at hkey
        exact Entries.mem_keys.mp hkey
      · intro a fields value' hf hmem
        obtain ⟨value, hvalue, hobjects, harray, -⟩ :=
          h.exists_group_of_mem_canonicalEntries hschema hentries' hf hmem
        exact ⟨hobjects, fun htype => harray ((kind a fields value hf hvalue).2 htype)⟩
      · intro a fields value' hf hmem object' hobject'
        obtain ⟨value, hvalue, -, -, hobjects⟩ :=
          h.exists_group_of_mem_canonicalEntries hschema hentries' hf hmem
        obtain ⟨object, hobject, hstands⟩ := hobjects object' hobject'
        obtain ⟨entries'', heq, hconforms⟩ :=
          ih a fields hf (inner a fields value hf hvalue object hobject) (hschema.nested hf)
            hstands
        cases heq
        exact hconforms

end Schema.Conforms

/-! ## Handlers -/

namespace Handler

/-- Whatever a handler gives for a request, as a value of no type of its own, is an object that
conforms to the schema, as long as the objects of its groups come from requests. -/
theorem conforms_of_handle (handler : Handler Json) (hdestination : handler.destination = .any)
    (hgroups : ∀ a ∈ handler.schema.groups, a.FromRequest handler.settings) (r : Request)
    {value : Json} (h : handler.handle r = .ok value) :
    ∃ entries, value = .object entries ∧ handler.schema.Conforms entries := by
  have hschema := Schema.wellFormed_of_check handler.check_eq
  obtain ⟨picked, hpick, hrest⟩ := Outcome.bind_eq_ok.mp h
  obtain ⟨hvalid, hdecode⟩ := Outcome.test_bind_eq_ok.mp hrest
  rw [Outcome.mapError_eq_ok] at hpick hvalid hdecode
  have hconforms := conforms_coerceAll hschema hgroups (picked_of_pick hpick)
    (validateAll_of_validate hvalid)
  rw [decode, hdestination, Destination.any, Outcome.mapError_eq_ok] at hdecode
  exact hconforms.canonical hschema hdecode

/-- A handler for the items in the basket of a user, in the order of an array. -/
def basket : Handler Json where
  schema :=
    [.leaf { name := "user", required := true },
      .group { name := "items", type := .array, conversion? := some "trim" }
        [.leaf { name := "sku", alias? := some "article", required := true }]]
  settings := .standard
  destination := .any
  check_eq := by decide

/-- A basket with one item that is no array and two keys that are not declared. -/
def basketRequest : Request where
  body := some (.object
    [("admin", .bool true),
      ("items", .object [("price", .string "0"), ("sku", .string "x1")]),
      ("user", .string "7")])

theorem basket_conforms_of_handle :
    ∃ entries,
      Json.object [("items", .array [.object [("article", .string "x1")]]),
        ("user", .string "7")] = .object entries ∧
      basket.schema.Conforms entries := by
  have hgroups : ∀ a ∈ basket.schema.groups, a.FromRequest basket.settings := by
    intro a ha
    rw [List.mem_singleton.mp ha]
    refine ⟨rfl, ?_⟩
    intro name conversion _ hget
    exact ⟨name, hget⟩
  have hhandle : basket.handle basketRequest =
      .ok (.object [("items", .array [.object [("article", .string "x1")]]),
        ("user", .string "7")]) := by
    rfl
  exact conforms_of_handle basket rfl hgroups basketRequest hhandle

end Handler

end Intake
