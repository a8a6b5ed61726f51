import Intake.Proofs.Conformance
import Intake.Proofs.FirstViolation

/-!
# Aliases

An alias is another name for the key of a picked value.  Requests and messages know fields by their
names alone, so that two schemas that differ in aliases accept and refuse the same requests, with
the same messages, and give the same values under other keys.

Main results:

- {lit}`Schema.SameButAliases` compares schemas without the aliases of their fields.
- Definition {lit}`Schema.rename` replaces the keys of one schema by those of the other, level by
  level, and theorem {lit}`Schema.Realiased.get?_rename` says what a look-up finds then.
- Theorems {lit}`Schema.Realiased.pick_eq`, {lit}`Schema.Realiased.validateAll_eq` and
  {lit}`Schema.Realiased.coerceAll_eq` take the three stages one by one.
- Theorem {lit}`Schema.aliases_only_rename`: picking, validation and coercion commute with the
  replacement.
-/

namespace Intake

/-! ## Schemas that differ in aliases -/

/-- The attributes with another alias, or with none. -/
def Attributes.withAlias (a : Attributes) (alias? : Option String) : Attributes :=
  { a with alias? := alias? }

/-- The schemas differ in the aliases of their fields, at any depth, and in nothing else. -/
inductive Schema.SameButAliases : Schema → Schema → Prop
  /-- Both may have no fields. -/
  | nil : Schema.SameButAliases [] []
  /-- A leaf may have another alias. -/
  | leaf {a : Attributes} {alias? : Option String} {rest rest' : Schema}
    (hrest : Schema.SameButAliases rest rest') :
    Schema.SameButAliases (.leaf a :: rest) (.leaf (a.withAlias alias?) :: rest')
  /-- So may a group, and the fields below it. -/
  | group {a : Attributes} {alias? : Option String} {fields fields' rest rest' : Schema}
    (hfields : Schema.SameButAliases fields fields') (hrest : Schema.SameButAliases rest rest') :
    Schema.SameButAliases (.group a fields :: rest) (.group (a.withAlias alias?) fields' :: rest')

/-! ## Replacing keys -/

mutual

/-- Replaces the keys in the value of a field by those below another field. -/
def Field.rename : Field → Field → Json → Json
  | .leaf _, _, value => value
  | .group _ fields, g, value =>
    Json.mapObjects
      (fun entries =>
        (Dict.ofList (entries.map (Field.renameEntry fields (g.nested?.getD [])))).entries)
      value
termination_by structural f => f

/-- Replaces the key of an entry by the key of the other field in the place of its own. -/
def Field.renameEntry : List Field → List Field → String × Json → String × Json
  | [], _, entry => entry
  | f :: rest, others, entry =>
    match others with
    | [] => entry
    | g :: others =>
      if f.key = entry.1 then (g.key, Field.rename f g entry.2)
      else Field.renameEntry rest others entry
termination_by structural fields => fields

end

/-- Replaces the keys of the fields of a schema, at every depth, by those of the fields of another
schema in the same places. -/
def Schema.rename (schema schema' : Schema) (entries : Entries Json) : Dict Json :=
  .ofList (entries.map (Field.renameEntry schema schema'))

theorem Field.rename_leaf (a : Attributes) (g : Field) : Field.rename (.leaf a) g = id := by
  funext value
  rw [Field.rename, id_eq]

theorem Field.rename_group (a b : Attributes) (fields fields' : Schema) (value : Json) :
    Field.rename (.group a fields) (.group b fields') value =
      Json.mapObjects (fun entries => (Schema.rename fields fields' entries).entries) value := by
  rw [Field.rename]
  rfl

/-! ## Pairs of fields -/

/-- The schemas can be served, differ in aliases alone, and have groups whose objects come from
requests. -/
structure Schema.Realiased (settings : Settings) (schema schema' : Schema) : Prop where
  /-- The first schema can be served. -/
  left : schema.WellFormed settings
  /-- So can the second one. -/
  right : schema'.WellFormed settings
  /-- They differ in aliases alone. -/
  same : schema.SameButAliases schema'
  /-- The objects of groups come from requests. -/
  groups : ∀ a ∈ schema.groups, a.FromRequest settings

/-- The fields differ in aliases alone, and those below a group do so as schemas. -/
inductive Field.Realiased (settings : Settings) : Field → Field → Prop
  /-- A leaf may have another alias. -/
  | leaf (a : Attributes) (alias? : Option String) :
    Field.Realiased settings (.leaf a) (.leaf (a.withAlias alias?))
  /-- So may a group with its fields. -/
  | group (a : Attributes) (alias? : Option String) {fields fields' : Schema}
    (hgroup : a.FromRequest settings) (hfields : Schema.Realiased settings fields fields') :
    Field.Realiased settings (.group a fields) (.group (a.withAlias alias?) fields')

section

variable {settings : Settings} {schema schema' : Schema}

theorem Schema.SameButAliases.length_eq (h : schema.SameButAliases schema') :
    schema.length = schema'.length := by
  induction h with
  | nil => rfl
  | leaf _ ih => simp [ih]
  | group _ _ _ ih => simp [ih]

/-- Fields in the same places are of one kind and differ in aliases alone. -/
theorem Schema.SameButAliases.field (h : schema.SameButAliases schema') {f g : Field}
    (hmem : (f, g) ∈ schema.zip schema') :
    (∃ a alias?, f = .leaf a ∧ g = .leaf (a.withAlias alias?)) ∨
      ∃ a alias? fields fields', f = .group a fields ∧ g = .group (a.withAlias alias?) fields' ∧
        Schema.SameButAliases fields fields' := by
  induction h with
  | nil => cases hmem
  | leaf _ ih =>
      rcases List.mem_cons.mp hmem with heq | hmem
      · cases heq
        exact .inl ⟨_, _, rfl, rfl⟩
      · exact ih hmem
  | group hfields _ _ ih =>
      rcases List.mem_cons.mp hmem with heq | hmem
      · cases heq
        exact .inr ⟨_, _, _, _, rfl, rfl, hfields⟩
      · exact ih hmem

namespace Schema.Realiased

theorem field (h : Realiased settings schema schema') {f g : Field}
    (hmem : (f, g) ∈ schema.zip schema') : Field.Realiased settings f g := by
  obtain ⟨hf, hg⟩ := List.of_mem_zip hmem
  rcases h.same.field hmem with
    ⟨a, alias?, rfl, rfl⟩ | ⟨a, alias?, fields, fields', rfl, rfl, hsame⟩
  · exact .leaf a alias?
  · have hinner : ∀ b ∈ Schema.groups fields, b.FromRequest settings :=
      fun b hb => h.groups b (mem_groups_of_mem hf hb)
    exact .group a alias? (h.groups a (mem_groups hf))
      ⟨h.left.nested hf, h.right.nested hg, hsame, hinner⟩

theorem map_fst_zip (h : Realiased settings schema schema') :
    (schema.zip schema').map Prod.fst = schema :=
  List.map_fst_zip (Nat.le_of_eq h.same.length_eq)

theorem map_snd_zip (h : Realiased settings schema schema') :
    (schema.zip schema').map Prod.snd = schema' :=
  List.map_snd_zip (Nat.le_of_eq h.same.length_eq.symm)

theorem exists_right (h : Realiased settings schema schema') {f : Field} (hf : f ∈ schema) :
    ∃ g, (f, g) ∈ schema.zip schema' := by
  rw [← h.map_fst_zip] at hf
  obtain ⟨⟨_, g⟩, hmem, rfl⟩ := List.mem_map.mp hf
  exact ⟨g, hmem⟩

theorem exists_left (h : Realiased settings schema schema') {g : Field} (hg : g ∈ schema') :
    ∃ f, (f, g) ∈ schema.zip schema' := by
  rw [← h.map_snd_zip] at hg
  obtain ⟨⟨f, _⟩, hmem, rfl⟩ := List.mem_map.mp hg
  exact ⟨f, hmem⟩

/-- Fields in the same places are known by the key of the first one. -/
theorem eq_of_left_key_eq (h : Realiased settings schema schema') {p q : Field × Field}
    (hp : p ∈ schema.zip schema') (hq : q ∈ schema.zip schema') (heq : p.1.key = q.1.key) :
    p = q := by
  have hkeys : ((schema.zip schema').map fun p => p.1.key).Nodup := by
    have hnodup := h.left.nodup_keys
    rwa [← h.map_fst_zip, List.map_map] at hnodup
  exact List.inj_on_of_nodup_map hkeys hp hq heq

/-- They are known by the key of the second one as well. -/
theorem eq_of_right_key_eq (h : Realiased settings schema schema') {p q : Field × Field}
    (hp : p ∈ schema.zip schema') (hq : q ∈ schema.zip schema') (heq : p.2.key = q.2.key) :
    p = q := by
  have hkeys : ((schema.zip schema').map fun p => p.2.key).Nodup := by
    have hnodup := h.right.nodup_keys
    rwa [← h.map_snd_zip, List.map_map] at hnodup
  exact List.inj_on_of_nodup_map hkeys hp hq heq

end Schema.Realiased

/-! ## Look-ups after a replacement -/

/-- The entries are under the keys of fields of the schema. -/
def Schema.Declares (schema : Schema) (entries : Entries Json) : Prop :=
  ∀ key ∈ entries.keys, ∃ f ∈ schema, f.key = key

/-- The key of the first field is replaced by that of the second one. -/
theorem Field.renameEntry_of_mem_zip (hkeys : (schema.map Field.key).Nodup) {f g : Field}
    (hmem : (f, g) ∈ schema.zip schema') (value : Json) :
    Field.renameEntry schema schema' (f.key, value) = (g.key, Field.rename f g value) := by
  induction schema generalizing schema' with
  | nil => cases hmem
  | cons f' rest ih =>
      cases schema' with
      | nil => cases hmem
      | cons g' rest' =>
          obtain ⟨hfirst, hrest⟩ := List.nodup_cons.mp hkeys
          rw [Field.renameEntry]
          rcases List.mem_cons.mp hmem with heq | hmem
          · cases heq
            rw [if_pos rfl]
          · have hne : f'.key ≠ f.key := by
              intro heq
              exact hfirst (heq ▸ List.mem_map_of_mem (List.of_mem_zip hmem).1)
            rw [if_neg hne]
            exact ih hrest hmem

namespace Schema.Realiased

variable {entries : Entries Json}

/-- An entry of an object is one for a field of the first schema, and the key of the field in the
same place replaces its key. -/
theorem exists_renameEntry (h : Realiased settings schema schema')
    (hdeclared : schema.Declares entries) {entry : String × Json} (hentry : entry ∈ entries) :
    ∃ p ∈ schema.zip schema', p.1.key = entry.1 ∧
      Field.renameEntry schema schema' entry = (p.2.key, Field.rename p.1 p.2 entry.2) := by
  obtain ⟨f, hf, hkey⟩ := hdeclared entry.1 (Entries.mem_keys.mpr ⟨entry.2, hentry⟩)
  obtain ⟨g, hmem⟩ := h.exists_right hf
  refine ⟨(f, g), hmem, hkey, ?_⟩
  rw [← Field.renameEntry_of_mem_zip h.left.nodup_keys hmem, hkey]

/-- No two entries come under one key. -/
theorem nodup_keys_map (h : Realiased settings schema schema')
    (hdeclared : schema.Declares entries) (hkeys : entries.keys.Nodup) :
    (Entries.keys (entries.map (Field.renameEntry schema schema'))).Nodup := by
  rw [Entries.keys, List.map_map]
  refine List.Nodup.map_on ?_ (List.Nodup.of_map _ hkeys)
  intro x hx y hy heq
  obtain ⟨p, hp, hpkey, hrename⟩ := h.exists_renameEntry hdeclared hx
  obtain ⟨q, hq, hqkey, hrename'⟩ := h.exists_renameEntry hdeclared hy
  simp only [Function.comp_apply, hrename, hrename'] at heq
  have hpq := h.eq_of_right_key_eq hp hq heq
  exact List.inj_on_of_nodup_map hkeys hx hy (by rw [← hpkey, ← hqkey, hpq])

/-- A look-up under the key of the second field finds what stands under the key of the first
one. -/
theorem get?_rename (h : Realiased settings schema schema') (hdeclared : schema.Declares entries)
    (hkeys : entries.keys.Nodup) {f g : Field} (hmem : (f, g) ∈ schema.zip schema') :
    (schema.rename schema' entries).get? g.key = (entries.get? f.key).map (Field.rename f g) := by
  rw [Schema.rename, Dict.get?_ofList_of_nodup (h.nodup_keys_map hdeclared hkeys)]
  clear hkeys
  induction entries with
  | nil => rfl
  | cons entry rest ih =>
      have hrest : schema.Declares rest := fun key hkey => hdeclared key (.tail _ hkey)
      obtain ⟨p, hp, hpkey, hrename⟩ := h.exists_renameEntry hdeclared List.mem_cons_self
      rw [List.map_cons, hrename]
      obtain ⟨key, value⟩ := entry
      rw [Entries.get?, Entries.get?]
      by_cases heq : p.1.key = f.key
      · have hpair := h.eq_of_left_key_eq hp hmem heq
        rw [hpair] at hpkey ⊢
        rw [if_pos rfl, if_pos hpkey.symm]
        rfl
      · have hne : p.2.key ≠ g.key := fun hkey =>
          heq (congrArg (fun q => q.1.key) (h.eq_of_right_key_eq hp hmem hkey))
        rw [if_neg hne, if_neg fun hkey => heq (hpkey.trans hkey)]
        exact ih hrest

/-- After a replacement the entries are under the keys of fields of the second schema. -/
theorem declares_rename (h : Realiased settings schema schema')
    (hdeclared : schema.Declares entries) :
    schema'.Declares (schema.rename schema' entries).entries := by
  intro key hkey
  obtain ⟨value, hvalue⟩ := Entries.mem_keys.mp (Entries.mem_keys_ofList.mp hkey)
  obtain ⟨entry, hentry, heq⟩ := List.mem_map.mp hvalue
  obtain ⟨p, hp, -, hrename⟩ := h.exists_renameEntry hdeclared hentry
  rw [hrename] at heq
  exact ⟨p.2, (List.of_mem_zip hp).2, congrArg Prod.fst heq⟩

/-- An object with the same values under the keys of the second schema is the first object with its
keys replaced. -/
theorem eq_rename (h : Realiased settings schema schema') {renamed : Dict Json}
    (hdeclared : schema.Declares entries) (hdeclared' : schema'.Declares renamed.entries)
    (hkeys : entries.keys.Nodup)
    (hget : ∀ f g, (f, g) ∈ schema.zip schema' →
      renamed.get? g.key = (entries.get? f.key).map (Field.rename f g)) :
    renamed = schema.rename schema' entries := by
  refine Dict.ext_get? ?_
  intro key
  by_cases hkey : ∃ g ∈ schema', g.key = key
  · obtain ⟨g, hg, rfl⟩ := hkey
    obtain ⟨f, hmem⟩ := h.exists_left hg
    rw [hget f g hmem, h.get?_rename hdeclared hkeys hmem]
  · have hnone : ∀ d : Dict Json, schema'.Declares d.entries → d.get? key = none :=
      fun d hd => Dict.get?_eq_none_iff.mpr fun hmem => hkey (hd key hmem)
    rw [hnone _ hdeclared', hnone _ (h.declares_rename hdeclared)]

end Schema.Realiased

/-! ## Picking -/

namespace Field.Realiased

variable {f g : Field}

theorem name_eq (h : Field.Realiased settings f g) : g.name = f.name := by
  cases h <;> rfl

theorem find_eq (h : Field.Realiased settings f g) (r : Request) (body : Option (Entries Json)) :
    r.find body g.attributes = r.find body f.attributes := by
  cases h <;> rfl

theorem required_eq (h : Field.Realiased settings f g) :
    g.attributes.required = f.attributes.required := by
  cases h <;> rfl

end Field.Realiased

/-- A group whose objects come from requests has a conversion that does not look into them. -/
theorem Attributes.FromRequest.convert_mapObjects {a : Attributes} (h : a.FromRequest settings)
    (change : List (String × Json) → List (String × Json)) (path : Path) (value : Json) :
    a.convert settings path (Json.mapObjects change value) =
      (a.convert settings path value).map (Json.mapObjects change) := by
  unfold Attributes.convert
  split
  · next conversion hconversion =>
    obtain ⟨name, hname, hget⟩ := Option.bind_eq_some_iff.mp hconversion
    obtain ⟨ready, hready⟩ := h.conversion name conversion hname hget
    rw [Conversion.standard_mapObjects hready]
    cases conversion value <;> rfl
  · rfl

/-- What is picked field by field is under the keys of the fields. -/
theorem Schema.declares_of_pickEach {pickOne : Field → Except RequestError (Option Json)}
    {found : List (String × Json)} (h : pickEach pickOne schema = .ok found) :
    schema.Declares (Dict.ofList found).entries := by
  intro key hkey
  obtain ⟨value, hvalue⟩ := Entries.mem_keys.mp (Entries.mem_keys_ofList.mp hkey)
  obtain ⟨f, hf, hkey, -⟩ := exists_field_of_mem_pickEach h hvalue
  exact ⟨f, hf, hkey⟩

theorem Picked.declares {picked : Dict Json} (h : Picked settings schema picked) :
    schema.Declares picked.entries := by
  intro key hkey
  obtain ⟨value, hvalue⟩ := Dict.mem_keys.mp hkey
  obtain ⟨f, hf, hkey, -⟩ := h key value hvalue
  exact ⟨f, hf, hkey⟩

namespace Schema.Realiased

/-- Where fields in the same places pick the same but for the keys below them, so do the schemas. -/
theorem map_pickEach (h : Realiased settings schema schema')
    {pickOne pickOne' : Field → Except RequestError (Option Json)}
    (hpick : ∀ f g, (f, g) ∈ schema.zip schema' →
      pickOne' g = (pickOne f).map (Option.map (Field.rename f g))) :
    (pickEach pickOne' schema').map Dict.ofList =
      ((pickEach pickOne schema).map Dict.ofList).map (schema.rename schema' ·.entries) := by
  have herror : ∀ e,
      pickEach pickOne' schema' = .error e ↔ pickEach pickOne schema = .error e := by
    apply pickEach_eq_error_iff
    refine List.forall₂_iff_zip.mpr ⟨h.same.length_eq, ?_⟩
    intro f g hmem e
    rw [hpick f g hmem, Outcome.map_eq_error]
  cases hfound : pickEach pickOne schema with
  | error e =>
      rw [(herror e).mpr hfound]
      rfl
  | ok found =>
      cases hfound' : pickEach pickOne' schema' with
      | error e =>
          rw [(herror e).mp hfound'] at hfound
          cases hfound
      | ok found' =>
          refine congrArg Except.ok (h.eq_rename (declares_of_pickEach hfound)
            (declares_of_pickEach hfound') (Entries.nodup_keys (Dict.ofList found).sorted) ?_)
          intro f g hmem
          obtain ⟨hf, hg⟩ := List.of_mem_zip hmem
          have hleft := pickOne_eq_of_pickEach h.left.nodup_keys hfound hf
          have hright := pickOne_eq_of_pickEach h.right.nodup_keys hfound' hg
          rw [hpick f g hmem, hleft] at hright
          exact (Except.ok.inj hright).symm

/-- So it is for the objects of a group. -/
theorem pickAll_eq (h : Realiased settings schema schema')
    (hpick : ∀ f g, (f, g) ∈ schema.zip schema' → ∀ path found,
      g.pickFrom settings path found =
        (f.pickFrom settings path found).map (Option.map (Field.rename f g)))
    (path : Path) (entries : Entries Json) :
    Field.pickAll settings path entries ∅ schema' =
      (Field.pickAll settings path entries ∅ schema).map (schema.rename schema' ·.entries) := by
  rw [Field.pickAll_eq_pickEach, Field.pickAll_eq_pickEach]
  refine h.map_pickEach ?_
  intro f g hmem
  rw [hpick f g hmem, (h.field hmem).name_eq]

/-- A group picks the same but for the keys when its objects are picked so. -/
theorem pickFrom_group_eq {a : Attributes} (ha : a.FromRequest settings) (alias? : Option String)
    (hinner : ∀ place entries, Field.pickAll settings place entries ∅ schema' =
      (Field.pickAll settings place entries ∅ schema).map (schema.rename schema' ·.entries))
    (path : Path) (found : Option Json) :
    Field.pickFrom settings path (.group (a.withAlias alias?) schema') found =
      (Field.pickFrom settings path (.group a schema) found).map
        (Option.map (Field.rename (.group a schema) (.group (a.withAlias alias?) schema'))) := by
  cases found with
  | none =>
      rw [Field.pickFrom_none, Field.pickFrom_none]
      change Except.ok a.default? = _
      rw [Field.attributes, ha.default]
      rfl
  | some value =>
      have hobjects : ∀ place entries,
          (Field.pickAll settings place entries ∅ schema').map Dict.entries =
            ((Field.pickAll settings place entries ∅ schema).map Dict.entries).map
              fun entries => (schema.rename schema' entries).entries := by
        intro place entries
        rw [hinner]
        cases Field.pickAll settings place entries ∅ schema <;> rfl
      rw [Field.pickFrom_group, Field.pickFrom_group, Json.mapObjectsM_map hobjects]
      cases Json.mapObjectsM
        (fun place entries => (Field.pickAll settings place entries ∅ schema).map Dict.entries)
        path value with
      | error e => rfl
      | ok picked =>
          change (a.convert settings path (Json.mapObjects _ picked)).map some =
            ((a.convert settings path picked).map some).map _
          rw [ha.convert_mapObjects]
          cases a.convert settings path picked <;> simp [Except.map, Field.rename_group]

/-- Fields in the same places pick the same but for the keys below them. -/
theorem pickFrom_eq (h : Realiased settings schema schema') {f g : Field}
    (hmem : (f, g) ∈ schema.zip schema') (path : Path) (found : Option Json) :
    g.pickFrom settings path found =
      (f.pickFrom settings path found).map (Option.map (Field.rename f g)) := by
  induction schema using Schema.induction generalizing schema' f g path found with
  | level schema ih =>
      have hf := (List.of_mem_zip hmem).1
      cases h.field hmem with
      | leaf a alias? =>
          rw [Field.rename_leaf, Option.map_id, Except.map_id, id_eq]
          cases found <;> rfl
      | group a alias? hgroup hfields =>
          exact pickFrom_group_eq hgroup alias?
            (hfields.pickAll_eq fun f g hmem => ih a _ hf hfields hmem) path found

/-- Picking is the same but for the keys. -/
theorem pick_eq (h : Realiased settings schema schema') (r : Request) :
    pick settings schema' r = (pick settings schema r).map (schema.rename schema' ·.entries) := by
  rw [pick_eq_bind, pick_eq_bind]
  cases cleanBody settings.limits r with
  | error e => rfl
  | ok body =>
      change pickFields settings r body ∅ schema' = (pickFields settings r body ∅ schema).map _
      rw [pickFields_eq_pickEach, pickFields_eq_pickEach]
      refine h.map_pickEach ?_
      intro f g hmem
      rw [h.pickFrom_eq hmem, (h.field hmem).name_eq, (h.field hmem).find_eq]

/-! ## Validation -/

/-- Validation is the same for the objects with replaced keys. -/
theorem validateAll_eq (h : Realiased settings schema schema') {depth : Nat} {path : Path}
    {picked : Dict Json} (hpicked : Picked settings schema picked) :
    Field.validateAll settings depth path (schema.rename schema' picked.entries).entries schema' =
      Field.validateAll settings depth path picked.entries schema := by
  induction schema using Schema.induction generalizing schema' depth path picked with
  | level schema ih =>
      refine validateAll_congr (List.forall₂_iff_zip.mpr ⟨h.same.length_eq, ?_⟩)
      intro f g hmem
      have hf := (List.of_mem_zip hmem).1
      have hfield := h.field hmem
      have hget := h.get?_rename hpicked.declares (Entries.nodup_keys picked.sorted) hmem
      rw [Dict.get?] at hget
      rw [hget, hfield.name_eq]
      cases hvalue : picked.entries.get? f.key with
      | none =>
          simp only [Option.map_none, Field.validateFound, hfield.required_eq]
      | some value =>
          simp only [Option.map_some, Field.validateFound]
          cases hfield with
          | leaf a alias? =>
              rw [Field.rename_leaf, id_eq, Field.validate, Field.validate]
              rfl
          | group a alias? hgroup hfields =>
              rw [Field.rename_group, Field.validate, Field.validate]
              apply validateObjects_mapObjects
              intro place entries hentries
              obtain ⟨inner, hinner, rfl⟩ := hpicked.group h.left hgroup hf hvalue hentries
              rw [ih a _ hf hfields hinner]

/-! ## Coercion -/

/-- The value of a group is moved the same but for the keys when its objects are moved so. -/
theorem coerce_group_eq {a : Attributes} {alias? : Option String} {value : Json}
    (hinner : ∀ entries ∈ value.objects,
      Field.coerceAll (schema.rename schema' entries).entries schema' =
        (schema.rename schema' (Field.coerceAll entries schema)).entries) :
    Field.coerce (.group (a.withAlias alias?) schema')
        (Field.rename (.group a schema) (.group (a.withAlias alias?) schema') value) =
      Field.rename (.group a schema) (.group (a.withAlias alias?) schema')
        (Field.coerce (.group a schema) value) := by
  have hobjects :
      Json.mapObjects (fun entries => Field.coerceAll entries schema')
          (Json.mapObjects (fun entries => (schema.rename schema' entries).entries) value) =
        Json.mapObjects (fun entries => (schema.rename schema' entries).entries)
          (Json.mapObjects (fun entries => Field.coerceAll entries schema) value) := by
    rw [Json.mapObjects_mapObjects, Json.mapObjects_mapObjects]
    exact Json.mapObjects_congr hinner
  rw [Field.rename_group, Field.rename_group, Field.coerce, Field.coerce, hobjects]
  change (if a.type = .array then _ else _) = _
  split
  · exact (Json.mapObjects_wrapObject _ _).symm
  · rfl

/-- Coercion is the same but for the keys. -/
theorem coerceAll_eq (h : Realiased settings schema schema') {picked : Dict Json}
    (hpicked : Picked settings schema picked) :
    Field.coerceAll (schema.rename schema' picked.entries).entries schema' =
      (schema.rename schema' (Field.coerceAll picked.entries schema)).entries := by
  induction schema using Schema.induction generalizing schema' picked with
  | level schema ih =>
      have hkeys := Entries.nodup_keys picked.sorted
      let moved : Dict Json :=
        ⟨Field.coerceAll (schema.rename schema' picked.entries).entries schema',
          Field.sorted_coerceAll (schema.rename schema' picked.entries).sorted schema'⟩
      suffices heq : moved = schema.rename schema' (Field.coerceAll picked.entries schema) from
        congrArg Dict.entries heq
      apply h.eq_rename
      · intro key hkey
        rw [Field.keys_coerceAll] at hkey
        exact hpicked.declares key hkey
      · intro key hkey
        rw [Field.keys_coerceAll] at hkey
        exact h.declares_rename hpicked.declares key hkey
      · rw [Field.keys_coerceAll]
        exact hkeys
      · intro f g hmem
        obtain ⟨hf, hg⟩ := List.of_mem_zip hmem
        have hget := h.get?_rename hpicked.declares hkeys hmem
        rw [Dict.get?] at hget ⊢
        rw [Field.get?_coerceAll h.right.nodup_keys hg, Field.get?_coerceAll h.left.nodup_keys hf,
          hget]
        cases hvalue : picked.entries.get? f.key with
        | none => rfl
        | some value =>
            simp only [Option.map_some, Option.some_inj]
            cases h.field hmem with
            | leaf a alias? =>
                rw [Field.rename_leaf, id_eq, id_eq, Field.coerce, Field.coerce]
                rfl
            | group a alias? hgroup hfields =>
                apply coerce_group_eq
                intro entries hentries
                obtain ⟨inner, hinner, rfl⟩ := hpicked.group h.left hgroup hf hvalue hentries
                exact ih a _ hf hfields hinner

end Schema.Realiased

end

/-! ## Main result -/

namespace Schema

/-- Two schemas that the check accepts, that differ in aliases alone and whose groups take their
objects from requests, pick alike, with the keys of the one replaced by those of the other level by
level.  What they pick is validated alike, and coercion leaves it alike. -/
theorem aliases_only_rename {settings : Settings} {schema schema' : Schema}
    (hcheck : schema.check settings = .ok ()) (hcheck' : schema'.check settings = .ok ())
    (hsame : schema.SameButAliases schema')
    (hgroups : ∀ a ∈ schema.groups, a.FromRequest settings) (r : Request) :
    pick settings schema' r = (pick settings schema r).map (schema.rename schema' ·.entries) ∧
      ∀ picked, pick settings schema r = .ok picked →
        validate settings schema' (schema.rename schema' picked.entries).entries =
            validate settings schema picked.entries ∧
          coerceObject schema' (schema.rename schema' picked.entries).entries =
            (schema.rename schema' (coerceObject schema picked.entries)).entries := by
  have h : Realiased settings schema schema' :=
    ⟨wellFormed_of_check hcheck, wellFormed_of_check hcheck', hsame, hgroups⟩
  refine ⟨h.pick_eq r, ?_⟩
  intro picked hpick
  have hpicked := picked_of_pick hpick
  exact ⟨congrArg (enter settings.limits 1 []) (h.validateAll_eq hpicked),
    h.coerceAll_eq hpicked⟩

/-- An invoice with its lines. -/
def invoice : Schema :=
  [.leaf { name := "number", type := .int, required := true },
    .group { name := "lines", type := .array, conversion? := some "trim" }
      [.leaf { name := "sku", rules := ["not_blank"] }, .leaf { name := "qty", type := .int }]]

/-- The same invoice under the names of a database. -/
def invoiceColumns : Schema :=
  [.leaf { name := "number", alias? := some "invoice_no", type := .int, required := true },
    .group
      { name := "lines", alias? := some "entries", type := .array, conversion? := some "trim" }
      [.leaf { name := "sku", alias? := some "article", rules := ["not_blank"] },
        .leaf { name := "qty", type := .int }]]

/-- An invoice with one line that is no array. -/
def invoiceRequest : Request where
  body := some (.object
    [("lines", .object [("qty", .string "2"), ("sku", .string " ")]), ("number", .string "7")])

theorem invoice_aliases_only_rename :
    pick .standard invoiceColumns invoiceRequest =
        .ok (.ofList
          [("entries", .object [("article", .string " "), ("qty", .string "2")]),
            ("invoice_no", .string "7")]) ∧
      validate .standard invoiceColumns
          [("entries", .object [("article", .string " "), ("qty", .string "2")]),
            ("invoice_no", .string "7")] =
        .error ⟨[.name "lines", .name "sku"], .refused "not_blank" .blank⟩ := by
  have hgroups : ∀ a ∈ invoice.groups, a.FromRequest .standard := by
    intro a ha
    rw [List.mem_singleton.mp ha]
    exact ⟨rfl, fun name conversion _ hget => ⟨name, hget⟩⟩
  have hsame : invoice.SameButAliases invoiceColumns :=
    .leaf (.group (.leaf (.leaf .nil)) .nil)
  obtain ⟨hpick, hrest⟩ :=
    aliases_only_rename (by decide) (by decide) hsame hgroups invoiceRequest
  obtain ⟨hvalidate, -⟩ := hrest _ rfl
  exact ⟨hpick, hvalidate⟩

end Schema

end Intake
