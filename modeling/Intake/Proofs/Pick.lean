import Intake.Pick
import Intake.Proofs.Objects
import Mathlib.Data.List.Nodup

/-!
# What is picked

The fields of an object are picked one by one, and each value is kept under the key of its field.
The same holds for the request itself and for every object below it.

Main results:

- Definition {lit}`pickEach` picks the fields one by one; theorems
  {lit}`Field.pickAllWith_eq_pickEach` and {lit}`pickFieldsWith_eq_pickEach` read the two loops in
  terms of it, and theorem {lit}`pickEach_eq_error_iff` compares two runs that fail.
- {lit}`Picked` says that every entry was picked for a field, and theorem {lit}`picked_of_pick`
  has it for the result of picking.
- Theorem {lit}`picked_of_pickFrom_group`: so it is for every object in the value of a group.
-/

namespace Intake

variable {ε δ : Type}

/-! ## One field after the other -/

/-- Picks the fields one by one and keeps each value under the key of its field. -/
def pickEach (pickOne : Field → Except ε (Option Json)) :
    Schema → Except ε (List (String × Json))
  | [] => .ok []
  | f :: rest =>
    pickOne f >>= fun value =>
      (pickEach pickOne rest).map ((value.map (f.key, ·)).toList ++ ·)

theorem pickEach_congr {pickOne pickOne' : Field → Except ε (Option Json)}
    {fields : Schema} (h : ∀ f ∈ fields, pickOne f = pickOne' f) :
    pickEach pickOne fields = pickEach pickOne' fields := by
  induction fields with
  | nil => rfl
  | cons f rest ih =>
      obtain ⟨hf, hrest⟩ := List.forall_mem_cons.mp h
      rw [pickEach, pickEach, hf, ih hrest]

/-- A run whose fields fail with other errors fails with the other error. -/
theorem pickEach_mapError {pickOne : Field → Except ε (Option Json)}
    {pickOne' : Field → Except δ (Option Json)} {fail : ε → δ} {fields : Schema}
    (h : ∀ f ∈ fields, pickOne' f = (pickOne f).mapError fail) :
    pickEach pickOne' fields = (pickEach pickOne fields).mapError fail := by
  induction fields with
  | nil => rfl
  | cons f rest ih =>
      obtain ⟨hf, hrest⟩ := List.forall_mem_cons.mp h
      rw [pickEach, pickEach, Outcome.mapError_bind, hf]
      congr 1
      funext value
      rw [Outcome.mapError_map, ih hrest]

/-- Two runs fail alike when they do so field by field. -/
theorem pickEach_eq_error_iff {pickOne pickOne' : Field → Except ε (Option Json)}
    {fields fields' : Schema}
    (h : List.Forall₂ (fun f g => ∀ e, pickOne' g = .error e ↔ pickOne f = .error e) fields
      fields') (e : ε) :
    pickEach pickOne' fields' = .error e ↔ pickEach pickOne fields = .error e := by
  induction h with
  | nil => exact Iff.rfl
  | @cons f g rest rest' hfield _ ih =>
      rw [pickEach, pickEach]
      cases hf : pickOne f with
      | error e' =>
          rw [(hfield e').mpr hf]
          exact Iff.rfl
      | ok value =>
          cases hg : pickOne' g with
          | error e' =>
              rw [(hfield e').mp hg] at hf
              cases hf
          | ok value' =>
              change (pickEach pickOne' rest').map _ = _ ↔ (pickEach pickOne rest).map _ = _
              rw [Outcome.map_eq_error, Outcome.map_eq_error, ih]

section

variable {pickOne : Field → Except ε (Option Json)} {f : Field} {rest : Schema}

/-- What is picked for one field is put in before the others have their turn. -/
theorem map_insertAll_pickEach_cons (picked : Dict Json) :
    (pickEach pickOne (f :: rest)).map picked.insertAll = pickOne f >>= fun value =>
      (pickEach pickOne rest).map
        (picked.insertAll (value.map (f.key, ·)).toList).insertAll := by
  rw [pickEach]
  cases pickOne f with
  | error e => rfl
  | ok value =>
      change ((pickEach pickOne rest).map _).map picked.insertAll = (pickEach pickOne rest).map _
      cases pickEach pickOne rest with
      | error e => rfl
      | ok found => simp [Except.map, Dict.insertAll, Entries.insertAll]

/-- Every entry was picked for some field. -/
theorem exists_field_of_mem_pickEach {fields : Schema} {found : List (String × Json)}
    (h : pickEach pickOne fields = .ok found) {entry : String × Json} (hentry : entry ∈ found) :
    ∃ f ∈ fields, f.key = entry.1 ∧ pickOne f = .ok (some entry.2) := by
  induction fields generalizing found with
  | nil =>
      cases h
      cases hentry
  | cons f rest ih =>
      obtain ⟨value, hvalue, hrest⟩ := Outcome.bind_eq_ok.mp h
      obtain ⟨found', hfound', rfl⟩ := Outcome.map_eq_ok.mp hrest
      rcases List.mem_append.mp hentry with hmem | hmem
      · obtain ⟨v, rfl, heq⟩ := Option.map_eq_some_iff.mp (Option.mem_toList.mp hmem)
        exact ⟨f, List.mem_cons_self, congrArg Prod.fst heq, by rw [hvalue, ← heq]⟩
      · obtain ⟨g, hg, hkey, hpick⟩ := ih hfound' hmem
        exact ⟨g, List.mem_cons_of_mem _ hg, hkey, hpick⟩

theorem exists_pickEach_eq_ok {fields : Schema} :
    (∃ found, pickEach pickOne fields = .ok found) ↔
      ∀ f ∈ fields, ∃ value, pickOne f = .ok value := by
  induction fields with
  | nil => simp [pickEach]
  | cons f rest ih =>
      simp only [pickEach, Outcome.bind_eq_ok, Outcome.map_eq_ok, List.forall_mem_cons, ← ih]
      constructor
      · rintro ⟨_, value, hvalue, found, hfound, -⟩
        exact ⟨⟨value, hvalue⟩, found, hfound⟩
      · rintro ⟨⟨value, hvalue⟩, found, hfound⟩
        exact ⟨_, value, hvalue, found, hfound, rfl⟩

theorem mem_pickEach {fields : Schema} {found : List (String × Json)}
    (h : pickEach pickOne fields = .ok found) (hf : f ∈ fields) {value : Json}
    (hvalue : pickOne f = .ok (some value)) : (f.key, value) ∈ found := by
  induction fields generalizing found with
  | nil => cases hf
  | cons g rest ih =>
      obtain ⟨first, hfirst, hrest⟩ := Outcome.bind_eq_ok.mp h
      obtain ⟨found', hfound', rfl⟩ := Outcome.map_eq_ok.mp hrest
      rcases List.mem_cons.mp hf with rfl | hf
      · rw [hfirst] at hvalue
        cases hvalue
        exact List.mem_append_left _ List.mem_cons_self
      · exact List.mem_append_right _ (ih hfound' hf)

/-- Where no two fields share a key, a look-up finds under the key of a field what was picked for
it. -/
theorem pickOne_eq_of_pickEach {fields : Schema} (hkeys : (fields.map Field.key).Nodup)
    {found : List (String × Json)} (h : pickEach pickOne fields = .ok found) (hf : f ∈ fields) :
    pickOne f = .ok ((Dict.ofList found).get? f.key) := by
  obtain ⟨value?, hvalue⟩ := exists_pickEach_eq_ok.mp ⟨found, h⟩ f hf
  -- Whatever stands under the key was picked for a field with that key, which is this one.
  have hfound : ∀ value, (Dict.ofList found).get? f.key = some value → value? = some value := by
    intro value hget
    have hmem := Entries.mem_of_mem_ofList (Dict.mem_entries_iff.mpr hget)
    obtain ⟨g, hg, hkey, hpick⟩ := exists_field_of_mem_pickEach h hmem
    have heq : g = f := List.inj_on_of_nodup_map hkeys hg hf hkey
    rw [heq, hvalue] at hpick
    exact Except.ok.inj hpick
  rw [hvalue]
  congr 1
  cases hget : (Dict.ofList found).get? f.key with
  | some value => exact hfound value hget
  | none =>
      cases value? with
      | none => rfl
      | some value =>
          have hmem : f.key ∈ Entries.keys found :=
            Entries.mem_keys.mpr ⟨value, mem_pickEach h hf hvalue⟩
          exact absurd (Entries.mem_keys_ofList.mpr hmem) (Dict.get?_eq_none_iff.mp hget)

end

/-! ## The two loops -/

section

variable (convert : Converter ε) (picked : Dict Json) (fields : Schema)

/-- The fields of an object below the request are picked one by one. -/
theorem Field.pickAllWith_eq_pickEach (path : Path) (entries : Entries Json) :
    Field.pickAllWith convert path entries picked fields =
      (pickEach (fun f => f.pickFromWith convert (path.child f.name) (entries.get? f.name))
        fields).map picked.insertAll := by
  induction fields generalizing picked with
  | nil => rfl
  | cons f rest ih =>
      rw [map_insertAll_pickEach_cons, Field.pickAllWith]
      congr 1
      funext value
      cases value with
      | none => exact ih picked
      | some value => exact ih (picked.insert f.key value)

/-- The fields of the request are picked one by one. -/
theorem pickFieldsWith_eq_pickEach (r : Request) (body : Option (Entries Json)) :
    pickFieldsWith convert r body picked fields =
      (pickEach (fun f => f.pickFromWith convert [.name f.name] (r.find body f.attributes))
        fields).map picked.insertAll := by
  induction fields generalizing picked with
  | nil => rfl
  | cons f rest ih =>
      rw [map_insertAll_pickEach_cons, pickFieldsWith]
      congr 1
      funext value
      cases value with
      | none => exact ih picked
      | some value => exact ih (picked.insert f.key value)

end

/-- So are they with the conversions of the settings. -/
theorem Field.pickAll_eq_pickEach (settings : Settings) (path : Path) (entries : Entries Json)
    (picked : Dict Json) (fields : Schema) :
    Field.pickAll settings path entries picked fields =
      (pickEach (fun f => f.pickFrom settings (path.child f.name) (entries.get? f.name))
        fields).map picked.insertAll :=
  Field.pickAllWith_eq_pickEach _ picked fields path entries

theorem pickFields_eq_pickEach (settings : Settings) (r : Request) (body : Option (Entries Json))
    (picked : Dict Json) (fields : Schema) :
    pickFields settings r body picked fields =
      (pickEach (fun f => f.pickFrom settings [.name f.name] (r.find body f.attributes))
        fields).map picked.insertAll :=
  pickFieldsWith_eq_pickEach _ picked fields r body

section

variable {settings : Settings} {fields : Schema}

/-- The same is picked from two objects when every field picks the same from what it finds. -/
theorem Field.pickAll_congr {path : Path} {entries entries' : Entries Json} (picked : Dict Json)
    (h : ∀ f ∈ fields, f.pickFrom settings (path.child f.name) (entries'.get? f.name) =
      f.pickFrom settings (path.child f.name) (entries.get? f.name)) :
    Field.pickAll settings path entries' picked fields =
      Field.pickAll settings path entries picked fields := by
  rw [Field.pickAll_eq_pickEach, Field.pickAll_eq_pickEach, pickEach_congr h]

/-- The same is picked from two requests when every field picks the same from what it finds. -/
theorem pickFields_congr {r r' : Request} {body body' : Option (Entries Json)} (picked : Dict Json)
    (h : ∀ f ∈ fields, f.pickFrom settings [.name f.name] (r'.find body' f.attributes) =
      f.pickFrom settings [.name f.name] (r.find body f.attributes)) :
    pickFields settings r' body' picked fields = pickFields settings r body picked fields := by
  rw [pickFields_eq_pickEach, pickFields_eq_pickEach, pickEach_congr h]

end

/-! ## Entries and their fields -/

/-- Each entry holds the value that was picked for a field with its key. -/
def Picked (settings : Settings) (schema : Schema) (picked : Dict Json) : Prop :=
  ∀ key value, picked.get? key = some value → ∃ f ∈ schema, f.key = key ∧
    ∃ path found, Field.pickFrom settings path f found = .ok (some value)

/-- What is picked one by one from nothing is picked for the fields. -/
theorem Picked.of_pickEach {settings : Settings} {path : Field → Path}
    {found? : Field → Option Json} {fields : Schema} {picked : Dict Json}
    (h : (pickEach (fun f => f.pickFrom settings (path f) (found? f)) fields).map Dict.ofList =
      .ok picked) : Picked settings fields picked := by
  obtain ⟨found, hfound, rfl⟩ := Outcome.map_eq_ok.mp h
  intro key value hvalue
  have hentry := Entries.mem_of_mem_ofList (Dict.mem_entries_iff.mpr hvalue)
  obtain ⟨f, hf, hkey, hpick⟩ := exists_field_of_mem_pickEach hfound hentry
  exact ⟨f, hf, hkey, path f, found? f, hpick⟩

/-- What is picked out of a request is picked for the fields of the schema. -/
theorem picked_of_pick {settings : Settings} {schema : Schema} {r : Request}
    {picked : Dict Json} (h : pick settings schema r = .ok picked) :
    Picked settings schema picked := by
  rw [pick_eq_bind] at h
  obtain ⟨body, -, hfields⟩ := Outcome.bind_eq_ok.mp h
  rw [pickFields_eq_pickEach] at hfields
  exact Picked.of_pickEach hfields

/-- A conversion is registered and leaves objects alone. -/
def Attributes.KeepsObjects (settings : Settings) (a : Attributes) : Prop :=
  ∀ path value value', a.convert settings path value = .ok value' →
    value'.objects = value.objects

/-- Each object in the value of a group without a default was picked from an object of the value
that was found, unless a conversion put it there. -/
theorem exists_pickAll_of_pickFrom_group {settings : Settings} {path : Path} {a : Attributes}
    {fields : Schema} {found : Option Json} {value : Json}
    (hdefault : a.default? = none) (hconvert : a.KeepsObjects settings)
    (h : Field.pickFrom settings path (.group a fields) found = .ok (some value))
    {entries : Entries Json} (hentries : entries ∈ value.objects) :
    ∃ raw, found = some raw ∧ ∃ place, ∃ before ∈ raw.objects, ∃ picked,
      Field.pickAll settings place before ∅ fields = .ok picked ∧ picked.entries = entries := by
  cases found with
  | none =>
      rw [Field.pickFrom_none, Field.attributes, hdefault] at h
      cases h
  | some raw =>
      rw [Field.pickFrom_group] at h
      obtain ⟨inner, hinner, hconverted⟩ := Outcome.bind_eq_ok.mp h
      obtain ⟨value', hvalue', heq⟩ := Outcome.map_eq_ok.mp hconverted
      cases heq
      rw [hconvert path inner value hvalue'] at hentries
      obtain ⟨place, before, hbefore, hpick⟩ := Json.mem_objects_of_mapObjectsM hinner hentries
      exact ⟨raw, rfl, place, before, hbefore, Outcome.map_eq_ok.mp hpick⟩

/-- Each object in the value of a group without a default was picked for the fields of the group,
unless a conversion put it there. -/
theorem picked_of_pickFrom_group {settings : Settings} {path : Path} {a : Attributes}
    {fields : Schema} {found : Option Json} {value : Json}
    (hdefault : a.default? = none) (hconvert : a.KeepsObjects settings)
    (h : Field.pickFrom settings path (.group a fields) found = .ok (some value))
    {entries : Entries Json} (hentries : entries ∈ value.objects) :
    ∃ picked, Picked settings fields picked ∧ picked.entries = entries := by
  obtain ⟨raw, -, place, before, -, picked, hpick, hpicked⟩ :=
    exists_pickAll_of_pickFrom_group hdefault hconvert h hentries
  rw [Field.pickAll_eq_pickEach] at hpick
  exact ⟨picked, Picked.of_pickEach hpick, hpicked⟩

end Intake
