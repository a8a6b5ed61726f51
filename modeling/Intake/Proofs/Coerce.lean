import Intake.Proofs.Objects

/-!
# What coercion changes

Coercion goes through the fields of an object and moves the value under the key of each one.  No
key comes or goes, and fields with different keys do not meet.

Main results:

- Theorem {lit}`Field.keys_coerceAll`: the keys stay.
- Theorem {lit}`Field.get?_coerceAll`: the value under the key of a field is moved as the field
  says.
- Theorem {lit}`Field.coerce_group`: what the value of a group is after coercion.
-/

namespace Intake

/-- Coercion keeps the keys of an object. -/
theorem Field.keys_coerceAll (entries : Entries Json) (fields : Schema) :
    (Field.coerceAll entries fields).keys = entries.keys := by
  induction fields generalizing entries with
  | nil => rfl
  | cons f rest ih =>
      rw [Field.coerceAll, ih, Entries.keys_adjust]

/-- Coercion keeps the order of an object. -/
theorem Field.sorted_coerceAll {entries : Entries Json} (h : entries.Sorted) (fields : Schema) :
    (Field.coerceAll entries fields).Sorted := by
  rw [Entries.sorted_iff_keys, Field.keys_coerceAll]
  exact Entries.sorted_iff_keys.mp h

/-- Coercion leaves the value under a key alone that no field has. -/
theorem Field.get?_coerceAll_of_not_mem {entries : Entries Json} {fields : Schema} {key : String}
    (h : ∀ f ∈ fields, f.key ≠ key) :
    (Field.coerceAll entries fields).get? key = entries.get? key := by
  induction fields generalizing entries with
  | nil => rfl
  | cons f rest ih =>
      obtain ⟨hf, hrest⟩ := List.forall_mem_cons.mp h
      rw [Field.coerceAll, ih hrest, Entries.get?_adjust, if_neg hf]

/-- Coercion moves the value under the key of a field as the field says. -/
theorem Field.get?_coerceAll {entries : Entries Json} {fields : Schema}
    (hkeys : (fields.map Field.key).Nodup) {f : Field} (hf : f ∈ fields) :
    (Field.coerceAll entries fields).get? f.key = (entries.get? f.key).map f.coerce := by
  induction fields generalizing entries with
  | nil => cases hf
  | cons g rest ih =>
      obtain ⟨hg, hrest⟩ := List.nodup_cons.mp hkeys
      rw [Field.coerceAll]
      rcases List.mem_cons.mp hf with rfl | hf
      · have hothers : ∀ f' ∈ rest, f'.key ≠ f.key := by
          intro f' hf' heq
          exact hg (heq ▸ List.mem_map_of_mem hf')
        rw [Field.get?_coerceAll_of_not_mem hothers, Entries.get?_adjust, if_pos rfl]
      · have hne : g.key ≠ f.key := by
          intro heq
          exact hg (heq ▸ List.mem_map_of_mem hf)
        rw [ih hrest hf, Entries.get?_adjust, if_neg hne]

/-- After coercion the value of a group has nothing but objects if it had nothing else, it is an
array if the group asks for one, and each object is moved towards the schema of the group. -/
theorem Field.coerce_group (a : Attributes) (fields : Schema) {value : Json}
    (h : value.IsGroup) :
    (Field.coerce (.group a fields) value).IsGroup ∧
      (a.type = .array → (Field.coerce (.group a fields) value).IsArray) ∧
      (Field.coerce (.group a fields) value).objects =
        value.objects.map fun entries => Field.coerceAll entries fields := by
  have hgroup :=
    (Json.isGroup_mapObjects (fun entries => Field.coerceAll entries fields) value).mpr h
  rw [Field.coerce]
  split
  · refine ⟨(Json.isGroup_wrapObject hgroup).1, fun _ => (Json.isGroup_wrapObject hgroup).2, ?_⟩
    rw [Json.objects_wrapObject, Json.objects_mapObjects]
  · next htype =>
    exact ⟨hgroup, fun harray => absurd harray htype, Json.objects_mapObjects _ value⟩

end Intake
