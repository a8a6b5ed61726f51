import Intake.Proofs.Objects

/-!
# What validation accepts

The fields of an object are held against it one by one, so that the object is accepted when every
field accepts what it finds under its key.

Main results:

- Theorem {lit}`Field.validateAll_eq_ok`: when the entries of an object are accepted.
- Theorem {lit}`Field.validate_group`: what is known of the value of a group that is accepted.
-/

namespace Intake

variable {settings : Settings} {depth : Nat} {path : Path}

/-- Entries are accepted when every field accepts the value under its key, and every field that is
required has one. -/
theorem Field.validateAll_eq_ok {entries : Entries Json} {fields : Schema} :
    Field.validateAll settings depth path entries fields = .ok () ↔
      ∀ f ∈ fields,
        (∀ value, entries.get? f.key = some value →
          Field.validate settings depth (path.child f.name) value f = .ok ()) ∧
        (entries.get? f.key = none → f.attributes.required = false) := by
  induction fields with
  | nil => simp [Field.validateAll]
  | cons f rest ih =>
      rw [Field.validateAll, List.forall_mem_cons, ← ih]
      cases entries.get? f.key with
      | none => cases f.attributes.required <;> simp [Outcome.test_bind_eq_ok]
      | some value => simp [Outcome.test_bind_eq_ok]

/-- The value of a group that is accepted has nothing but objects, and the entries of each of them
are accepted. -/
theorem Field.validate_group {a : Attributes} {fields : Schema} {value : Json}
    (h : Field.validate settings depth path value (.group a fields) = .ok ()) :
    value.IsGroup ∧ ∀ entries ∈ value.objects, ∃ place,
      Field.validateAll settings (depth + 1) place entries fields = .ok () := by
  rw [Field.validate] at h
  obtain ⟨hgroup, hobjects⟩ := objects_of_validateObjects h
  refine ⟨hgroup, ?_⟩
  intro entries hentries
  obtain ⟨place, hplace⟩ := hobjects entries hentries
  unfold enter at hplace
  split at hplace
  · cases hplace
  · exact ⟨place, hplace⟩

/-- Picked values that are accepted are accepted field by field. -/
theorem validateAll_of_validate {schema : Schema} {picked : Entries Json}
    (h : validate settings schema picked = .ok ()) :
    Field.validateAll settings 1 [] picked schema = .ok () := by
  unfold validate enter at h
  split at h
  · cases h
  · exact h

end Intake
