import Intake.Proofs.Cleaning
import Intake.Proofs.Conformance
import Intake.Proofs.DeclaredSources
import Intake.Proofs.FirstViolation

/-!
# Depth

The depth of a request is limited twice.  Cleaning counts the objects and arrays of the body,
declared or not, and validation counts the objects of groups in the picked values.  Where groups
have no objects but those of the body, an object that validation enters was picked from one that
stands at least as deep in the body, so that the second limit never applies.

Main results:

- Theorem {lit}`Json.lt_levels_of_mem_objects`: the objects of a value have fewer levels than the
  value.
- Theorem {lit}`Schema.fault_ne_tooDeep`: no object is nested too deep if those in which groups find
  their values have few enough levels.
- Theorem {lit}`validate_ne_tooDeep`: what was picked out of a request is never nested too deep.
-/

namespace Intake

/-! ## Levels of what is found -/

namespace Json

theorem levels_le_of_mem {items : List Json} {item : Json} (h : item ∈ items) :
    item.levels ≤ levelsItems items := by
  induction items with
  | nil => cases h
  | cons first rest ih =>
      rw [levelsItems]
      rcases List.mem_cons.mp h with rfl | h
      · exact Nat.le_max_left _ _
      · exact Nat.le_trans (ih h) (Nat.le_max_right _ _)

theorem levels_le_of_get? {entries : Entries Json} {key : String} {value : Json}
    (h : entries.get? key = some value) : value.levels ≤ levelsEntries entries := by
  induction entries with
  | nil => cases h
  | cons entry rest ih =>
      obtain ⟨k, first⟩ := entry
      rw [levelsEntries]
      simp only [Entries.get?] at h
      split at h
      · cases h
        exact Nat.le_max_left _ _
      · exact Nat.le_trans (ih h) (Nat.le_max_right _ _)

/-- What stands in an object of a value has fewer levels than the value. -/
theorem lt_levels_of_mem_objects {value : Json} {entries : Entries Json}
    (h : entries ∈ value.objects) : levelsEntries entries < value.levels := by
  rcases mem_objects_iff.mp h with rfl | ⟨items, rfl, hitem⟩
  · rw [levels]
    omega
  · have hlevels := levels_le_of_mem hitem
    simp only [levels] at hlevels ⊢
    omega

end Json

/-- A cleaned body has no more levels than the greatest depth. -/
theorem lt_maxDepth_of_cleanBody {limits : Limits} {r : Request} {entries : Entries Json}
    (h : cleanBody limits r = .ok (some entries)) :
    Json.levelsEntries entries < limits.maxDepth := by
  unfold cleanBody at h
  split at h
  · cases h
  · obtain ⟨cleaned, hcleaned, heq⟩ := Outcome.map_eq_ok.mp h
    cases heq
    rw [Json.cleanObject_eq, Limits.within, Json.strip, Json.levels] at hcleaned
    split at hcleaned
    · next hlevels =>
      cases hcleaned
      omega
    · cases hcleaned
  · cases h

/-! ## Violations of depth -/

section

variable {settings : Settings} {depth limit : Nat} {turn : Turn} {v : Violation}

/-- A field is not nested too deep itself, only an object of its value may be. -/
theorem Field.Violates.exists_object_of_tooDeep {path : Path} {f : Field} {found : Option Json}
    (h : Field.Violates settings depth path f found turn v) (hv : v.fault = .tooDeep limit) :
    ∃ a fields value, f = .group a fields ∧ found = some value ∧ ∃ entries ∈ value.objects,
      ∃ place turn', Schema.Violates settings (depth + 1) place fields entries turn' v := by
  cases h with
  | required => cases hv
  | rule hname hfault => cases hfault <;> cases hv
  | notObject => cases hv
  | item => cases hv
  | @object _ _ a fields entries _ _ hinner =>
      exact ⟨a, fields, _, rfl, rfl, entries, Json.mem_objects_iff.mpr (.inl rfl), _, _, hinner⟩
  | @element _ _ a fields items i entries _ _ hitem hinner =>
      have hmem := Json.mem_objects_array.mpr (List.mem_of_getElem? hitem)
      exact ⟨a, fields, _, rfl, rfl, entries, hmem, _, _, hinner⟩

/-- No object is nested too deep where each field picked from what it found, and what groups found
has few enough levels. -/
theorem Schema.fault_ne_tooDeep {schema : Schema} (hschema : schema.WellFormed settings)
    (hgroups : ∀ a ∈ schema.groups, a.FromRequest settings) {place : Path} {picked : Dict Json}
    {path : Field → Path} {found? : Field → Option Json}
    (hpicked : ∀ f ∈ schema,
      f.pickFrom settings (path f) (found? f) = .ok (picked.get? f.key))
    (hdepth : depth ≤ settings.limits.maxDepth)
    (hlevels : ∀ a fields value, Field.group a fields ∈ schema →
      found? (.group a fields) = some value → depth + value.levels ≤ settings.limits.maxDepth)
    (h : schema.Violates settings depth place picked.entries turn v) :
    v.fault ≠ .tooDeep limit := by
  -- One level of the picked values at a time: an object of a group is one level deeper than the
  -- object with the group, and was picked from an object with one level less at least.
  induction schema using Schema.induction generalizing depth place picked turn path found? with
  | level schema ih =>
      intro hv
      cases h with
      | tooDeep hlimit => omega
      | @field _ _ _ _ j f turn _ hj hfield =>
          obtain ⟨a, fields, value, rfl, hvalue, entries, hentries, place', turn', hinner⟩ :=
            hfield.exists_object_of_tooDeep hv
          have hf := List.mem_of_getElem? hj
          have ha := hgroups a (mem_groups hf)
          have hpick := hpicked _ hf
          rw [Dict.get?, hvalue] at hpick
          obtain ⟨raw, hraw, source, before, hbefore, inner, hbeforePick, rfl⟩ :=
            exists_pickAll_of_pickFrom_group ha.default ha.keepsObjects hpick hentries
          have hfound := hlevels a fields raw hf hraw
          have hless := Json.lt_levels_of_mem_objects hbefore
          refine ih a fields hf (hschema.nested hf)
            (fun b hb => hgroups b (mem_groups_of_mem hf hb))
            (pickFrom_eq_of_pickAll (hschema.nested hf) hbeforePick) ?_ ?_ hinner hv
          · omega
          · intro b below value' hgroup hvalue'
            have hle := Json.levels_le_of_get? hvalue'
            omega

end

/-! ## Main result -/

/-- What was picked out of a request is never nested too deep for validation, as long as the objects
of groups come from requests. -/
theorem validate_ne_tooDeep {settings : Settings} {schema : Schema}
    (hschema : schema.check settings = .ok ())
    (hgroups : ∀ a ∈ schema.groups, a.FromRequest settings)
    (hdepth : 1 ≤ settings.limits.maxDepth) {r : Request} {picked : Dict Json}
    (hpick : pick settings schema r = .ok picked) (path : Path) (limit : Nat) :
    validate settings schema picked.entries ≠ .error ⟨path, .tooDeep limit⟩ := by
  have hwell := Schema.wellFormed_of_check hschema
  obtain ⟨body, hbody, hpicked⟩ := Schema.pickFrom_eq_of_pick hwell hpick
  intro herror
  obtain ⟨turn, hviolates, -⟩ := (finds_enter schema picked.entries).first _ herror
  refine Schema.fault_ne_tooDeep hwell hgroups hpicked hdepth ?_ hviolates rfl
  intro a fields value hgroup hvalue
  -- A group finds its value in the body, which is the first level.
  simp only [Request.find, Field.attributes, (hwell.fitsGroup hgroup).source] at hvalue
  obtain ⟨entries, rfl, hget⟩ := Option.bind_eq_some_iff.mp hvalue
  have hentries := lt_maxDepth_of_cleanBody hbody
  have hle := Json.levels_le_of_get? hget
  omega

/-- The ready-made settings with another greatest depth. -/
def Settings.ofDepth (maxDepth : Nat) : Settings :=
  { Settings.standard with limits := { Limits.standard with maxDepth := maxDepth } }

/-- A delivery of parcels, each with an address. -/
def delivery : Schema :=
  [.group { name := "parcels", type := .array, conversion? := some "trim" }
    [.group { name := "address" } [.leaf { name := "street", rules := ["not_blank"] }]]]

/-- A request for a delivery, with as many objects and arrays inside one another as the greatest
depth allows. -/
def deliveryRequest : Request where
  body := some (.object [("parcels", .array [.object [("address", .object
    [("street", .string "Elm")])]])])

theorem delivery_ne_tooDeep :
    ∃ picked, pick (.ofDepth 4) delivery deliveryRequest = .ok picked ∧
      ∀ path limit,
        validate (.ofDepth 4) delivery picked.entries ≠ .error ⟨path, .tooDeep limit⟩ := by
  have hschema : delivery.check (.ofDepth 4) = .ok () := by decide
  have hgroups : ∀ a ∈ delivery.groups, a.FromRequest (.ofDepth 4) := by
    intro a ha
    rcases List.mem_cons.mp ha with rfl | ha
    · exact ⟨rfl, fun name conversion _ hget => ⟨name, hget⟩⟩
    · rw [List.mem_singleton.mp ha]
      exact ⟨rfl, fun name conversion hname => by cases hname⟩
  have hpick : pick (.ofDepth 4) delivery deliveryRequest =
      .ok (.ofList
        [("parcels", .array [.object [("address", .object [("street", .string "Elm")])]])]) := by
    rfl
  exact ⟨_, hpick, validate_ne_tooDeep hschema hgroups (by decide) hpick⟩

/-- A delivery with parcels by default, whose depth no body limits. -/
def giftDelivery : Schema :=
  [.group { name := "parcels", default? := some (.object []) } [.leaf { name := "street" }]]

example :
    pick (.ofDepth 1) giftDelivery {} = .ok (.ofList [("parcels", .object [])]) ∧
      validate (.ofDepth 1) giftDelivery [("parcels", .object [])] =
        .error ⟨[.name "parcels"], .tooDeep 1⟩ := by
  exact ⟨rfl, rfl⟩

end Intake
