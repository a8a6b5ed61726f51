import Intake.Proofs.Cleaning
import Intake.Proofs.Pick
import Intake.Proofs.Schema

/-!
# Declared sources

A field says where in a request its value lives.  At the top level of a schema picking keeps to
that: no body supplies a value that should come from the address, a header or a cookie.  Below a
group every field is read from the object of the group, whatever source it declares, and the check
of schemas looks at the sources of groups alone.

Main results:

- {lit}`Schema.HonoursSources` is the law that bodies have no influence on the fields that declare
  another source, at any place that the picked values of two requests have in common.
- Theorem {lit}`Schema.sources_honoured`: at the top level the law holds for every schema that the
  check accepts; it holds everywhere if all fields below groups come from the body, and it fails if
  a field below groups declares another source and nothing on the way to it is converted.
-/

namespace Intake

/-! ## The law -/

/-- At every place that two picked objects have in common, the fields that do not come from the body
have the same values. -/
inductive Schema.SameSources : Schema → Entries Json → Entries Json → Prop
  /-- This is so at the top level, and in the groups that are objects or arrays in both. -/
  | intro {schema : Schema} {picked picked' : Entries Json}
    (here : ∀ f ∈ schema, f.attributes.source ≠ .body → picked.get? f.key = picked'.get? f.key)
    (object : ∀ a fields entries entries', Field.group a fields ∈ schema →
      picked.get? a.key = some (.object entries) → picked'.get? a.key = some (.object entries') →
      Schema.SameSources fields entries entries')
    (item : ∀ a fields items items' (n : Nat) entries entries', Field.group a fields ∈ schema →
      picked.get? a.key = some (.array items) → picked'.get? a.key = some (.array items') →
      items[n]? = some (.object entries) → items'[n]? = some (.object entries') →
      Schema.SameSources fields entries entries') :
    Schema.SameSources schema picked picked'

/-- Another body gives no other values for fields that declare another source. -/
def Schema.HonoursSources (settings : Settings) (schema : Schema) : Prop :=
  ∀ (r : Request) (body : Option Json) (picked picked' : Dict Json),
    pick settings schema r = .ok picked →
    pick settings schema { r with body := body } = .ok picked' →
    schema.SameSources picked.entries picked'.entries

/-- The field stands below the groups with the attributes, from the top level down. -/
inductive Schema.Reaches : Schema → List Attributes → Field → Prop
  /-- A field of the schema stands below no group. -/
  | here {schema : Schema} {f : Field} (hf : f ∈ schema) : Schema.Reaches schema [] f
  /-- A field below groups of a group stands below that group too. -/
  | inner {schema : Schema} {a : Attributes} {fields : Schema} {above : List Attributes}
    {f : Field} (hgroup : Field.group a fields ∈ schema) (h : Schema.Reaches fields above f) :
    Schema.Reaches schema (a :: above) f

/-! ## The top level -/

theorem Request.find_of_source_ne_body (r : Request) {a : Attributes} (ha : a.source ≠ .body)
    (body : Option Json) (entries entries' : Option (Entries Json)) :
    Request.find { r with body := body } entries' a = r.find entries a := by
  unfold Request.find
  split
  · next hsource => exact absurd hsource ha
  · rfl
  · rfl
  · rfl

theorem Attributes.convert_of_none {settings : Settings} {a : Attributes}
    (h : a.conversion? = none) (path : Path) (value : Json) :
    a.convert settings path value = .ok value := by
  simp [Attributes.convert, h]

namespace Schema

variable {settings : Settings} {schema : Schema}

/-- Under the key of a field stands what was picked from the value that it finds. -/
theorem pickFrom_eq_of_pick (hschema : schema.WellFormed settings) {r : Request}
    {picked : Dict Json} (h : pick settings schema r = .ok picked) :
    ∃ body, cleanBody settings.limits r = .ok body ∧ ∀ f ∈ schema,
      f.pickFrom settings [.name f.name] (r.find body f.attributes) =
        .ok (picked.get? f.key) := by
  rw [pick_eq_bind] at h
  obtain ⟨body, hbody, hfields⟩ := Outcome.bind_eq_ok.mp h
  rw [pickFields_eq_pickEach] at hfields
  obtain ⟨found, hfound, rfl⟩ := Outcome.map_eq_ok.mp hfields
  exact ⟨body, hbody, fun f hf => pickOne_eq_of_pickEach hschema.nodup_keys hfound hf⟩

/-- So it is in an object below the request. -/
theorem pickFrom_eq_of_pickAll (hschema : schema.WellFormed settings) {path : Path}
    {entries : Entries Json} {picked : Dict Json}
    (h : Field.pickAll settings path entries ∅ schema = .ok picked) :
    ∀ f ∈ schema, f.pickFrom settings (path.child f.name) (entries.get? f.name) =
      .ok (picked.get? f.key) := by
  rw [Field.pickAll_eq_pickEach] at h
  obtain ⟨found, hfound, rfl⟩ := Outcome.map_eq_ok.mp h
  exact fun f hf => pickOne_eq_of_pickEach hschema.nodup_keys hfound hf

/-- At the top level no body supplies a field that declares another source. -/
theorem get?_eq_of_pick (hschema : schema.WellFormed settings) {r : Request} {body : Option Json}
    {picked picked' : Dict Json} (h : pick settings schema r = .ok picked)
    (h' : pick settings schema { r with body := body } = .ok picked') {f : Field} (hf : f ∈ schema)
    (hsource : f.attributes.source ≠ .body) : picked.get? f.key = picked'.get? f.key := by
  obtain ⟨entries, -, hpicked⟩ := pickFrom_eq_of_pick hschema h
  obtain ⟨entries', -, hpicked'⟩ := pickFrom_eq_of_pick hschema h'
  have hvalue := hpicked f hf
  have hvalue' := hpicked' f hf
  rw [r.find_of_source_ne_body hsource body entries entries', hvalue] at hvalue'
  exact Except.ok.inj hvalue'

/-! ## Below groups -/

/-- In a well-formed schema the fields of every group are well formed. -/
theorem Reaches.wellFormed_fields (hschema : schema.WellFormed settings) {above : List Attributes}
    {a : Attributes} {fields : Schema} (h : schema.Reaches above (.group a fields)) :
    fields.WellFormed settings := by
  generalize hf : Field.group a fields = f at h
  induction h with
  | here hmem =>
      subst hf
      exact hschema.nested hmem
  | inner hgroup h ih => exact ih (hschema.nested hgroup) hf

/-- Where all fields come from the body there is nothing to compare. -/
theorem sameSources_of_body
    (h : ∀ above f, schema.Reaches above f → f.attributes.source = .body)
    (picked picked' : Entries Json) : schema.SameSources picked picked' := by
  induction schema using Schema.induction generalizing picked picked' with
  | level schema ih =>
      have hinner : ∀ a fields, Field.group a fields ∈ schema →
          ∀ above f, Reaches fields above f → f.attributes.source = .body :=
        fun a fields hgroup above f hf => h (a :: above) f (.inner hgroup hf)
      refine ⟨?_, ?_, ?_⟩
      · intro f hf hsource
        exact absurd (h [] f (.here hf)) hsource
      · intro a fields entries entries' hgroup _ _
        exact ih a fields hgroup (hinner a fields hgroup) entries entries'
      · intro a fields items items' n entries entries' hgroup _ _ _ _
        exact ih a fields hgroup (hinner a fields hgroup) entries entries'

/-- The entries of a body with nothing but a value for a field below groups. -/
def only (f : Field) (value : Json) : List Attributes → List (String × Json)
  | [] => [(f.name, value)]
  | a :: above => [(a.name, .object (only f value above))]

/-- The picked value under a key, in the object that is reached through groups. -/
def reach (key : String) : List Attributes → Entries Json → Option Json
  | [], picked => picked.get? key
  | a :: above, picked =>
    match picked.get? a.key with
    | some (.object entries) => reach key above entries
    | _ => none

/-- At a field that declares another source there is one value to be found. -/
theorem Reaches.eq_of_sameSources {above : List Attributes} {f : Field}
    (h : schema.Reaches above f) (hsource : f.attributes.source ≠ .body)
    {picked picked' : Entries Json} (hsame : schema.SameSources picked picked')
    {value value' : Json} (hvalue : reach f.key above picked = some value)
    (hvalue' : reach f.key above picked' = some value') : value = value' := by
  induction h generalizing picked picked' with
  | here hf =>
      cases hsame with
      | intro here =>
          have heq := here _ hf hsource
          simp only [reach] at hvalue hvalue'
          rw [heq, hvalue'] at hvalue
          exact (Option.some.inj hvalue).symm
  | @inner schema a fields above f hgroup h ih =>
      cases hsame with
      | intro _ object =>
          simp only [reach] at hvalue hvalue'
          split at hvalue
          · next entries hentries =>
            split at hvalue'
            · next entries' hentries' =>
              have hinner := object a fields entries entries' hgroup hentries hentries'
              exact ih hsource hinner hvalue hvalue'
            · cases hvalue'
          · cases hvalue

/-- Only leaves can declare another source than the body. -/
theorem Reaches.eq_leaf {above : List Attributes} {f : Field} (h : schema.Reaches above f)
    (hschema : schema.WellFormed settings) (hsource : f.attributes.source ≠ .body) :
    ∃ a, f = .leaf a := by
  induction h with
  | @here schema f hf =>
      cases f with
      | leaf a => exact ⟨a, rfl⟩
      | group a fields => exact absurd (hschema.fitsGroup hf).source hsource
  | inner hgroup h ih => exact ih (hschema.nested hgroup) hsource

/-- A field picks from an object with nothing but its value, beside defaults, what it picks from
that value. -/
theorem pickAll_single (hschema : schema.WellFormed settings) {g : Field} (hg : g ∈ schema)
    {path : Path} {found value : Json}
    (hpick : g.pickFrom settings (path.child g.name) (some found) = .ok (some value)) :
    ∃ picked, Field.pickAll settings path [(g.name, found)] ∅ schema = .ok picked ∧
      picked.get? g.key = some value := by
  rw [Field.pickAll_eq_pickEach]
  have hother : ∀ f ∈ schema, ∃ value?, f.pickFrom settings (path.child f.name)
      (Entries.get? [(g.name, found)] f.name) = .ok value? := by
    intro f hf
    by_cases heq : g.name = f.name
    · have hfield : g = f := hschema.eq_of_name_eq hg hf heq
      rw [Entries.get?, if_pos heq, ← hfield]
      exact ⟨some value, hpick⟩
    · rw [Entries.get?, if_neg heq, Entries.get?]
      exact ⟨f.attributes.default?, f.pickFrom_none _ _⟩
  obtain ⟨entries, hentries⟩ := exists_pickEach_eq_ok.mpr hother
  have hvalue := pickOne_eq_of_pickEach hschema.nodup_keys hentries hg
  rw [Entries.get?, if_pos rfl, hpick] at hvalue
  refine ⟨Dict.ofList entries, ?_, (Except.ok.inj hvalue).symm⟩
  rw [hentries]
  rfl

/-- A value in the body is picked for a field below groups, whatever source the field declares. -/
theorem Reaches.pickAll_only {above : List Attributes} {f : Field} (h : schema.Reaches above f)
    (hschema : schema.WellFormed settings) {a : Attributes} (hleaf : f = .leaf a)
    (hconversion : a.conversion? = none) (habove : ∀ b ∈ above, b.conversion? = none)
    (path : Path) (value : Json) :
    ∃ picked, Field.pickAll settings path (only f value above) ∅ schema = .ok picked ∧
      reach f.key above picked.entries = some value := by
  induction h generalizing path with
  | @here schema f hf =>
      refine pickAll_single hschema hf ?_
      rw [hleaf, Field.pickFrom_leaf, Attributes.convert_of_none hconversion]
      rfl
  | @inner schema b fields above f hgroup h ih =>
      obtain ⟨hb, habove⟩ := List.forall_mem_cons.mp habove
      obtain ⟨inner, hinner, hvalue⟩ :=
        ih (hschema.nested hgroup) hleaf habove (path.child b.name)
      have hpick : Field.pickFrom settings (path.child b.name) (.group b fields)
          (some (.object (only f value above))) = .ok (some (.object inner.entries)) := by
        rw [Field.pickFrom_group]
        simp only [Json.mapObjectsM, Json.mapObjectM, hinner]
        change (b.convert settings _ (.object inner.entries)).map some = _
        rw [Attributes.convert_of_none hb]
        rfl
      obtain ⟨picked, hpicked, hget⟩ := pickAll_single hschema hgroup hpick
      refine ⟨picked, hpicked, ?_⟩
      have hkey : picked.entries.get? b.key = some (.object inner.entries) := hget
      rw [reach, hkey]
      exact hvalue

/-! ## A body with nothing else -/

theorem Reaches.stripEntries_only {above : List Attributes} {f : Field}
    (h : schema.Reaches above f) (hschema : schema.WellFormed settings) (b : Bool) :
    Json.stripEntries settings.limits.maxKeyLength (only f (.bool b) above) =
      only f (.bool b) above := by
  induction h with
  | here hf =>
      have hname := hschema.isValidKey_name hf
      simp only [only, Json.stripEntries, Json.strip, hname, if_true]
  | inner hgroup h ih =>
      have hname := hschema.isValidKey_name hgroup
      have hinner := ih (hschema.nested hgroup)
      simp only [Field.name, Field.attributes] at hname
      simp only [only, Json.stripEntries, Json.strip, hname, if_true, hinner]

theorem levelsEntries_only (f : Field) (b : Bool) (above : List Attributes) :
    Json.levelsEntries (only f (.bool b) above) = above.length := by
  induction above with
  | nil => rfl
  | cons a above ih =>
      simp only [only, Json.levelsEntries, Json.levels, ih, List.length_cons]
      omega

/-- A request that is nothing but a body is picked like an object below a group, as long as fields
with other sources find nothing in the body. -/
theorem pick_body {entries : List (String × Json)}
    (hclean : Json.cleanObject settings.limits 1 entries = .ok entries)
    (hother : ∀ f ∈ schema, f.attributes.source ≠ .body → Entries.get? entries f.name = none) :
    pick settings schema { body := some (.object entries) } =
      Field.pickAll settings [] entries ∅ schema := by
  have hfind : ∀ f ∈ schema, Request.find { body := some (.object entries) } (some entries)
      f.attributes = Entries.get? entries f.name := by
    intro f hf
    by_cases hsource : f.attributes.source = .body
    · simp only [Request.find, hsource]
      rfl
    · rw [hother f hf hsource]
      have hnone : f.attributes.ofTexts [] = none := by
        simp [Attributes.ofTexts]
      unfold Request.find
      split
      · next h => exact absurd h hsource
      · exact hnone
      · exact hnone
      · exact hnone
  simp only [pick_eq_bind, cleanBody, hclean]
  change pickFields settings _ (some entries) ∅ schema = _
  rw [pickFields_eq_pickEach, Field.pickAll_eq_pickEach]
  congr 1
  refine pickEach_congr ?_
  intro f hf
  rw [hfind f hf, Path.child, List.nil_append]

/-- From a body with nothing but a value for a field below groups that value is picked, unless it is
nested too deep. -/
theorem Reaches.pick_only {b : Attributes} {above : List Attributes} {f : Field}
    (h : schema.Reaches (b :: above) f) (hschema : schema.WellFormed settings) {a : Attributes}
    (hleaf : f = .leaf a) (hconversion : a.conversion? = none)
    (habove : ∀ c ∈ b :: above, c.conversion? = none)
    (hdepth : (b :: above).length < settings.limits.maxDepth) (flag : Bool) :
    ∃ picked, pick settings schema
        { body := some (.object (only f (.bool flag) (b :: above))) } = .ok picked ∧
      reach f.key (b :: above) picked.entries = some (.bool flag) := by
  obtain ⟨picked, hpicked, hvalue⟩ :=
    h.pickAll_only hschema hleaf hconversion habove [] (.bool flag)
  refine ⟨picked, ?_, hvalue⟩
  rw [← hpicked]
  apply pick_body
  · have hlevels := levelsEntries_only f flag (b :: above)
    rw [Json.cleanObject_eq, Json.strip, h.stripEntries_only hschema, Json.levels, hlevels,
      Limits.within, if_pos (by omega)]
  · -- The only entry belongs to a group, and groups come from the body.
    intro g hg hsource
    cases h with
    | @inner _ _ fields _ _ hgroup h =>
        have hne : b.name ≠ g.name := by
          intro heq
          have hfield : .group b fields = g := hschema.eq_of_name_eq hgroup hg heq
          rw [← hfield] at hsource
          exact hsource (hschema.fitsGroup hgroup).source
        rw [only, Entries.get?, if_neg hne, Entries.get?]

/-! ## The main result -/

/-- For a schema that the check accepts, fields at the top level are never supplied by a body when
they declare another source.  So it is at every place that two results of picking have in common,
if all fields below groups come from the body; but a field below groups that declares another
source is supplied by the body where nothing is converted and the depth allows it. -/
theorem sources_honoured (hcheck : schema.check settings = .ok ()) :
    (∀ (r : Request) (body : Option Json) (picked picked' : Dict Json),
      pick settings schema r = .ok picked →
      pick settings schema { r with body := body } = .ok picked' →
      ∀ f ∈ schema, f.attributes.source ≠ .body → picked.get? f.key = picked'.get? f.key) ∧
    ((∀ above f, schema.Reaches above f → above ≠ [] → f.attributes.source = .body) →
      schema.HonoursSources settings) ∧
    (∀ above f, schema.Reaches above f → above ≠ [] → f.attributes.source ≠ .body →
      f.attributes.conversion? = none → (∀ a ∈ above, a.conversion? = none) →
      above.length < settings.limits.maxDepth → ¬ schema.HonoursSources settings) := by
  have hschema := wellFormed_of_check hcheck
  refine ⟨?_, ?_, ?_⟩
  · intro r body picked picked' h h' f hf hsource
    exact get?_eq_of_pick hschema h h' hf hsource
  · intro hbelow r body picked picked' h h'
    have hinner : ∀ a fields, Field.group a fields ∈ schema →
        ∀ above f, Reaches fields above f → f.attributes.source = .body :=
      fun a fields hgroup above f hf =>
        hbelow (a :: above) f (.inner hgroup hf) (List.cons_ne_nil a above)
    refine ⟨?_, ?_, ?_⟩
    · intro f hf hsource
      exact get?_eq_of_pick hschema h h' hf hsource
    · intro a fields entries entries' hgroup _ _
      exact sameSources_of_body (hinner a fields hgroup) entries entries'
    · intro a fields items items' n entries entries' hgroup _ _ _ _
      exact sameSources_of_body (hinner a fields hgroup) entries entries'
  · intro above f h hnested hsource hconversion habove hdepth hlaw
    obtain ⟨a, hleaf⟩ := h.eq_leaf hschema hsource
    rw [hleaf] at hconversion
    cases above with
    | nil => exact hnested rfl
    | cons b above =>
        -- Two bodies with different values for the field give different results.
        obtain ⟨picked, hpicked, hvalue⟩ :=
          h.pick_only hschema hleaf hconversion habove hdepth true
        obtain ⟨picked', hpicked', hvalue'⟩ :=
          h.pick_only hschema hleaf hconversion habove hdepth false
        have hsame := hlaw _ _ picked picked' hpicked hpicked'
        have heq := h.eq_of_sameSources hsource hsame hvalue hvalue'
        cases heq

/-- A message of a user whose number should come from a header. -/
def message : Schema :=
  [.group { name := "user" } [.leaf { name := "id", source := .header }],
    .leaf { name := "text" }]

theorem message_sources_not_honoured :
    message.check .standard = .ok () ∧ ¬ message.HonoursSources .standard := by
  have hcheck : message.check .standard = .ok () := by decide
  have hid : message.Reaches [{ name := "user" }] (.leaf { name := "id", source := .header }) :=
    .inner (.head _) (.here (.head _))
  exact ⟨hcheck, (sources_honoured hcheck).2.2 _ _ hid (by decide) (by decide) rfl (by decide)
    (by decide)⟩

example :
    pick .standard message
        { body := some (.object [("user", .object [("id", .string "x")])]) } =
      .ok (.ofList [("user", .object [("id", .string "x")])]) := by
  rfl

end Schema

end Intake
