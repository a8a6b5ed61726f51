import Intake.Proofs.DeclaredSources
import Intake.Proofs.Resolution

/-!
# Picked values as assignments

A schema declares both what is picked out of a request and the allow-list for a database.  Picked
values stand under the keys of fields, and the allow-list has the names that clients use.  A field
with another name for its picked value has two different ones, so that the allow-list refuses the
picked value.

Main results:

- Theorem {lit}`Schema.lists_fieldMap_iff`: the allow-list of a schema has the columns of its fields
  under their names.
- Theorem {lit}`Schema.admits_key_iff`: it has the key of a field exactly when the key is the name.
- Theorem {lit}`Schema.resolve_picked`: picked values are assigned to the columns of the fields that
  they were picked for, as long as each of these fields has its name for a key.
-/

namespace Intake

/-! ## The allow-list of a schema -/

namespace Schema

variable {settings : Settings} {schema : Schema} {table : String}

/-- On the allow-list of a schema is what its fields declare under their names. -/
theorem lists_fieldMap_iff (hschema : schema.WellFormed settings) {name : String}
    {entry : ColumnEntry} :
    (schema.fieldMap table).Lists name entry ↔
      entry.column ≠ "" ∧ ∃ f ∈ schema, f.name = name ∧
        ∃ column, f.attributes.column? = some column ∧ entry = { table, column } := by
  have hnames : (Entries.keys (schema.filterMap fun f =>
      f.attributes.column?.map fun column =>
        (f.name, ({ table, column } : ColumnEntry)))).Nodup := by
    refine List.pairwise_map.mpr (List.pairwise_filterMap.mpr ?_)
    refine (List.pairwise_map.mp hschema.nodup_names).imp ?_
    intro f g hne a ha b hb
    obtain ⟨column, -, rfl⟩ := Option.map_eq_some_iff.mp ha
    obtain ⟨column', -, rfl⟩ := Option.map_eq_some_iff.mp hb
    exact hne
  rw [FieldMap.Lists, fieldMap, Dict.get?_ofList_of_nodup hnames,
    ← Entries.mem_iff_get?_eq_some hnames, and_comm]
  refine and_congr_right fun _ => ?_
  simp only [List.mem_filterMap, Option.map_eq_some_iff, Prod.mk.injEq]
  constructor
  · rintro ⟨f, hf, column, hcolumn, hname, rfl⟩
    exact ⟨f, hf, hname, column, hcolumn, rfl⟩
  · rintro ⟨f, hf, hname, column, hcolumn, rfl⟩
    exact ⟨f, hf, column, hcolumn, hname, rfl⟩

section

variable {f : Field} {column : String} {value : Json}

/-- A value under the key of a field is assigned to the column of that field or not at all, and it
is assigned when the key is the name of the field. -/
theorem admits_key_iff (hschema : schema.WellFormed settings) (hf : f ∈ schema)
    (hcolumn : f.attributes.column? = some column) (hne : column ≠ "") {update : ColumnUpdate} :
    Updates.Admits (schema.fieldMap table) f.key value update ↔
      f.key = f.name ∧ update = ⟨table, column, value⟩ := by
  constructor
  · rintro ⟨listed⟩
    obtain ⟨-, g, hg, hname, column', hcolumn', rfl⟩ := (lists_fieldMap_iff hschema).mp listed
    -- The key of a field is not the name of another one.
    have heq : g = f :=
      hschema.eq_of_mem_names hg hf (hname ▸ name_mem_names g) (key_mem_names f)
    rw [heq] at hname hcolumn'
    cases hcolumn.symm.trans hcolumn'
    exact ⟨hname.symm, rfl⟩
  · rintro ⟨hkey, rfl⟩
    have listed : (schema.fieldMap table).Lists f.key { table, column } :=
      (lists_fieldMap_iff hschema).mpr ⟨hne, f, hf, hkey.symm, column, hcolumn, rfl⟩
    exact .intro listed

theorem exists_admits_key_iff (hschema : schema.WellFormed settings) (hf : f ∈ schema)
    (hcolumn : f.attributes.column? = some column) (hne : column ≠ "") :
    (∃ update, Updates.Admits (schema.fieldMap table) f.key value update) ↔ f.key = f.name := by
  simp only [admits_key_iff hschema hf hcolumn hne, exists_and_left, exists_eq, and_true]

end

end Schema

/-! ## Entries and their fields -/

/-- The field picks the value out of the request. -/
def Field.Picks (settings : Settings) (r : Request) (f : Field) (value : Json) : Prop :=
  ∃ body, cleanBody settings.limits r = .ok body ∧
    f.pickFrom settings [.name f.name] (r.find body f.attributes) = .ok (some value)

namespace Schema

variable {settings : Settings} {schema : Schema} {r : Request} {picked : Dict Json}

/-- Every entry stands under the key of the field that picks it. -/
theorem exists_picks_of_mem (hschema : schema.WellFormed settings)
    (h : pick settings schema r = .ok picked) {entry : String × Json}
    (hentry : entry ∈ picked.entries) :
    ∃ f ∈ schema, f.key = entry.1 ∧ f.Picks settings r entry.2 := by
  have hget : picked.get? entry.1 = some entry.2 := Dict.mem_entries_iff.mp hentry
  obtain ⟨f, hf, hkey, -⟩ := picked_of_pick h entry.1 entry.2 hget
  obtain ⟨body, hbody, hpicked⟩ := pickFrom_eq_of_pick hschema h
  refine ⟨f, hf, hkey, body, hbody, ?_⟩
  rw [hpicked f hf, hkey, hget]

/-- Entries under keys of fields are all assigned exactly when the keys are the names. -/
theorem forall_admits_iff (hschema : schema.WellFormed settings)
    (hcolumns : ∀ f ∈ schema, ∃ column, f.attributes.column? = some column ∧ column ≠ "")
    {table : String} {entries : Entries Json}
    (hentries : ∀ entry ∈ entries, ∃ f ∈ schema, f.key = entry.1) :
    (∀ key value, (key, value) ∈ entries →
        ∃ update, Updates.Admits (schema.fieldMap table) key value update) ↔
      ∀ f ∈ schema, f.key ∈ Entries.keys entries → f.key = f.name := by
  constructor
  · intro h f hf hkey
    obtain ⟨value, hvalue⟩ := Entries.mem_keys.mp hkey
    obtain ⟨column, hcolumn, hne⟩ := hcolumns f hf
    exact (exists_admits_key_iff hschema hf hcolumn hne).mp (h f.key value hvalue)
  · intro h key value hentry
    obtain ⟨f, hf, rfl⟩ := hentries _ hentry
    obtain ⟨column, hcolumn, hne⟩ := hcolumns f hf
    exact (exists_admits_key_iff hschema hf hcolumn hne).mpr
      (h f hf (Entries.mem_keys.mpr ⟨value, hentry⟩))

/-- An entry that is assigned goes to the column of the field that picks it. -/
theorem exists_picks_of_admits (hschema : schema.WellFormed settings)
    (hcolumns : ∀ f ∈ schema, ∃ column, f.attributes.column? = some column ∧ column ≠ "")
    (h : pick settings schema r = .ok picked) {table : String} {entry : String × Json}
    (hentry : entry ∈ picked.entries) {update : ColumnUpdate}
    (hadmits : Updates.Admits (schema.fieldMap table) entry.1 entry.2 update) :
    ∃ f ∈ schema, f.key = entry.1 ∧ f.Picks settings r entry.2 ∧ update.table = table ∧
      f.attributes.column? = some update.column ∧ update.value = entry.2 := by
  obtain ⟨f, hf, hkey, hpicks⟩ := exists_picks_of_mem hschema h hentry
  obtain ⟨column, hcolumn, hne⟩ := hcolumns f hf
  rw [← hkey] at hadmits
  obtain ⟨-, rfl⟩ := (admits_key_iff hschema hf hcolumn hne).mp hadmits
  exact ⟨f, hf, hkey, hpicks, rfl, hcolumn, rfl⟩

/-- The key of an entry that is not on the allow-list belongs to a field with another name. -/
theorem exists_key_ne_name (hschema : schema.WellFormed settings)
    (hcolumns : ∀ f ∈ schema, ∃ column, f.attributes.column? = some column ∧ column ≠ "")
    (h : pick settings schema r = .ok picked) {table : String} {entry : String × Json}
    (hentry : entry ∈ picked.entries)
    (hunlisted : ∀ listed, ¬ (schema.fieldMap table).Lists entry.1 listed) :
    ∃ f ∈ schema, f.key = entry.1 ∧ f.key ≠ f.name := by
  obtain ⟨f, hf, hkey, -⟩ := exists_picks_of_mem hschema h hentry
  obtain ⟨column, hcolumn, hne⟩ := hcolumns f hf
  refine ⟨f, hf, hkey, ?_⟩
  intro hname
  have hadmits : ∃ update, Updates.Admits (schema.fieldMap table) f.key entry.2 update :=
    (exists_admits_key_iff hschema hf hcolumn hne).mpr hname
  obtain ⟨_, ⟨listed⟩⟩ := hadmits
  rw [hkey] at listed
  exact hunlisted _ listed

/-! ## Main result -/

/-- Where all fields declare columns, picked values may be assigned through the allow-list of the
schema exactly when the fields that they were picked for have their names for keys.  Each is then
assigned to the column of its field; otherwise the first one under another key is refused. -/
theorem resolve_picked (hschema : schema.check settings = .ok ())
    (hcolumns : ∀ f ∈ schema, ∃ column, f.attributes.column? = some column ∧ column ≠ "")
    (hpick : pick settings schema r = .ok picked) (table : String) :
    ((∃ updates, Updates.resolve (schema.fieldMap table) picked = .ok updates) ↔
      ∀ f ∈ schema, f.key ∈ picked.keys → f.key = f.name) ∧
    (∀ updates, Updates.resolve (schema.fieldMap table) picked = .ok updates →
      List.Forall₂ (fun entry update => ∃ f ∈ schema, f.key = entry.1 ∧
        f.Picks settings r entry.2 ∧ update.table = table ∧
        f.attributes.column? = some update.column ∧ update.value = entry.2)
        picked.entries updates) ∧
    ∀ e, Updates.resolve (schema.fieldMap table) picked = .error e →
      ∃ before key value after, picked.entries = before ++ (key, value) :: after ∧
        (∀ f ∈ schema, f.key ∈ Entries.keys before → f.key = f.name) ∧
        (∃ f ∈ schema, f.key = key ∧ f.key ≠ f.name) ∧ e = .invalidField key := by
  have hwell := wellFormed_of_check hschema
  have hkeys : ∀ entry ∈ picked.entries, ∃ f ∈ schema, f.key = entry.1 := by
    intro entry hentry
    obtain ⟨f, hf, hkey, -⟩ := exists_picks_of_mem hwell hpick hentry
    exact ⟨f, hf, hkey⟩
  have hexact : Exact (Updates.Admits (schema.fieldMap table))
      (fun name _ => Updates.Refuses (schema.fieldMap table) name) picked.entries
      (Updates.resolve (schema.fieldMap table) picked) :=
    Exact.of_mapM (fun _ _ _ => Updates.resolveOne_eq_ok_iff)
      (fun _ _ _ => Updates.resolveOne_eq_error_iff)
  refine ⟨?_, ?_, ?_⟩
  · rw [hexact.succeeds_iff]
    exact forall_admits_iff hwell hcolumns hkeys
  · intro updates hupdates
    have hadmits := (List.forall₂_and_left (p := (· ∈ picked.entries)) picked.entries updates).mpr
      ⟨fun _ hentry => hentry, (hexact.ok_iff updates).mp hupdates⟩
    exact hadmits.imp fun _ _ h => exists_picks_of_admits hwell hcolumns hpick h.1 h.2
  · intro e he
    obtain ⟨before, key, value, after, heq, hbefore, ⟨hunlisted⟩⟩ := (hexact.error_iff e).mp he
    refine ⟨before, key, value, after, heq, ?_, ?_, rfl⟩
    · have hbeforeKeys : ∀ entry ∈ before, ∃ f ∈ schema, f.key = entry.1 :=
        fun entry hentry => hkeys entry (heq ▸ List.mem_append_left _ hentry)
      exact (forall_admits_iff hwell hcolumns hbeforeKeys).mp hbefore
    · have hentry : (key, value) ∈ picked.entries :=
        heq ▸ List.mem_append_right _ List.mem_cons_self
      exact exists_key_ne_name hwell hcolumns hpick hentry hunlisted

/-- The members of a club, with a nickname that is kept under another name. -/
def membership : Schema :=
  [.leaf { name := "email", column? := some "mail", required := true },
    .leaf { name := "name", column? := some "full_name", default? := some (.string "?") },
    .leaf { name := "nick", alias? := some "handle", column? := some "nick" }]

/-- A new member without a nickname. -/
def membershipRequest : Request where
  body := some (.object [("email", .string "a@b.c")])

theorem membership_columns :
    ∀ f ∈ membership, ∃ column, f.attributes.column? = some column ∧ column ≠ "" := by
  simp [membership, Field.attributes]

theorem membership_resolve_picked :
    ∃ updates, Updates.resolve (membership.fieldMap "members")
        (.ofList [("email", .string "a@b.c"), ("name", .string "?")]) = .ok updates ∧
      List.Forall₂ (fun entry update => ∃ f ∈ membership, f.key = entry.1 ∧
        f.Picks .standard membershipRequest entry.2 ∧ update.table = "members" ∧
        f.attributes.column? = some update.column ∧ update.value = entry.2)
        [("email", .string "a@b.c"), ("name", .string "?")] updates := by
  have hpick : pick .standard membership membershipRequest =
      .ok (.ofList [("email", .string "a@b.c"), ("name", .string "?")]) := by
    rfl
  have hnames : ∀ f ∈ membership,
      f.key ∈ Entries.keys [("email", Json.string "a@b.c"), ("name", .string "?")] →
        f.key = f.name := by
    decide
  obtain ⟨hok, hupdates, -⟩ := resolve_picked (by decide) membership_columns hpick "members"
  obtain ⟨updates, hresolve⟩ := hok.mpr hnames
  exact ⟨updates, hresolve, hupdates updates hresolve⟩

/-- A nickname that is picked has no place on the allow-list. -/
theorem membership_nick_refused :
    membership.check .standard = .ok () ∧
      (∀ f ∈ membership, ∃ column, f.attributes.column? = some column ∧ column ≠ "") ∧
      pick .standard membership
          { body := some (.object [("email", .string "a@b.c"), ("nick", .string "Ann")]) } =
        .ok (.ofList
          [("email", .string "a@b.c"), ("handle", .string "Ann"), ("name", .string "?")]) ∧
      Updates.resolve (membership.fieldMap "members") (.ofList
          [("email", .string "a@b.c"), ("handle", .string "Ann"), ("name", .string "?")]) =
        .error (.invalidField "handle") :=
  ⟨by decide, membership_columns, rfl, rfl⟩

end Schema

end Intake
