import Intake.Schema.Check
import Intake.Proofs.Outcome
import Mathlib.Data.List.Nodup
import Mathlib.Data.List.Pairwise

/-!
# Well-formed schemas

What the check of a schema accepts, said without the check: for every level of the tree the names
are well formed and belong to one field each, rules and conversions are registered, and a group
has nothing that only a leaf may have.

Main results:

- Theorem {lit}`Schema.induction` proves a property of schemas from the schemas of their groups.
- {lit}`Schema.WellFormed` is the property, and theorem {lit}`Schema.wellFormed_of_check` has it
  for every schema that the check accepts.
- Theorem {lit}`Schema.WellFormed.nodup_keys`: the fields of one object have different keys.
-/

namespace Intake

/-! ## Induction over trees of fields -/

/-- A property of all leaves that a group has if its fields have it is one of all fields. -/
@[elab_as_elim]
theorem Field.induction {P : Field → Prop} (leaf : ∀ a, P (.leaf a))
    (group : ∀ a fields, (∀ f ∈ fields, P f) → P (.group a fields)) (f : Field) : P f :=
  @Field.rec P (fun fields => ∀ f ∈ fields, P f) leaf group
    (fun _ hf => absurd hf List.not_mem_nil)
    (fun _ _ hhead hrest => List.forall_mem_cons.mpr ⟨hhead, hrest⟩) f

/-- A property that a schema has if the schemas of its groups have it is one of all schemas. -/
@[elab_as_elim]
theorem Schema.induction {P : Schema → Prop}
    (level : ∀ schema, (∀ a fields, Field.group a fields ∈ schema → P fields) → P schema)
    (schema : Schema) : P schema := by
  have hfield : ∀ f : Field, ∀ a fields, f = .group a fields → P fields := by
    intro f
    induction f using Field.induction with
    | leaf a =>
        intro a' fields h
        cases h
    | group a fields ih =>
        intro a' fields' h
        cases h
        exact level fields fun a' fields' hmem => ih _ hmem a' fields' rfl
  exact level schema fun a fields _ => hfield _ a fields rfl

/-! ## Well-formed schemas -/

/-- The names are well formed and the conversion is registered. -/
structure Attributes.WellFormed (settings : Settings) (a : Attributes) : Prop where
  /-- The name and the alias are well formed. -/
  names : ∀ name ∈ a.declared, isValidKey settings.limits.maxKeyLength name = true
  /-- The conversion is registered. -/
  conversion : ∀ name, a.conversion? = some name → settings.conversions.contains name = true

/-- The field is declared as a group should be. -/
structure Attributes.FitsGroup (a : Attributes) (fields : Schema) : Prop where
  /-- There are no rules. -/
  rules : a.rules = []
  /-- The value comes from the body. -/
  source : a.source = .body
  /-- There is no particular type, or that of an array or object. -/
  type : a.type = .any ∨ a.type = .array ∨ a.type = .object
  /-- There are fields. -/
  fields : fields ≠ []

/-- No two fields share a name. -/
def Schema.Distinct (schema : Schema) : Prop :=
  schema.Pairwise fun f g => ∀ name ∈ g.attributes.names, name ∉ f.attributes.names

/-- The schema can be served with the settings. -/
inductive Schema.WellFormed (settings : Settings) : Schema → Prop
  /-- The fields of one object are in order, and so are those of every group among them. -/
  | intro {schema : Schema}
    (distinct : schema.Distinct)
    (attributes : ∀ f ∈ schema, f.attributes.WellFormed settings)
    (rules : ∀ a, Field.leaf a ∈ schema → ∀ rule ∈ a.rules, settings.rules.contains rule = true)
    (groups : ∀ a fields, Field.group a fields ∈ schema → a.FitsGroup fields)
    (inner : ∀ a fields, Field.group a fields ∈ schema → Schema.WellFormed settings fields) :
    Schema.WellFormed settings schema

/-! ## Single fields -/

section

variable {settings : Settings} {taken : List String}

/-- The names of a field have no problem when they are well formed and not taken. -/
theorem Attributes.nameProblem?_eq_none {maxKeyLength : Nat} {a : Attributes} :
    a.nameProblem? maxKeyLength taken = none ↔
      (∀ name ∈ a.declared, isValidKey maxKeyLength name = true) ∧
        ∀ name ∈ a.names, name ∉ taken := by
  unfold Attributes.nameProblem?
  split
  · next name hname =>
    have hmem := List.mem_of_find?_eq_some hname
    have hbad := List.find?_some hname
    simp only [Bool.not_eq_true', reduceCtorEq, false_iff, not_and] at hbad ⊢
    intro hvalid
    rw [hvalid name hmem] at hbad
    cases hbad
  · next hvalid =>
    have hvalid : ∀ name ∈ a.declared, isValidKey maxKeyLength name = true := by
      simpa [List.find?_eq_none] using hvalid
    simp only [Option.map_eq_none_iff, List.find?_eq_none, List.contains_iff_mem]
    exact ⟨fun h => ⟨hvalid, h⟩, fun h => h.2⟩

theorem Attributes.conversionProblem?_eq_none {a : Attributes} :
    a.conversionProblem? settings = none ↔
      ∀ name, a.conversion? = some name → settings.conversions.contains name = true := by
  unfold Attributes.conversionProblem?
  cases a.conversion? with
  | none => simp
  | some name => simp

/-- Names are resolved when all of them are registered. -/
theorem resolve_eq_ok {α : Type} {registry : Dict α} {names : List String} :
    (∃ found, resolve registry names = .ok found) ↔
      ∀ name ∈ names, registry.contains name = true := by
  induction names with
  | nil => simp [resolve]
  | cons name rest ih =>
      simp only [Dict.contains] at ih
      simp only [resolve, List.forall_mem_cons, Dict.contains]
      cases registry.get? name with
      | none => simp
      | some entry => simpa [Outcome.map_eq_ok] using ih

theorem Attributes.ruleProblem?_eq_none {a : Attributes} :
    a.ruleProblem? settings = none ↔ ∀ rule ∈ a.rules, settings.rules.contains rule = true := by
  rw [← resolve_eq_ok]
  unfold Attributes.ruleProblem?
  cases resolve settings.rules a.rules with
  | ok found => simp
  | error name => simp

/-- A group has no problem of its own when it is declared as one should be. -/
theorem Attributes.groupProblem?_eq_none {a : Attributes} {fields : Schema} :
    a.groupProblem? fields = none ↔ a.FitsGroup fields := by
  unfold Attributes.groupProblem?
  constructor
  · intro h
    split at h
    · cases h
    split at h
    · cases h
    split at h
    · cases h
    split at h
    · cases h
    next hrules hsource htype hfields =>
    exact ⟨by simpa using hrules, by simpa using hsource,
      FieldType.allowsGroup_iff.mp (by simpa using htype), by simpa using hfields⟩
  · intro h
    have hfields := h.fields
    have htype := FieldType.allowsGroup_iff.mpr h.type
    simp [h.rules, h.source, htype, hfields]

/-- The attributes come before what is peculiar to leaves and groups. -/
theorem Attributes.problems_eq_none {a : Attributes} {others : Option SchemaProblem} :
    (a.nameProblem? settings.limits.maxKeyLength taken).or
        ((a.conversionProblem? settings).or others) = none ↔
      a.WellFormed settings ∧ (∀ name ∈ a.names, name ∉ taken) ∧ others = none := by
  rw [Option.or_eq_none_iff, Option.or_eq_none_iff, Attributes.nameProblem?_eq_none,
    Attributes.conversionProblem?_eq_none]
  constructor
  · rintro ⟨⟨hnames, htaken⟩, hconversion, hothers⟩
    exact ⟨⟨hnames, hconversion⟩, htaken, hothers⟩
  · rintro ⟨⟨hnames, hconversion⟩, htaken, hothers⟩
    exact ⟨⟨hnames, htaken⟩, hconversion, hothers⟩

/-- A leaf is accepted when its attributes are well formed, its names are not taken and its rules
are registered. -/
theorem Field.check_leaf_eq_ok {path : Path} {a : Attributes} :
    Field.check settings path taken (.leaf a) = .ok () ↔
      a.WellFormed settings ∧ (∀ name ∈ a.names, name ∉ taken) ∧
        ∀ rule ∈ a.rules, settings.rules.contains rule = true := by
  rw [← Attributes.ruleProblem?_eq_none, ← Attributes.problems_eq_none]
  simp only [Field.check]
  split
  · next problem hproblem =>
    simp only [Field.problem?, Field.attributes] at hproblem
    simp [hproblem]
  · next hproblem =>
    simp only [Field.problem?, Field.attributes] at hproblem
    simp [hproblem]

/-- A group is accepted when its attributes are well formed and fit a group, its names are not
taken, and the fields below it are accepted. -/
theorem Field.check_group_eq_ok {path : Path} {a : Attributes} {fields : Schema} :
    Field.check settings path taken (.group a fields) = .ok () ↔
      (a.WellFormed settings ∧ (∀ name ∈ a.names, name ∉ taken) ∧ a.FitsGroup fields) ∧
        Field.checkAll settings (path.child a.name) [] fields = .ok () := by
  rw [← Attributes.groupProblem?_eq_none, ← Attributes.problems_eq_none]
  simp only [Field.check]
  split
  · next problem hproblem =>
    simp only [Field.problem?, Field.attributes] at hproblem
    simp [hproblem]
  · next hproblem =>
    simp only [Field.problem?, Field.attributes] at hproblem
    simp [hproblem]

/-- A field whose names are taken is not accepted, and whether others are taken is of no
matter. -/
theorem Field.check_taken {path : Path} {f : Field} :
    Field.check settings path taken f = .ok () ↔
      (∀ name ∈ f.attributes.names, name ∉ taken) ∧
        Field.check settings path [] f = .ok () := by
  cases f with
  | leaf a =>
      rw [Field.check_leaf_eq_ok, Field.check_leaf_eq_ok]
      simp only [Field.attributes, List.not_mem_nil, not_false_eq_true, implies_true, true_and]
      exact and_left_comm
  | group a fields =>
      rw [Field.check_group_eq_ok, Field.check_group_eq_ok]
      simp only [Field.attributes, List.not_mem_nil, not_false_eq_true, implies_true, true_and]
      rw [and_left_comm (a := a.WellFormed settings), and_assoc]

/-! ## Whole schemas -/

/-- The fields of one object are accepted when their names are not taken and belong to one field
each, and every field is accepted on its own. -/
theorem Field.checkAll_eq_ok {path : Path} {fields : Schema} :
    Field.checkAll settings path taken fields = .ok () ↔
      (∀ f ∈ fields, ∀ name ∈ f.attributes.names, name ∉ taken) ∧ Schema.Distinct fields ∧
        ∀ f ∈ fields, Field.check settings path [] f = .ok () := by
  induction fields generalizing taken with
  | nil => simp [Field.checkAll, Schema.Distinct]
  | cons f rest ih =>
      rw [Field.checkAll, Outcome.test_bind_eq_ok, ih, Field.check_taken]
      simp only [Schema.Distinct, List.pairwise_cons, List.forall_mem_cons, List.mem_append,
        not_or]
      constructor
      · rintro ⟨⟨hf, hcheck⟩, hrest, hdistinct, hchecks⟩
        exact ⟨⟨hf, fun g hg name hname => (hrest g hg name hname).2⟩,
          ⟨fun g hg name hname => (hrest g hg name hname).1, hdistinct⟩, hcheck, hchecks⟩
      · rintro ⟨⟨hf, hrest⟩, ⟨hfirst, hdistinct⟩, hcheck, hchecks⟩
        exact ⟨⟨hf, hcheck⟩,
          fun g hg name hname => ⟨hfirst g hg name hname, hrest g hg name hname⟩,
          hdistinct, hchecks⟩

end

/-- The check accepts the fields of one object exactly when they are a well-formed schema. -/
theorem Field.checkAll_eq_ok_iff_wellFormed {settings : Settings} {path : Path}
    (schema : Schema) :
    Field.checkAll settings path [] schema = .ok () ↔ schema.WellFormed settings := by
  induction schema using Schema.induction generalizing path with
  | level schema ih =>
      rw [Field.checkAll_eq_ok]
      constructor
      · rintro ⟨-, hdistinct, hchecks⟩
        refine ⟨hdistinct, ?_, ?_, ?_, ?_⟩
        · intro f hf
          cases f with
          | leaf a => exact (Field.check_leaf_eq_ok.mp (hchecks _ hf)).1
          | group a fields => exact (Field.check_group_eq_ok.mp (hchecks _ hf)).1.1
        · intro a hf
          exact (Field.check_leaf_eq_ok.mp (hchecks _ hf)).2.2
        · intro a fields hf
          exact (Field.check_group_eq_ok.mp (hchecks _ hf)).1.2.2
        · intro a fields hf
          exact (ih a fields hf).mp (Field.check_group_eq_ok.mp (hchecks _ hf)).2
      · rintro ⟨hdistinct, hattributes, hrules, hgroups, hinner⟩
        refine ⟨by simp, hdistinct, ?_⟩
        intro f hf
        cases f with
        | leaf a =>
            exact Field.check_leaf_eq_ok.mpr ⟨hattributes _ hf, by simp, hrules a hf⟩
        | group a fields =>
            exact Field.check_group_eq_ok.mpr
              ⟨⟨hattributes _ hf, by simp, hgroups a fields hf⟩,
                (ih a fields hf).mpr (hinner a fields hf)⟩

namespace Schema

variable {settings : Settings} {schema : Schema}

/-- Every schema that the check accepts is well formed. -/
theorem wellFormed_of_check (h : schema.check settings = .ok ()) : schema.WellFormed settings :=
  (Field.checkAll_eq_ok_iff_wellFormed schema).mp h

theorem key_mem_names (f : Field) : f.key ∈ f.attributes.names := by
  unfold Field.key Attributes.key
  rw [Attributes.mem_names]
  cases f.attributes.alias? with
  | none => exact .inl rfl
  | some other => exact .inr rfl

theorem name_mem_names (f : Field) : f.name ∈ f.attributes.names :=
  List.mem_cons_self

theorem key_mem_declared (f : Field) : f.key ∈ f.attributes.declared := by
  unfold Field.key Attributes.key Attributes.declared
  cases f.attributes.alias? <;> simp

namespace WellFormed

/-- A name belongs to one field. -/
theorem eq_of_mem_names (h : schema.WellFormed settings) {f g : Field} (hf : f ∈ schema)
    (hg : g ∈ schema) {name : String} (hfname : name ∈ f.attributes.names)
    (hgname : name ∈ g.attributes.names) : f = g := by
  cases h with
  | intro distinct =>
      have hsymm : Std.Symm fun f g : Field =>
          ∀ name ∈ g.attributes.names, name ∉ f.attributes.names :=
        ⟨fun f g hfg name hname hname' => hfg name hname' hname⟩
      by_contra hne
      exact distinct.forall hf hg hne name hgname hfname

/-- Names that are chosen one for each field are different. -/
theorem nodup_map (h : schema.WellFormed settings) {choose : Field → String}
    (hchoose : ∀ f, choose f ∈ f.attributes.names) : (schema.map choose).Nodup := by
  cases h with
  | intro distinct =>
      refine List.pairwise_map.mpr (distinct.imp ?_)
      intro f g hnames heq
      exact hnames (choose g) (hchoose g) (heq ▸ hchoose f)

/-- The fields of one object have different keys. -/
theorem nodup_keys (h : schema.WellFormed settings) : (schema.map Field.key).Nodup :=
  h.nodup_map key_mem_names

/-- The fields of one object have different names. -/
theorem nodup_names (h : schema.WellFormed settings) : (schema.map Field.name).Nodup :=
  h.nodup_map name_mem_names

/-- A field is known by its name. -/
theorem eq_of_name_eq (h : schema.WellFormed settings) {f g : Field} (hf : f ∈ schema)
    (hg : g ∈ schema) (heq : f.name = g.name) : f = g :=
  h.eq_of_mem_names hf hg (name_mem_names f) (heq ▸ name_mem_names g)

/-- A field is known by its key. -/
theorem eq_of_key_eq (h : schema.WellFormed settings) {f g : Field} (hf : f ∈ schema)
    (hg : g ∈ schema) (heq : f.key = g.key) : f = g :=
  h.eq_of_mem_names hf hg (key_mem_names f) (heq ▸ key_mem_names g)

theorem isValidKey_key (h : schema.WellFormed settings) {f : Field} (hf : f ∈ schema) :
    isValidKey settings.limits.maxKeyLength f.key = true := by
  cases h with
  | intro distinct attributes => exact (attributes f hf).names f.key (key_mem_declared f)

theorem isValidKey_name (h : schema.WellFormed settings) {f : Field} (hf : f ∈ schema) :
    isValidKey settings.limits.maxKeyLength f.name = true := by
  cases h with
  | intro distinct attributes => exact (attributes f hf).names f.name List.mem_cons_self

theorem tail {f : Field} (h : Schema.WellFormed settings (f :: schema)) :
    schema.WellFormed settings := by
  cases h with
  | intro distinct attributes rules groups inner =>
      exact ⟨List.Pairwise.of_cons distinct, fun g hg => attributes g (.tail _ hg),
        fun a hg => rules a (.tail _ hg), fun a fields hg => groups a fields (.tail _ hg),
        fun a fields hg => inner a fields (.tail _ hg)⟩

theorem fitsGroup (h : schema.WellFormed settings) {a : Attributes} {fields : Schema}
    (hf : Field.group a fields ∈ schema) : a.FitsGroup fields := by
  cases h with
  | intro distinct attributes rules groups => exact groups a fields hf

theorem nested (h : schema.WellFormed settings) {a : Attributes} {fields : Schema}
    (hf : Field.group a fields ∈ schema) : Schema.WellFormed settings fields := by
  cases h with
  | intro distinct attributes rules groups inner => exact inner a fields hf

end WellFormed

end Schema

end Intake
