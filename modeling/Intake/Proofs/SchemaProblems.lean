import Intake.Proofs.DeclaredSources
import Mathlib.Data.List.Induction

/-!
# The problems of a schema

All that is wrong with a schema can be listed in the order of declaration, a field ahead of what is
below it.  The check of schemas stops at the head of that list.

Main results:

- Definition {lit}`Schema.problems` lists the problems of a schema with the places of their fields.
- Theorem {lit}`Schema.check_eq_firstOf`: the check gives the first of them, if there is one.
- Theorem {lit}`Schema.exists_reaches_of_head?_problemsAll`: the first problem belongs to a field of
  the schema, whose place is made of the names of the groups above it and its own.
- Theorem {lit}`Schema.check_exact`: the check accepts exactly the well-formed schemas, in which the
  fields of one object have different keys at every level, and reports the first problem of all
  others with the dotted path of its field.
-/

namespace Intake

/-! ## Listing problems -/

/-- What is wrong with the names of a field, given the fields of the same object before it. -/
def Attributes.nameProblems (maxKeyLength : Nat) (before : Schema) (a : Attributes) :
    List SchemaProblem :=
  ((a.declared.filter fun name => !isValidKey maxKeyLength name).map .invalidName) ++
    (a.names.filter fun name => before.any fun f => f.attributes.names.contains name).map
      .duplicateName

/-- What is wrong with the conversion of a field. -/
def Attributes.conversionProblems (settings : Settings) (a : Attributes) : List SchemaProblem :=
  (a.conversion?.toList.filter fun name => !settings.conversions.contains name).map
    .unknownConversion

/-- What is wrong with the rules of a leaf. -/
def Attributes.ruleProblems (settings : Settings) (a : Attributes) : List SchemaProblem :=
  (a.rules.filter fun name => !settings.rules.contains name).map .unknownRule

/-- What is wrong with a group apart from the problems of its fields. -/
def Attributes.groupProblems (a : Attributes) (fields : Schema) : List SchemaProblem :=
  (if a.rules = [] then [] else [.groupWithRules]) ++
    (if a.source = .body then [] else [.groupSource a.source]) ++
    (if a.type = .any ∨ a.type = .array ∨ a.type = .object then [] else [.groupType]) ++
    (if fields = [] then [.emptyGroup] else [])

/-- What is wrong with a field itself, given the fields of the same object before it. -/
def Field.ownProblems (settings : Settings) (before : Schema) (f : Field) : List SchemaProblem :=
  f.attributes.nameProblems settings.limits.maxKeyLength before ++
    (f.attributes.conversionProblems settings ++
      match f with
      | .leaf a => a.ruleProblems settings
      | .group a fields => a.groupProblems fields)

mutual

/-- The problems of a field of the object at {lit}`path`, ahead of those of the fields below it. -/
def Field.problems (settings : Settings) (path : Path) (before : Schema) :
    Field → List SchemaError
  | .leaf a => ((Field.leaf a).ownProblems settings before).map fun p => ⟨path.child a.name, p⟩
  | .group a fields =>
    (((Field.group a fields).ownProblems settings before).map fun p => ⟨path.child a.name, p⟩) ++
      Field.problemsAll settings (path.child a.name) [] fields
termination_by structural field => field

/-- The problems of the fields of the object at {lit}`path`, one field after the other. -/
def Field.problemsAll (settings : Settings) (path : Path) (before : Schema) :
    List Field → List SchemaError
  | [] => []
  | f :: rest =>
    Field.problems settings path before f ++
      Field.problemsAll settings path (before ++ [f]) rest
termination_by structural fields => fields

end

/-- All problems of a schema in the order of declaration. -/
def Schema.problems (settings : Settings) (schema : Schema) : List SchemaError :=
  Field.problemsAll settings [] [] schema

/-! ## The first problem -/

/-- Refuses with the first of some problems. -/
def firstOf (problems : List SchemaError) : Except SchemaError Unit :=
  match problems.head? with
  | none => .ok ()
  | some e => .error e

theorem firstOf_append (xs ys : List SchemaError) :
    firstOf (xs ++ ys) = firstOf xs >>= fun _ => firstOf ys := by
  cases xs <;> rfl

theorem firstOf_eq_error_iff {problems : List SchemaError} {e : SchemaError} :
    firstOf problems = .error e ↔ problems.head? = some e := by
  cases problems <;> simp [firstOf]

/-- The taken names are those of the fields before. -/
def Schema.Takes (before : Schema) (taken : List String) : Prop :=
  ∀ name, name ∈ taken ↔ ∃ f ∈ before, name ∈ f.attributes.names

theorem Schema.Takes.snoc {before : Schema} {taken : List String} (h : before.Takes taken)
    (f : Field) : Schema.Takes (before ++ [f]) (f.attributes.names ++ taken) := by
  intro name
  rw [List.mem_append, h name]
  simp only [List.mem_append, List.mem_singleton, or_and_right, exists_or, exists_eq_left]
  exact or_comm

section

variable {settings : Settings} {before : Schema} {taken : List String}

theorem Attributes.head?_nameProblems (htaken : before.Takes taken) (maxKeyLength : Nat)
    (a : Attributes) :
    (a.nameProblems maxKeyLength before).head? = a.nameProblem? maxKeyLength taken := by
  have hcontains : (fun name => before.any fun f => f.attributes.names.contains name) =
      taken.contains := by
    funext name
    rw [Bool.eq_iff_iff, List.contains_iff_mem, htaken]
    simp
  rw [nameProblems, hcontains, List.head?_append, List.head?_map, List.head?_map,
    List.head?_filter, List.head?_filter, nameProblem?]
  cases a.declared.find? fun name => !isValidKey maxKeyLength name <;> rfl

theorem Attributes.head?_conversionProblems (a : Attributes) :
    (a.conversionProblems settings).head? = a.conversionProblem? settings := by
  unfold conversionProblems conversionProblem?
  cases a.conversion? with
  | none => rfl
  | some name => cases h : settings.conversions.contains name <;> simp [h]

/-- Resolving names stops at the first one that is not registered. -/
theorem resolve_eq_error_iff {α : Type} {registry : Dict α} {names : List String} {name : String} :
    resolve registry names = .error name ↔
      names.find? (fun name => !registry.contains name) = some name := by
  induction names with
  | nil => simp [resolve]
  | cons first rest ih =>
      rw [resolve, List.find?_cons, Dict.contains]
      cases registry.get? first with
      | none => simp
      | some entry => simpa [Outcome.map_eq_error] using ih

theorem Attributes.head?_ruleProblems (a : Attributes) :
    (a.ruleProblems settings).head? = a.ruleProblem? settings := by
  rw [ruleProblems, List.head?_map, List.head?_filter, ruleProblem?]
  cases hresolve : resolve settings.rules a.rules with
  | error name => rw [resolve_eq_error_iff.mp hresolve, Option.map_some]
  | ok found =>
      rw [Option.map_eq_none_iff, Option.eq_none_iff_forall_ne_some]
      intro name hname
      rw [resolve_eq_error_iff.mpr hname] at hresolve
      cases hresolve

theorem Attributes.head?_groupProblems (a : Attributes) (fields : Schema) :
    (a.groupProblems fields).head? = a.groupProblem? fields := by
  unfold groupProblems groupProblem?
  cases a.rules with
  | cons rule rules => simp
  | nil =>
      by_cases hsource : a.source = .body
      · simp only [← FieldType.allowsGroup_iff]
        cases htype : a.type.allowsGroup <;> cases fields <;> simp [hsource]
      · simp [hsource]

/-- The check of a field looks for the first of its own problems. -/
theorem Field.head?_ownProblems (htaken : before.Takes taken) (f : Field) :
    (f.ownProblems settings before).head? = f.problem? settings taken := by
  unfold ownProblems problem?
  rw [List.head?_append, List.head?_append, Attributes.head?_nameProblems htaken,
    Attributes.head?_conversionProblems]
  cases f with
  | leaf a => rw [Attributes.head?_ruleProblems]
  | group a fields => rw [Attributes.head?_groupProblems]

theorem Field.firstOf_ownProblems (htaken : before.Takes taken) (path : Path) (f : Field) :
    firstOf ((f.ownProblems settings before).map fun p => ⟨path, p⟩) =
      match f.problem? settings taken with
      | some problem => .error ⟨path, problem⟩
      | none => .ok () := by
  rw [firstOf, List.head?_map, Field.head?_ownProblems htaken]
  cases f.problem? settings taken <;> rfl

/-- The fields of an object are checked up to the first problem when each of them is. -/
theorem Field.checkAll_eq_firstOf_of {path : Path} {fields : List Field}
    (h : ∀ f ∈ fields, ∀ before taken, Schema.Takes before taken →
      Field.check settings path taken f = firstOf (Field.problems settings path before f))
    (htaken : before.Takes taken) :
    Field.checkAll settings path taken fields =
      firstOf (Field.problemsAll settings path before fields) := by
  induction fields generalizing before taken with
  | nil => rfl
  | cons f rest ih =>
      obtain ⟨hf, hrest⟩ := List.forall_mem_cons.mp h
      rw [checkAll, problemsAll, firstOf_append, hf before taken htaken,
        ih hrest (htaken.snoc f)]

/-- A field is checked up to its first problem. -/
theorem Field.check_eq_firstOf (htaken : before.Takes taken) (path : Path) (f : Field) :
    Field.check settings path taken f = firstOf (Field.problems settings path before f) := by
  induction f using Field.induction generalizing path before taken with
  | leaf a =>
      rw [check, problems]
      exact (Field.firstOf_ownProblems htaken (path.child a.name) (.leaf a)).symm
  | group a fields ih =>
      have hinner : Field.checkAll settings (path.child a.name) [] fields =
          firstOf (Field.problemsAll settings (path.child a.name) [] fields) :=
        Field.checkAll_eq_firstOf_of
          (fun f hf before taken htaken => ih f hf htaken (path.child a.name))
          (by simp [Schema.Takes])
      rw [check, problems, firstOf_append, Field.firstOf_ownProblems htaken, hinner]
      cases (Field.group a fields).problem? settings taken <;> rfl

end

/-- The check of a schema gives its first problem. -/
theorem Schema.check_eq_firstOf (settings : Settings) (schema : Schema) :
    schema.check settings = firstOf (schema.problems settings) :=
  Field.checkAll_eq_firstOf_of
    (fun f _ _ _ htaken => Field.check_eq_firstOf htaken [] f) (by simp [Schema.Takes])

/-! ## Places -/

namespace Path

/-- The place that is reached from the root through fields with the names. -/
def ofNames (names : List String) : Path :=
  names.map .name

theorem text_ofNames_snoc (names : List String) (last : String) :
    (ofNames (names ++ [last])).text = extend (ofNames names).text (.name last) := by
  simp [ofNames, text]

theorem text_ofNames_snoc_ne_empty (names : List String) {last : String} (h : last ≠ "") :
    (ofNames (names ++ [last])).text ≠ "" := by
  rw [text_ofNames_snoc, extend]
  split <;> simp [h]

/-- The text of a place has points between the names, as long as no name but the last one is
empty. -/
theorem text_ofNames {above : List String} (h : ∀ name ∈ above, name ≠ "") (last : String) :
    (ofNames (above ++ [last])).text = ".".intercalate (above ++ [last]) := by
  induction above using List.reverseRecOn generalizing last with
  | nil => simp [ofNames, text, extend, String.intercalate_singleton]
  | append_singleton above name ih =>
      have hname : name ≠ "" := h name (by simp)
      have htext := ih (fun other hother => h other (by simp [hother])) name
      have hne := text_ofNames_snoc_ne_empty above hname
      have hjoin : ".".intercalate (above ++ [name] ++ [last]) =
          ".".intercalate (above ++ [name]) ++ "." ++ ".".intercalate [last] :=
        String.intercalate_append_of_ne_nil (by simp) (by simp)
      rw [text_ofNames_snoc, extend, if_neg (by simpa using hne), htext, hjoin,
        String.intercalate_singleton]

end Path

section

variable {settings : Settings} {before : Schema}

/-- The first problem of the fields of an object is the first one of some field. -/
theorem Field.exists_of_head?_problemsAll {path : Path} {fields : List Field} {e : SchemaError}
    (h : (Field.problemsAll settings path before fields).head? = some e) :
    ∃ f ∈ fields, ∃ before, (Field.problems settings path before f).head? = some e := by
  induction fields generalizing before with
  | nil => cases h
  | cons f rest ih =>
      rw [problemsAll, List.head?_append, Option.or_eq_some_iff] at h
      rcases h with h | ⟨-, h⟩
      · exact ⟨f, List.mem_cons_self, before, h⟩
      · obtain ⟨g, hg, hproblem⟩ := ih h
        exact ⟨g, List.mem_cons_of_mem _ hg, hproblem⟩

theorem Field.name_ne_empty_of_ownProblems {f : Field} (h : f.ownProblems settings before = []) :
    f.name ≠ "" := by
  intro hname
  have hvalid : isValidKey settings.limits.maxKeyLength f.name = true := by
    simp only [ownProblems, Attributes.nameProblems, List.append_eq_nil_iff, List.map_eq_nil_iff,
      List.filter_eq_nil_iff] at h
    simpa using h.1.1 f.name List.mem_cons_self
  rw [hname] at hvalid
  cases hvalid

/-- The first problem of a schema belongs to a field of it, and its place is made of the names of
the groups above the field, none of which is empty, and of its own. -/
theorem Schema.exists_reaches_of_head?_problemsAll {schema : Schema} {path : Path}
    {e : SchemaError}
    (h : (Field.problemsAll settings path before schema).head? = some e) :
    ∃ above f, schema.Reaches above f ∧ (∀ a ∈ above, a.name ≠ "") ∧
      e.path = path ++ Path.ofNames (above.map Attributes.name ++ [f.name]) := by
  induction schema using Schema.induction generalizing path before with
  | level schema ih =>
      obtain ⟨f, hf, before, hproblem⟩ := Field.exists_of_head?_problemsAll h
      have hown : (∃ p, e = ⟨path.child f.name, p⟩) → ∃ above f, schema.Reaches above f ∧
          (∀ a ∈ above, a.name ≠ "") ∧
            e.path = path ++ Path.ofNames (above.map Attributes.name ++ [f.name]) := by
        rintro ⟨p, rfl⟩
        exact ⟨[], f, .here hf, by simp, rfl⟩
      cases f with
      | leaf a =>
          rw [Field.problems, List.head?_map, Option.map_eq_some_iff] at hproblem
          obtain ⟨p, -, heq⟩ := hproblem
          exact hown ⟨p, heq.symm⟩
      | group a fields =>
          rw [Field.problems, List.head?_append, List.head?_map, Option.or_eq_some_iff,
            Option.map_eq_some_iff, Option.map_eq_none_iff, List.head?_eq_none_iff] at hproblem
          rcases hproblem with ⟨p, -, heq⟩ | ⟨hnone, hinner⟩
          · exact hown ⟨p, heq.symm⟩
          · obtain ⟨above, g, hg, habove, hpath⟩ := ih a fields hf hinner
            have hname : a.name ≠ "" := Field.name_ne_empty_of_ownProblems hnone
            refine ⟨a :: above, g, .inner hf hg, List.forall_mem_cons.mpr ⟨hname, habove⟩, ?_⟩
            rw [hpath]
            simp [Path.child, Path.ofNames]

end

/-! ## Main result -/

namespace Schema

/-- The check accepts exactly the well-formed schemas.  In these the fields of one object have
different keys, at the top level and below every group.  For any other schema the check reports its
first problem in the order of declaration, at the place of a field of the schema, which is written
as the names that lead to the field with points between them. -/
theorem check_exact (settings : Settings) (schema : Schema) :
    (schema.check settings = .ok () ↔ schema.WellFormed settings) ∧
      (schema.WellFormed settings → (schema.map Field.key).Nodup ∧
        ∀ above a fields, schema.Reaches above (.group a fields) →
          (List.map Field.key fields).Nodup) ∧
      (∀ e, schema.check settings = .error e ↔ (schema.problems settings).head? = some e) ∧
      ∀ e, schema.check settings = .error e → ∃ above f, schema.Reaches above f ∧
        e.path.text = ".".intercalate (above.map Attributes.name ++ [f.name]) := by
  have hfirst : ∀ e, schema.check settings = .error e ↔
      (schema.problems settings).head? = some e := by
    intro e
    rw [check_eq_firstOf, firstOf_eq_error_iff]
  refine ⟨Field.checkAll_eq_ok_iff_wellFormed schema, ?_, hfirst, ?_⟩
  · intro hschema
    refine ⟨hschema.nodup_keys, ?_⟩
    intro above a fields h
    exact (Reaches.wellFormed_fields hschema h).nodup_keys
  · intro e he
    obtain ⟨above, f, hf, habove, hpath⟩ := exists_reaches_of_head?_problemsAll ((hfirst e).mp he)
    refine ⟨above, f, hf, ?_⟩
    rw [hpath, List.nil_append]
    refine Path.text_ofNames ?_ f.name
    intro name hname
    obtain ⟨a, ha, rfl⟩ := List.mem_map.mp hname
    exact habove a ha

/-- A schema with problems at two levels: an unknown rule below a group comes first in the order of
declaration, ahead of a name that is declared twice and of the source of a group. -/
def flawed : Schema :=
  [.leaf { name := "id", alias? := some "id" },
    .group { name := "lines", type := .array }
      [.leaf { name := "sku", rules := ["not_blank", "is_sku"] }],
    .group { name := "id", source := .header } []]

theorem flawed_check_exact :
    flawed.problems .standard =
        [⟨[.name "lines", .name "sku"], .unknownRule "is_sku"⟩, ⟨[.name "id"], .duplicateName "id"⟩,
          ⟨[.name "id"], .groupSource .header⟩, ⟨[.name "id"], .emptyGroup⟩] ∧
      flawed.check .standard = .error ⟨[.name "lines", .name "sku"], .unknownRule "is_sku"⟩ ∧
      ¬ flawed.WellFormed .standard := by
  obtain ⟨hok, -, herror, -⟩ := check_exact .standard flawed
  have hproblems : flawed.problems .standard =
      [⟨[.name "lines", .name "sku"], .unknownRule "is_sku"⟩, ⟨[.name "id"], .duplicateName "id"⟩,
        ⟨[.name "id"], .groupSource .header⟩, ⟨[.name "id"], .emptyGroup⟩] := by
    decide
  have hcheck := (herror ⟨[.name "lines", .name "sku"], .unknownRule "is_sku"⟩).mpr (by
    rw [hproblems]; rfl)
  refine ⟨hproblems, hcheck, ?_⟩
  intro hschema
  rw [hok.mpr hschema] at hcheck
  cases hcheck

end Schema

end Intake
