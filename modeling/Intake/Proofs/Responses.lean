import Intake.Handler
import Intake.Proofs.DeclaredSources
import Intake.Proofs.FirstViolation

/-!
# Responses to failures

A client that sends what it should not is told why.  The wording says where a value is wrong and
which rule refuses it, and must not carry what the client sent to somebody else.  All that it may
say is written down ahead of any request, in a list that has one place for all items of an array.

Main results:

- {lit}`Rule.Form` lists the ready-made rules and those that are made from bounds or texts, and
  theorem {lit}`Rule.Form.mem_reasons` says which reasons each of them may give.
- Definition {lit}`Schema.complaints` lists what may be said of the values for a schema, and theorem
  {lit}`Schema.Violates.mem_complaints` has it for every violation.
- Theorem {lit}`Handler.response_of_failure`: a client whose request fails is told nothing but that
  its input is invalid, or one of these complaints.
-/

namespace Intake

/-! ## Reasons -/

namespace Rule

/-- The ready-made rules, and those that are made from bounds or texts. -/
inductive Form where
  /-- Refuses null. -/
  | notNull
  /-- Accepts texts that are not blank. -/
  | notBlank
  /-- Accepts texts that look like an address. -/
  | email
  /-- Accepts texts that spell an identifier. -/
  | uuid
  /-- Accepts numbers above zero. -/
  | positive
  /-- Accepts numbers that are not below zero. -/
  | nonNegative
  /-- Accepts texts and arrays with a length between two bounds. -/
  | length (least greatest : Nat)
  /-- Accepts numbers between two bounds. -/
  | range (least greatest : Binary64)
  /-- Accepts the texts of a list. -/
  | oneOf (allowed : List String)

namespace Form

/-- The rule of a form. -/
def rule : Form → Rule
  | notNull => Rule.notNull
  | notBlank => Rule.notBlank
  | email => Rule.email
  | uuid => Rule.uuid
  | positive => Rule.positive
  | nonNegative => Rule.nonNegative
  | length least greatest => Rule.length least greatest
  | range least greatest => Rule.range least greatest
  | oneOf allowed => Rule.oneOf allowed

/-- The reasons that the rule of a form may give. -/
def reasons : Form → List Reason
  | notNull => [.null]
  | notBlank => [.blank, .notText]
  | email => [.notEmail, .tooManyCharacters emailLimit, .notText]
  | uuid => [.notUuid]
  | positive => [.notPositive, .notNumber]
  | nonNegative => [.negative, .notNumber]
  | length least greatest => [.tooShort least, .tooLong greatest, .noLength]
  | range least greatest => [.below least, .above greatest, .notNumber]
  | oneOf allowed => [.notAmong allowed]

/-- Whatever the value is, it is refused for one of the reasons. -/
theorem mem_reasons (form : Form) {value : Json} {reason : Reason} :
    form.rule value = .error reason → reason ∈ form.reasons := by
  cases form with
  | notNull =>
      simp only [rule, Rule.notNull, reasons, List.mem_cons]
      grind
  | notBlank =>
      simp only [rule, Rule.notBlank, reasons, List.mem_cons]
      grind
  | email =>
      simp only [rule, Rule.email, reasons, List.mem_cons]
      grind
  | uuid =>
      simp only [rule, Rule.uuid, reasons, List.mem_cons]
      grind
  | positive =>
      simp only [rule, Rule.positive, reasons, List.mem_cons]
      grind
  | nonNegative =>
      simp only [rule, Rule.nonNegative, reasons, List.mem_cons]
      grind
  | length least greatest =>
      simp only [rule, Rule.length, reasons, List.mem_cons]
      grind
  | range least greatest =>
      simp only [rule, Rule.range, reasons, List.mem_cons]
      grind
  | oneOf allowed =>
      simp only [rule, Rule.oneOf, reasons, List.mem_cons]
      grind

/-- The reasons that the rule under a name may give, by the form of the rule. -/
def reasonsOf (forms : Dict Form) (name : String) : List Reason :=
  (forms.get? name).elim [] reasons

/-- The rules of forms, under the same names. -/
def rules (forms : Dict Form) : Dict Rule :=
  forms.map rule

theorem get?_rules (forms : Dict Form) (name : String) :
    (rules forms).get? name = (forms.get? name).map rule :=
  Dict.get?_map rule forms name

/-- The rule under a name is the one of the form under it. -/
def Describes (forms : Dict Form) (rules : Dict Rule) (name : String) : Prop :=
  ∃ form, forms.get? name = some form ∧ rules.get? name = some form.rule

end Form

end Rule

/-! ## Complaints -/

/-- The step, with the first item in place of any. -/
def PathStep.pattern : PathStep → PathStep
  | .name s => .name s
  | .index _ => .index 0

/-- The path, with the first item in place of any. -/
def Path.pattern (path : Path) : Path :=
  path.map PathStep.pattern

/-- The violation, with the first item in place of any. -/
def Violation.pattern (v : Violation) : Violation :=
  ⟨v.path.pattern, v.fault⟩

theorem Path.pattern_child (path : Path) (name : String) :
    (path.child name).pattern = path.pattern.child name := by
  simp [Path.pattern, Path.child, PathStep.pattern]

theorem Path.pattern_item (path : Path) (n : Nat) :
    (path.item n).pattern = path.pattern.item 0 := by
  simp [Path.pattern, Path.item, PathStep.pattern]

section

variable (reasons : String → List Reason) (limit : Nat)

/-- The complaint that a value is missing, if it must be there. -/
def Attributes.missing (path : Path) (a : Attributes) : List Violation :=
  if a.required then [⟨path, .required⟩] else []

mutual

/-- What may be said of the value of a field at a place, given the reasons of rules and the greatest
depth.  A group may have an object there, or an array with objects. -/
def Field.complaints (path : Path) : Field → List Violation
  | .leaf a =>
    a.missing path ++
      a.rules.flatMap fun name => (reasons name).map fun reason => ⟨path, .refused name reason⟩
  | .group a fields =>
    a.missing path ++
      [path, path.item 0].flatMap fun place =>
        ⟨place, .notObject⟩ :: ⟨place, .tooDeep limit⟩ :: Field.complaintsAll place fields
termination_by structural field => field

/-- What may be said of the fields of the object at a place. -/
def Field.complaintsAll (path : Path) : List Field → List Violation
  | [] => []
  | f :: rest => Field.complaints (path.child f.name) f ++ Field.complaintsAll path rest
termination_by structural fields => fields

end

/-- What may be said of the object at a place. -/
def Schema.complaints (path : Path) (schema : Schema) : List Violation :=
  ⟨path, .tooDeep limit⟩ :: Field.complaintsAll reasons limit path schema

variable {reasons} {limit} {path : Path} {c : Violation}

theorem Field.missing_subset (f : Field) :
    f.attributes.missing path ⊆ f.complaints reasons limit path := by
  cases f with
  | leaf a =>
      rw [Field.complaints]
      exact List.subset_append_left _ _
  | group a fields =>
      rw [Field.complaints]
      exact List.subset_append_left _ _

theorem Field.mem_complaints_leaf {a : Attributes} {name : String} {reason : Reason}
    (hname : name ∈ a.rules) (hreason : reason ∈ reasons name) :
    ⟨path, .refused name reason⟩ ∈ Field.complaints reasons limit path (.leaf a) := by
  rw [Field.complaints]
  exact List.mem_append_right _ (List.mem_flatMap.mpr ⟨name, hname, List.mem_map_of_mem hreason⟩)

/-- Of a group there is to be said what is of an object at its place, or of the first item. -/
theorem Field.mem_complaints_group {a : Attributes} {fields : Schema} {place : Path}
    (hplace : place = path ∨ place = path.item 0)
    (h : c = ⟨place, .notObject⟩ ∨ c ∈ Schema.complaints reasons limit place fields) :
    c ∈ Field.complaints reasons limit path (.group a fields) := by
  rw [Field.complaints]
  refine List.mem_append_right _ (List.mem_flatMap.mpr ⟨place, ?_, List.mem_cons.mpr h⟩)
  simpa using hplace

theorem Schema.mem_complaints {schema : Schema} {f : Field} (hf : f ∈ schema)
    (h : c ∈ f.complaints reasons limit (path.child f.name)) :
    c ∈ schema.complaints reasons limit path := by
  have hall : c ∈ Field.complaintsAll reasons limit path schema := by
    induction schema with
    | nil => cases hf
    | cons g rest ih =>
        rw [Field.complaintsAll]
        rcases List.mem_cons.mp hf with rfl | hf
        · exact List.mem_append_left _ h
        · exact List.mem_append_right _ (ih hf)
  exact List.mem_cons_of_mem _ hall

end

/-! ## Violations -/

/-- The rules of all fields are known by their forms. -/
def Schema.Formed (settings : Settings) (forms : Dict Rule.Form) (schema : Schema) : Prop :=
  ∀ above f, schema.Reaches above f →
    ∀ name ∈ f.attributes.rules, Rule.Form.Describes forms settings.rules name

/-- So it is in a well-formed schema if the rules are those of the forms. -/
theorem Schema.WellFormed.formed {settings : Settings} {forms : Dict Rule.Form} {schema : Schema}
    (hschema : schema.WellFormed settings) (hrules : settings.rules = Rule.Form.rules forms) :
    schema.Formed settings forms := by
  intro above f h
  induction h with
  | @here schema f hf =>
      intro name hname
      cases f with
      | leaf a =>
          have hregistered : (settings.rules.get? name).isSome = true := by
            cases hschema with
            | intro distinct attributes rules => exact rules a hf name hname
          rw [hrules, Rule.Form.get?_rules, Option.isSome_map] at hregistered
          obtain ⟨form, hform⟩ := Option.isSome_iff_exists.mp hregistered
          refine ⟨form, hform, ?_⟩
          rw [hrules, Rule.Form.get?_rules, hform]
          rfl
      | group a fields =>
          have hnone : a.rules = [] := (hschema.fitsGroup hf).rules
          rw [Field.attributes, hnone] at hname
          cases hname
  | inner hgroup _ ih => exact ih (hschema.nested hgroup)

section

variable {settings : Settings} {forms : Dict Rule.Form} {depth : Nat} {path : Path} {turn : Turn}
  {v : Violation}

/-- A fault that a known rule has to find with a value is one for which it may refuse any value. -/
theorem Refuses.exists_reason {value : Json} {name : String} {fault : Fault}
    (h : Refuses settings.rules value name fault)
    (hform : Rule.Form.Describes forms settings.rules name) :
    ∃ reason ∈ Rule.Form.reasonsOf forms name, fault = .refused name reason := by
  obtain ⟨form, hget, hrule⟩ := hform
  cases h with
  | unregistered hnone =>
      rw [hrule] at hnone
      cases hnone
  | @refused rule reason hsome hrefuses =>
      rw [hrule] at hsome
      cases hsome
      refine ⟨reason, ?_, rfl⟩
      rw [Rule.Form.reasonsOf, hget]
      exact form.mem_reasons hrefuses

/-- A violation of a field is among the complaints about it, if those of the objects of a group are
among the complaints about these. -/
theorem Field.Violates.mem_complaints {f : Field} {found : Option Json}
    (h : Field.Violates settings depth path f found turn v)
    (hforms : ∀ name ∈ f.attributes.rules, Rule.Form.Describes forms settings.rules name)
    (hinner : ∀ a fields, f = .group a fields → ∀ place entries turn v,
      Schema.Violates settings (depth + 1) place fields entries turn v →
        v.pattern ∈ Schema.complaints (Rule.Form.reasonsOf forms) settings.limits.maxDepth
          place.pattern fields) :
    v.pattern ∈ f.complaints (Rule.Form.reasonsOf forms) settings.limits.maxDepth
      path.pattern := by
  cases h with
  | required hrequired =>
      refine Field.missing_subset f ?_
      rw [Attributes.missing, if_pos hrequired]
      exact List.mem_singleton.mpr rfl
  | rule hname hfault =>
      have hname := List.mem_of_getElem? hname
      obtain ⟨reason, hreason, rfl⟩ := hfault.exists_reason (hforms _ hname)
      exact Field.mem_complaints_leaf hname hreason
  | notObject => exact Field.mem_complaints_group (.inl rfl) (.inl rfl)
  | @item _ _ a fields items i item hitem hobject =>
      refine Field.mem_complaints_group (.inr rfl) (.inl ?_)
      rw [Violation.pattern, Path.pattern_item]
  | @object _ _ a fields entries _ _ hviolates =>
      exact Field.mem_complaints_group (.inl rfl) (.inr (hinner a fields rfl _ _ _ _ hviolates))
  | @element _ _ a fields items i entries _ _ hitem hviolates =>
      have hmem := hinner a fields rfl _ _ _ _ hviolates
      rw [Path.pattern_item] at hmem
      exact Field.mem_complaints_group (.inr rfl) (.inr hmem)

/-- Every violation is among the complaints about the object at its place. -/
theorem Schema.Violates.mem_complaints {schema : Schema} {entries : Entries Json}
    (h : schema.Violates settings depth path entries turn v)
    (hforms : schema.Formed settings forms) :
    v.pattern ∈ schema.complaints (Rule.Form.reasonsOf forms) settings.limits.maxDepth
      path.pattern := by
  -- A violation below a group is one of an object with the schema of the group.
  induction schema using Schema.induction generalizing depth path entries turn v with
  | level schema ih =>
      cases h with
      | tooDeep => exact List.mem_cons_self
      | field hf hfield =>
          have hf := List.mem_of_getElem? hf
          refine Schema.mem_complaints hf ?_
          rw [← Path.pattern_child]
          refine hfield.mem_complaints (hforms [] _ (.here hf)) ?_
          rintro a fields rfl place entries' turn' v' hviolates
          exact ih a fields hf hviolates fun above g hg => hforms (a :: above) g (.inner hf hg)

end

/-! ## Main result -/

namespace Handler

variable {α : Type}

/-- A request with a violation was picked, and the violation is the one that validation finds. -/
theorem exists_validate_of_violation {handler : Handler α} {r : Request} {v : Violation}
    (h : handler.handle r = .error (.violation v)) :
    ∃ picked, pick handler.settings handler.schema r = .ok picked ∧
      validate handler.settings handler.schema picked.entries = .error v := by
  cases hpick : pick handler.settings handler.schema r with
  | error e =>
      rw [handle_of_unreadable hpick] at h
      cases h
  | ok picked =>
      refine ⟨picked, rfl, ?_⟩
      cases hvalid : validate handler.settings handler.schema picked.entries with
      | error w =>
          rw [handle_of_violation hpick hvalid] at h
          cases h
          rfl
      | ok =>
          rw [handle_of_valid hpick hvalid] at h
          obtain ⟨e, -, he⟩ := Outcome.mapError_eq_error.mp h
          cases he

/-- A request that fails for a violation is answered with one complaint from the list that the
schema, the forms of its rules and the greatest depth determine, at some items of arrays.  Every
other failure has one and the same response. -/
theorem response_of_failure (handler : Handler α) {forms : Dict Rule.Form}
    (hforms : handler.schema.Formed handler.settings forms) {r : Request} {failure : Failure}
    (h : handler.handle r = .error failure) :
    (∃ v, failure = .violation v ∧
      v.pattern ∈ handler.schema.complaints (Rule.Form.reasonsOf forms)
        handler.settings.limits.maxDepth [] ∧
      failure.toApiError.response =
        ⟨422, some (.object [("details", .array [.string v.toError.message]),
          ("error", .string "Validation failed")])⟩) ∨
    ((∀ v, failure ≠ .violation v) ∧
      failure.toApiError.response =
        ⟨400, some (.object [("error", .string "Invalid input")])⟩) := by
  cases failure with
  | request e => exact .inr ⟨by simp, rfl⟩
  | decode e => exact .inr ⟨by simp, rfl⟩
  | violation v =>
      obtain ⟨picked, -, hv⟩ := exists_validate_of_violation h
      obtain ⟨turn, hviolates, -⟩ := (finds_enter handler.schema picked.entries).first v hv
      exact .inl ⟨v, rfl, hviolates.mem_complaints hforms, rfl⟩

/-- The forms of the rules of a survey. -/
def surveyForms : Dict Rule.Form :=
  .ofList [("email", .email), ("short", .length 1 80)]

/-- A survey with an array of answers. -/
def survey : Handler Json where
  schema :=
    [.leaf { name := "email", required := true, rules := ["email"] },
      .group { name := "answers" } [.leaf { name := "text", rules := ["short"] }]]
  settings := { Settings.standard with rules := Rule.Form.rules surveyForms }
  destination := .any
  check_eq := by decide

/-- A request for a survey, with a second answer that is too short. -/
def surveyRequest : Request where
  body := some (.object
    [("answers", .array [.object [("text", .string "yes")], .object [("text", .string "")]]),
      ("email", .string "ann@example.org")])

theorem survey_response_of_failure :
    ∃ failure, survey.handle surveyRequest = .error failure ∧
      ((∃ v, failure = .violation v ∧
        v.pattern ∈ survey.schema.complaints (Rule.Form.reasonsOf surveyForms) 32 [] ∧
        failure.toApiError.response =
          ⟨422, some (.object [("details", .array [.string v.toError.message]),
            ("error", .string "Validation failed")])⟩) ∨
      ((∀ v, failure ≠ .violation v) ∧
        failure.toApiError.response =
          ⟨400, some (.object [("error", .string "Invalid input")])⟩)) := by
  have hforms : survey.schema.Formed survey.settings surveyForms :=
    (Schema.wellFormed_of_check survey.check_eq).formed rfl
  have hfailure : survey.handle surveyRequest =
      .error (.violation ⟨[.name "answers", .index 1, .name "text"],
        .refused "short" (.tooShort 1)⟩) := by
    rfl
  exact ⟨_, hfailure, survey.response_of_failure hforms hfailure⟩

example :
    Schema.complaints (Rule.Form.reasonsOf surveyForms) 32 []
        [.group { name := "answers" } [.leaf { name := "text", rules := ["short"] }]] =
      [⟨[], .tooDeep 32⟩,
        ⟨[.name "answers"], .notObject⟩,
        ⟨[.name "answers"], .tooDeep 32⟩,
        ⟨[.name "answers", .name "text"], .refused "short" (.tooShort 1)⟩,
        ⟨[.name "answers", .name "text"], .refused "short" (.tooLong 80)⟩,
        ⟨[.name "answers", .name "text"], .refused "short" .noLength⟩,
        ⟨[.name "answers", .index 0], .notObject⟩,
        ⟨[.name "answers", .index 0], .tooDeep 32⟩,
        ⟨[.name "answers", .index 0, .name "text"], .refused "short" (.tooShort 1)⟩,
        ⟨[.name "answers", .index 0, .name "text"], .refused "short" (.tooLong 80)⟩,
        ⟨[.name "answers", .index 0, .name "text"], .refused "short" .noLength⟩] := by
  rfl

end Handler

end Intake
