import Intake.Handler
import Intake.Proofs.Coerce
import Intake.Proofs.FirstViolation
import Intake.Proofs.Pick

/-!
# The order of fields

Every stage takes the fields of a schema in the order in which they are declared, stops at the
first one that fails, and writes to the same object for all of them.  No two fields of a schema that
the check accepts share a name or a key, so that the steps for two neighbours may change places.
Only the failure that comes first depends on the order, and clients do not see more of it than its
kind.

Main results:

- {lit}`Schema.Reordered` compares schemas up to the order of fields at every level, and theorem
  {lit}`Schema.Reordered.of_perm` has it for any two orders of one level.
- Theorems {lit}`Schema.Reordered.toOption_pick`, {lit}`Schema.Reordered.validate_eq_ok_iff` and
  {lit}`Schema.Reordered.coerceAll_eq` take the three stages one by one.
- Theorem {lit}`Schema.order_irrelevant`: the check and the handlers of both schemas agree, up to
  the details of errors.
-/

namespace Intake

/-! ## Schemas in another order -/

/-- The schemas have the same fields, with an order of their own at every level. -/
inductive Schema.Reordered : Schema → Schema → Prop
  /-- Both may have no fields. -/
  | nil : Schema.Reordered [] []
  /-- Both may begin with the same leaf. -/
  | leaf {a : Attributes} {rest rest' : Schema} (hrest : Schema.Reordered rest rest') :
    Schema.Reordered (.leaf a :: rest) (.leaf a :: rest')
  /-- Both may begin with the same group, whose fields are in another order. -/
  | group {a : Attributes} {fields fields' rest rest' : Schema}
    (hfields : Schema.Reordered fields fields') (hrest : Schema.Reordered rest rest') :
    Schema.Reordered (.group a fields :: rest) (.group a fields' :: rest')
  /-- The first two fields may have changed places. -/
  | swap (f g : Field) (rest : Schema) : Schema.Reordered (f :: g :: rest) (g :: f :: rest)
  /-- The order may be changed several times. -/
  | trans {schema schema' schema'' : Schema} (h : Schema.Reordered schema schema')
    (h' : Schema.Reordered schema' schema'') : Schema.Reordered schema schema''

namespace Schema.Reordered

variable {settings : Settings} {schema schema' : Schema}

theorem symm (h : schema.Reordered schema') : schema'.Reordered schema := by
  induction h with
  | nil => exact .nil
  | leaf _ ih => exact .leaf ih
  | group _ _ ihfields ih => exact .group ihfields ih
  | swap f g rest => exact .swap g f rest
  | trans _ _ ih ih' => exact .trans ih' ih

theorem cons (f : Field) (hfields : ∀ a fields, f = .group a fields → Reordered fields fields)
    (hrest : schema.Reordered schema') : Reordered (f :: schema) (f :: schema') := by
  cases f with
  | leaf a => exact .leaf hrest
  | group a fields => exact .group (hfields a fields rfl) hrest

theorem refl (schema : Schema) : schema.Reordered schema := by
  induction schema using Schema.induction with
  | level schema ih =>
      induction schema with
      | nil => exact .nil
      | cons f rest ihrest =>
          refine .cons f ?_ (ihrest fun a fields hmem => ih a fields (.tail _ hmem))
          rintro a fields rfl
          exact ih a fields List.mem_cons_self

/-- Any two orders of the fields of one level are covered. -/
theorem of_perm (h : schema.Perm schema') : schema.Reordered schema' := by
  induction h with
  | nil => exact .nil
  | cons f _ ih => exact .cons f (fun _ fields _ => refl fields) ih
  | swap f g rest => exact .swap g f rest
  | trans _ _ ih ih' => exact .trans ih ih'

/-! ## The check -/

theorem attributes_perm (h : schema.Reordered schema') :
    (schema.map Field.attributes).Perm (schema'.map Field.attributes) := by
  induction h with
  | nil => exact .nil
  | leaf _ ih => exact .cons _ ih
  | group _ _ _ ih => exact .cons _ ih
  | swap f g rest => exact .swap _ _ _
  | trans _ _ ih ih' => exact .trans ih ih'

theorem ne_nil (h : schema.Reordered schema') (hne : schema ≠ []) : schema' ≠ [] := by
  rintro rfl
  exact hne (List.map_eq_nil_iff.mp h.attributes_perm.eq_nil)

/-- That no two fields share a name has nothing to do with their order. -/
theorem distinct (h : schema.Reordered schema') (hdistinct : schema.Distinct) :
    schema'.Distinct := by
  have hattributes : ∀ fields : Schema, fields.Distinct ↔
      (fields.map Field.attributes).Pairwise fun a b => ∀ name ∈ b.names, name ∉ a.names := by
    intro fields
    rw [List.pairwise_map]
    exact Iff.rfl
  rw [hattributes] at hdistinct ⊢
  have hsymm : ∀ {a b : Attributes}, (∀ name ∈ b.names, name ∉ a.names) →
      ∀ name ∈ a.names, name ∉ b.names :=
    fun hab name ha hb => hab name hb ha
  exact (h.attributes_perm.pairwise_iff hsymm).mp hdistinct

theorem check_fields (h : schema.Reordered schema') {path : Path}
    (hcheck : ∀ f ∈ schema, Field.check settings path [] f = .ok ()) :
    ∀ f ∈ schema', Field.check settings path [] f = .ok () := by
  induction h generalizing path with
  | nil => exact hcheck
  | leaf _ ih =>
      obtain ⟨hleaf, hrest⟩ := List.forall_mem_cons.mp hcheck
      exact List.forall_mem_cons.mpr ⟨hleaf, ih hrest⟩
  | group hfields _ ihfields ih =>
      obtain ⟨hgroup, hrest⟩ := List.forall_mem_cons.mp hcheck
      obtain ⟨⟨hattributes, htaken, hfits⟩, hinner⟩ := Field.check_group_eq_ok.mp hgroup
      obtain ⟨-, hdistinct, hchecks⟩ := Field.checkAll_eq_ok.mp hinner
      refine List.forall_mem_cons.mpr ⟨Field.check_group_eq_ok.mpr ⟨⟨hattributes, htaken, ?_⟩, ?_⟩,
        ih hrest⟩
      · exact ⟨hfits.rules, hfits.source, hfits.type, hfields.ne_nil hfits.fields⟩
      · exact Field.checkAll_eq_ok.mpr ⟨by simp, hfields.distinct hdistinct, ihfields hchecks⟩
  | swap f g rest =>
      obtain ⟨hf, hothers⟩ := List.forall_mem_cons.mp hcheck
      obtain ⟨hg, hrest⟩ := List.forall_mem_cons.mp hothers
      exact List.forall_mem_cons.mpr ⟨hg, List.forall_mem_cons.mpr ⟨hf, hrest⟩⟩
  | trans _ _ ih ih' => exact ih' (ih hcheck)

/-- A schema is accepted in any order of its fields. -/
theorem check_eq_ok (h : schema.Reordered schema') (hcheck : schema.check settings = .ok ()) :
    schema'.check settings = .ok () := by
  obtain ⟨-, hdistinct, hchecks⟩ := Field.checkAll_eq_ok.mp hcheck
  exact Field.checkAll_eq_ok.mpr ⟨by simp, h.distinct hdistinct, h.check_fields hchecks⟩

theorem wellFormed (h : schema.Reordered schema') (hschema : schema.WellFormed settings) :
    schema'.WellFormed settings :=
  wellFormed_of_check (h.check_eq_ok ((Field.checkAll_eq_ok_iff_wellFormed schema).mpr hschema))

end Schema.Reordered

section

variable {settings : Settings} {schema schema' : Schema}

/-- Two neighbours in a well-formed schema have different keys. -/
theorem Schema.WellFormed.key_ne {f g : Field} {rest : Schema}
    (h : Schema.WellFormed settings (f :: g :: rest)) : f.key ≠ g.key := by
  have hkeys := h.nodup_keys
  simp only [List.map_cons, List.nodup_cons, List.mem_cons, not_or] at hkeys
  exact hkeys.1.1

/-! ## Picking -/

/-- What is picked for two fields with different keys may be put in in either order. -/
theorem Dict.insertAll_toList_comm (picked : Dict Json) {key key' : String} (hne : key ≠ key')
    (value value' : Option Json) :
    (picked.insertAll (value.map (key, ·)).toList).insertAll (value'.map (key', ·)).toList =
      (picked.insertAll (value'.map (key', ·)).toList).insertAll (value.map (key, ·)).toList := by
  cases value with
  | none => rfl
  | some v =>
      cases value' with
      | none => rfl
      | some v' => exact picked.insert_comm hne v v'

/-- A group picks the same value, if any, when its objects are picked so. -/
theorem Field.toOption_pickFrom_group
    (hinner : ∀ place entries, (Field.pickAll settings place entries ∅ schema').toOption =
      (Field.pickAll settings place entries ∅ schema).toOption)
    (a : Attributes) (path : Path) (found : Option Json) :
    (Field.pickFrom settings path (.group a schema') found).toOption =
      (Field.pickFrom settings path (.group a schema) found).toOption := by
  cases found with
  | none => rw [Field.pickFrom_none, Field.pickFrom_none, Field.attributes, Field.attributes]
  | some value =>
      have hobjects : ∀ place entries,
          ((Field.pickAll settings place entries ∅ schema').map Dict.entries).toOption =
            ((Field.pickAll settings place entries ∅ schema).map Dict.entries).toOption := by
        intro place entries
        rw [Outcome.toOption_map, Outcome.toOption_map, hinner]
      rw [Field.pickFrom_group, Field.pickFrom_group, Outcome.toOption_bind, Outcome.toOption_bind,
        Json.toOption_mapObjectsM hobjects]

namespace Schema.Reordered

/-- The same is picked one by one, if anything is. -/
theorem toOption_pickEach (h : schema.Reordered schema') (hschema : schema.WellFormed settings)
    (place : String → Path) (find? : Attributes → Option Json) (picked : Dict Json) :
    ((pickEach (fun f => f.pickFrom settings (place f.name) (find? f.attributes)) schema').map
        picked.insertAll).toOption =
      ((pickEach (fun f => f.pickFrom settings (place f.name) (find? f.attributes)) schema).map
        picked.insertAll).toOption := by
  -- The induction is on the reordering.  Groups need it for the objects that they enter, where
  -- values are found in another way, and the rest of a schema for what its first field put in.
  induction h generalizing place find? picked with
  | nil => rfl
  | leaf _ ih =>
      rw [map_insertAll_pickEach_cons, map_insertAll_pickEach_cons, Outcome.toOption_bind,
        Outcome.toOption_bind]
      congr 1
      funext value
      exact ih hschema.tail place find? _
  | @group a fields fields' _ _ hfields _ ihfields ih =>
      have hinner : ∀ path entries, (Field.pickAll settings path entries ∅ fields').toOption =
          (Field.pickAll settings path entries ∅ fields).toOption := by
        intro path entries
        rw [Field.pickAll_eq_pickEach, Field.pickAll_eq_pickEach]
        exact ihfields (hschema.nested List.mem_cons_self) path.child
          (fun a => entries.get? a.name) ∅
      rw [map_insertAll_pickEach_cons, map_insertAll_pickEach_cons, Outcome.toOption_bind,
        Outcome.toOption_bind]
      have hgroup := Field.toOption_pickFrom_group hinner a (place a.name) (find? a)
      exact congrArg₂ Option.bind hgroup
        (funext fun value => ih hschema.tail place find? _)
  | swap f g rest =>
      -- Which of the two fails first is forgotten with the error.
      simp only [map_insertAll_pickEach_cons, Outcome.toOption_bind]
      rw [Option.bind_comm]
      congr 1
      funext value
      congr 1
      funext value'
      rw [picked.insertAll_toList_comm hschema.key_ne]
  | trans h _ ih ih' =>
      rw [ih' (h.wellFormed hschema) place find? picked, ih hschema place find? picked]

/-- The same is picked out of a request, if anything is. -/
theorem toOption_pick (h : schema.Reordered schema') (hschema : schema.WellFormed settings)
    (r : Request) : (pick settings schema' r).toOption = (pick settings schema r).toOption := by
  rw [pick_eq_bind, pick_eq_bind, Outcome.toOption_bind, Outcome.toOption_bind]
  congr 1
  funext body
  rw [pickFields_eq_pickEach, pickFields_eq_pickEach]
  exact h.toOption_pickEach hschema (fun name => [.name name]) (r.find body) ∅

/-! ## Validation -/

/-- The same objects are accepted. -/
theorem validateAll_eq_ok_iff (h : schema.Reordered schema') {depth : Nat} {path : Path}
    {entries : Entries Json} :
    Field.validateAll settings depth path entries schema' = .ok () ↔
      Field.validateAll settings depth path entries schema = .ok () := by
  induction h generalizing depth path entries with
  | nil => exact Iff.rfl
  | leaf _ ih =>
      rw [validateAll_cons, validateAll_cons, Outcome.test_bind_eq_ok, Outcome.test_bind_eq_ok, ih]
  | @group a fields fields' _ _ _ _ ihfields ih =>
      have hgroup : Field.validateFound settings depth (path.child a.name) (.group a fields')
            (entries.get? a.key) = .ok () ↔
          Field.validateFound settings depth (path.child a.name) (.group a fields)
            (entries.get? a.key) = .ok () := by
        cases entries.get? a.key with
        | none => exact Iff.rfl
        | some value =>
            simp only [Field.validateFound, Field.validate]
            apply validateObjects_eq_ok_congr
            intro place object
            simp only [enter]
            split
            · exact Iff.rfl
            · exact ihfields
      rw [validateAll_cons, validateAll_cons, Outcome.test_bind_eq_ok, Outcome.test_bind_eq_ok, ih]
      exact and_congr_left' hgroup
  | swap f g rest =>
      simp only [validateAll_cons, Outcome.test_bind_eq_ok]
      exact and_left_comm
  | trans _ _ ih ih' => rw [ih', ih]

/-- The same picked values are accepted. -/
theorem validate_eq_ok_iff (h : schema.Reordered schema') (picked : Entries Json) :
    validate settings schema' picked = .ok () ↔ validate settings schema picked = .ok () := by
  simp only [validate, enter]
  split
  · exact Iff.rfl
  · exact h.validateAll_eq_ok_iff

/-! ## Coercion -/

/-- Objects are moved alike. -/
theorem coerceAll_eq (h : schema.Reordered schema') (hschema : schema.WellFormed settings)
    (entries : Entries Json) :
    Field.coerceAll entries schema' = Field.coerceAll entries schema := by
  induction h generalizing entries with
  | nil => rfl
  | leaf _ ih => rw [Field.coerceAll, Field.coerceAll, ih hschema.tail]
  | @group a fields fields' _ _ _ _ ihfields ih =>
      have hgroup : Field.coerce (.group a fields') = Field.coerce (.group a fields) := by
        funext value
        simp only [Field.coerce, ihfields (hschema.nested List.mem_cons_self)]
      rw [Field.coerceAll, Field.coerceAll, ih hschema.tail, hgroup]
      rfl
  | swap f g rest =>
      simp only [Field.coerceAll]
      rw [Entries.adjust_comm entries hschema.key_ne]
  | trans h _ ih ih' => rw [ih' (h.wellFormed hschema), ih hschema]

theorem decode_eq (h : schema.Reordered schema') (hschema : schema.WellFormed settings)
    {α : Type} (destination : Destination α) (picked : Entries Json) :
    decode schema' destination picked = decode schema destination picked := by
  rw [decode, decode, coerceObject, coerceObject, h.coerceAll_eq hschema]

end Schema.Reordered

end

/-! ## Handlers -/

/-- The errors are of one kind. -/
inductive ApiError.SameKind : ApiError → ApiError → Prop
  /-- Both may be about a filter, an order or an update. -/
  | badRequest (message message' : String) : SameKind (.badRequest message) (.badRequest message')
  /-- Both may be about values that violate a schema. -/
  | validationFailed (errors errors' : List String) :
    SameKind (.validationFailed errors) (.validationFailed errors')
  /-- Both may be about data that cannot be read. -/
  | invalidInput (details details' : String) :
    SameKind (.invalidInput details) (.invalidInput details')
  /-- Both may be faults of the program. -/
  | internal (message message' : String) (details details' : Option String) :
    SameKind (.internal message details) (.internal message' details')

/-- The results are one value, or failures that become errors of one kind. -/
inductive Handler.SameResult {α : Type} : Except Failure α → Except Failure α → Prop
  /-- Both may be the same value. -/
  | value (v : α) : SameResult (.ok v) (.ok v)
  /-- Both may be failures. -/
  | failure {e e' : Failure} (h : e.toApiError.SameKind e'.toApiError) :
    SameResult (.error e) (.error e')

theorem Handler.SameResult.of_decode {α : Type} (result : Except DecodeError α) :
    SameResult (result.mapError .decode) (result.mapError .decode) := by
  cases result with
  | ok value => exact .value value
  | error e => exact .failure (.invalidInput _ _)

namespace Schema

/-- Two schemas that differ in the order of fields, at any level, are both accepted or both refused,
and if they are accepted their handlers give the same value for a request, or errors of the same
kind. -/
theorem order_irrelevant {schema schema' : Schema} (h : schema.Reordered schema')
    (settings : Settings) :
    (schema.check settings = .ok () ↔ schema'.check settings = .ok ()) ∧
      ∀ {α : Type} (destination : Destination α) (hcheck : schema.check settings = .ok ())
        (hcheck' : schema'.check settings = .ok ()) (r : Request),
        Handler.SameResult (Handler.handle ⟨schema, settings, destination, hcheck⟩ r)
          (Handler.handle ⟨schema', settings, destination, hcheck'⟩ r) := by
  refine ⟨⟨h.check_eq_ok, h.symm.check_eq_ok⟩, ?_⟩
  intro α destination hcheck hcheck' r
  have hschema := wellFormed_of_check hcheck
  -- Stage by stage: a failure of one handler is a failure of the other one at the same stage.
  rcases Outcome.eq_or_errors_of_toOption_eq (h.toOption_pick hschema r) with
    ⟨picked, hpick', hpick⟩ | ⟨e', e, hpick', hpick⟩
  · have hvalidate : validate settings schema' picked.entries = .ok () ↔
        validate settings schema picked.entries = .ok () := h.validate_eq_ok_iff picked.entries
    cases hvalid : validate settings schema picked.entries with
    | ok =>
        rw [Handler.handle_of_valid hpick hvalid,
          Handler.handle_of_valid hpick' (hvalidate.mpr hvalid), h.decode_eq hschema]
        exact .of_decode (decode schema destination picked.entries)
    | error v =>
        cases hvalid' : validate settings schema' picked.entries with
        | ok =>
            rw [hvalidate.mp hvalid'] at hvalid
            cases hvalid
        | error v' =>
            rw [Handler.handle_of_violation hpick hvalid,
              Handler.handle_of_violation hpick' hvalid']
            exact .failure (.validationFailed _ _)
  · rw [Handler.handle_of_unreadable hpick, Handler.handle_of_unreadable hpick']
    exact .failure (.invalidInput _ _)

/-- The fields of a guest. -/
def guest : Schema :=
  [.leaf { name := "mail", conversion? := some "lowercase" },
    .leaf { name := "name", alias? := some "full_name", required := true, rules := ["not_blank"] }]

/-- A handler for the booking of a room. -/
def booking : Handler Json where
  schema := [.leaf { name := "room", rules := ["not_blank"] }, .group { name := "guest" } guest]
  settings := .standard
  destination := .any
  check_eq := by decide

/-- The same handler with the fields the other way round, those of the guest as well. -/
def bookingReversed : Handler Json where
  schema :=
    [.group { name := "guest" } guest.reverse, .leaf { name := "room", rules := ["not_blank"] }]
  settings := .standard
  destination := .any
  check_eq := by decide

/-- A booking with two blank texts. -/
def blankBooking : Request where
  body := some (.object [("guest", .object [("name", .string " ")]), ("room", .string "")])

theorem booking_order_irrelevant :
    booking.schema.Reordered bookingReversed.schema ∧
      booking.handle blankBooking =
        .error (.violation ⟨[.name "room"], .refused "not_blank" .blank⟩) ∧
      bookingReversed.handle blankBooking =
        .error (.violation ⟨[.name "guest", .name "name"], .refused "not_blank" .blank⟩) ∧
      Handler.SameResult (booking.handle blankBooking) (bookingReversed.handle blankBooking) := by
  have hguest : guest.Reordered guest.reverse := .of_perm (List.reverse_perm guest).symm
  have horder : booking.schema.Reordered bookingReversed.schema :=
    .trans (.leaf (.group hguest .nil)) (.swap _ _ _)
  obtain ⟨-, hresult⟩ := order_irrelevant horder .standard
  exact ⟨horder, rfl, rfl, hresult .any booking.check_eq bookingReversed.check_eq blankBooking⟩

end Schema

end Intake
