import Intake.Handler
import Intake.Proofs.Cleaning
import Intake.Proofs.Pick
import Intake.Proofs.Schema

/-!
# Undeclared data

What a schema does not declare has no influence on a handler.  Data may be left out of a request
wherever no field looks for it: pairs under names that no field reads from that part of the request,
and, in the body and the objects of its groups, entries under names that no field of that level has.

Main results:

- {lit}`Schema.Pruned` says that entries are other entries without some that are not declared, and
  {lit}`Request.Pruned` says so of requests.
- Theorem {lit}`Request.Pruned.cleanBody`: that is kept by cleaning, which succeeds on what remains
  of a body if it does on all of it.
- Theorem {lit}`Schema.Pruned.pickAll_eq`: nothing else is picked from the remaining entries.
- Theorem {lit}`Handler.handle_of_pruned`: a handler gives the same result without the data.
-/

namespace Intake

/-! ## Leaving data out -/

/-- The second list is the first one without some of the elements that may be left out. -/
inductive LeavesOut {α : Type} (free : α → Prop) : List α → List α → Prop
  /-- Nothing is left out of nothing. -/
  | nil : LeavesOut free [] []
  /-- An element may be left out. -/
  | out {x : α} {xs ys : List α} (hfree : free x) (hrest : LeavesOut free xs ys) :
    LeavesOut free (x :: xs) ys
  /-- Any element may stay. -/
  | keep {x : α} {xs ys : List α} (hrest : LeavesOut free xs ys) :
    LeavesOut free (x :: xs) (x :: ys)

theorem LeavesOut.filter_eq {α : Type} {free : α → Prop} {xs ys : List α} {p : α → Bool}
    (h : LeavesOut free xs ys) (hp : ∀ x, p x = true → ¬ free x) : ys.filter p = xs.filter p := by
  induction h with
  | nil => rfl
  | @out x xs ys hfree hrest ih =>
      have hx : ¬ p x = true := fun hx => hp x hx hfree
      rw [ih, List.filter_cons_of_neg hx]
  | keep hrest ih => rw [List.filter_cons, List.filter_cons, ih]

/-- No field reads the name of the pair from the source. -/
def Schema.Unread (schema : Schema) (source : Source) (pair : String × String) : Prop :=
  ∀ f ∈ schema, f.attributes.source = source → f.name ≠ pair.1

/-- No field reads the name of the pair from the headers, in any letter case. -/
def Schema.UnreadHeader (schema : Schema) (pair : String × String) : Prop :=
  ∀ f ∈ schema, f.attributes.source = .header →
    Text.asciiLower f.name ≠ Text.asciiLower pair.1

instance (schema : Schema) (source : Source) (pair : String × String) :
    Decidable (schema.Unread source pair) :=
  inferInstanceAs (Decidable (∀ f ∈ schema, _ → _))

instance (schema : Schema) (pair : String × String) : Decidable (schema.UnreadHeader pair) :=
  inferInstanceAs (Decidable (∀ f ∈ schema, _ → _))

mutual

/-- The second entries are the first ones without some that the schema does not declare, at the
level of the schema and inside the values of its groups. -/
inductive Schema.Pruned : Schema → List (String × Json) → List (String × Json) → Prop
  /-- Nothing is left out of nothing. -/
  | nil {schema : Schema} : Schema.Pruned schema [] []
  /-- An entry may be left out when no field has its key for a name. -/
  | out {schema : Schema} {key : String} {value : Json} {rest rest' : List (String × Json)}
    (hkey : ∀ f ∈ schema, f.name ≠ key) (hrest : Schema.Pruned schema rest rest') :
    Schema.Pruned schema ((key, value) :: rest) rest'
  /-- Any entry may stay as it is. -/
  | keep {schema : Schema} {entry : String × Json} {rest rest' : List (String × Json)}
    (hrest : Schema.Pruned schema rest rest') :
    Schema.Pruned schema (entry :: rest) (entry :: rest')
  /-- Data may be left out of the value of a group. -/
  | group {schema : Schema} {a : Attributes} {fields : Schema} {value value' : Json}
    {rest rest' : List (String × Json)} (hf : Field.group a fields ∈ schema)
    (hvalue : Schema.PrunedValue fields value value')
    (hrest : Schema.Pruned schema rest rest') :
    Schema.Pruned schema ((a.name, value) :: rest) ((a.name, value') :: rest')

/-- Data is left out of the objects of the value of a group with the schema. -/
inductive Schema.PrunedValue : Schema → Json → Json → Prop
  /-- The value may be an object. -/
  | object {schema : Schema} {entries entries' : List (String × Json)}
    (hentries : Schema.Pruned schema entries entries') :
    Schema.PrunedValue schema (.object entries) (.object entries')
  /-- The value may be an array with objects. -/
  | array {schema : Schema} {items items' : List Json}
    (hitems : Schema.PrunedItems schema items items') :
    Schema.PrunedValue schema (.array items) (.array items')

/-- Data is left out of the objects among the items of an array. -/
inductive Schema.PrunedItems : Schema → List Json → List Json → Prop
  /-- There may be no items. -/
  | nil {schema : Schema} : Schema.PrunedItems schema [] []
  /-- Any item may stay as it is. -/
  | keep {schema : Schema} {item : Json} {rest rest' : List Json}
    (hrest : Schema.PrunedItems schema rest rest') :
    Schema.PrunedItems schema (item :: rest) (item :: rest')
  /-- Data may be left out of an item that is an object. -/
  | object {schema : Schema} {entries entries' : List (String × Json)} {rest rest' : List Json}
    (hentries : Schema.Pruned schema entries entries')
    (hrest : Schema.PrunedItems schema rest rest') :
    Schema.PrunedItems schema (.object entries :: rest) (.object entries' :: rest')

end

/-- The second body is the first one without some entries that the schema does not declare. -/
inductive Schema.PrunedBody (schema : Schema) : Option Json → Option Json → Prop
  /-- A body may stay as it is, and one that is no object has to. -/
  | same (body : Option Json) : Schema.PrunedBody schema body body
  /-- Entries may be left out of an object. -/
  | object {entries entries' : List (String × Json)} (hentries : schema.Pruned entries entries') :
    Schema.PrunedBody schema (some (.object entries)) (some (.object entries'))

/-- The second request is the first one without some data that the schema does not declare. -/
structure Request.Pruned (schema : Schema) (r r' : Request) : Prop where
  /-- A parameter of the path may be left out when no field reads its name from the address. -/
  path : LeavesOut (schema.Unread .url) r.path r'.path
  /-- So may a pair of the query string. -/
  query : LeavesOut (schema.Unread .url) r.query r'.query
  /-- A header may be left out when no field reads its name. -/
  headers : LeavesOut schema.UnreadHeader r.headers r'.headers
  /-- So may a cookie. -/
  cookies : LeavesOut (schema.Unread .cookie) r.cookies r'.cookies
  /-- Entries may be left out of the body. -/
  body : schema.PrunedBody r.body r'.body

section

variable {schema : Schema} {f : Field} (hf : f ∈ schema)
include hf

theorem valuesOf_of_leavesOut {pairs pairs' : Pairs}
    (h : LeavesOut (schema.Unread f.attributes.source) pairs pairs') :
    valuesOf pairs' f.attributes.name = valuesOf pairs f.attributes.name := by
  rw [valuesOf, valuesOf, h.filter_eq]
  intro pair hpair hfree
  exact hfree f hf rfl (eq_of_beq hpair).symm

theorem headerValuesOf_of_leavesOut (hsource : f.attributes.source = .header)
    {pairs pairs' : Pairs} (h : LeavesOut schema.UnreadHeader pairs pairs') :
    headerValuesOf pairs' f.attributes.name = headerValuesOf pairs f.attributes.name := by
  rw [headerValuesOf, headerValuesOf, h.filter_eq]
  intro pair hpair hfree
  exact hfree f hf hsource (eq_of_beq hpair).symm

end

/-! ## Cleaning -/

namespace Schema

theorem Pruned.refl {schema : Schema} (entries : List (String × Json)) :
    schema.Pruned entries entries := by
  induction entries with
  | nil => exact .nil
  | cons entry rest ih => exact .keep ih

section

variable {maxKeyLength : Nat}

mutual

theorem PrunedValue.strip {schema : Schema} (value : Json) {value' : Json}
    (h : schema.PrunedValue value value') :
    schema.PrunedValue (value.strip maxKeyLength) (value'.strip maxKeyLength) := by
  match value with
  | .object entries =>
      cases h with
      | object hentries => exact .object (hentries.strip entries)
  | .array items =>
      cases h with
      | array hitems => exact .array (hitems.strip items)
  | .null | .bool _ | .number _ | .string _ => cases h
termination_by structural value

theorem PrunedItems.strip {schema : Schema} (items : List Json) {items' : List Json}
    (h : schema.PrunedItems items items') :
    schema.PrunedItems (Json.stripItems maxKeyLength items)
      (Json.stripItems maxKeyLength items') := by
  match items with
  | [] =>
      cases h
      exact .nil
  | item :: rest =>
      match item, h with
      | _, .keep hrest => exact .keep (hrest.strip rest)
      | .object entries, .object hentries hrest =>
          exact .object (hentries.strip entries) (hrest.strip rest)
termination_by structural items

/-- What remains of some entries remains of them without their malformed keys. -/
theorem Pruned.strip {schema : Schema} (entries : List (String × Json))
    {entries' : List (String × Json)} (h : schema.Pruned entries entries') :
    schema.Pruned (Json.stripEntries maxKeyLength entries)
      (Json.stripEntries maxKeyLength entries') := by
  match entries with
  | [] =>
      cases h
      exact .nil
  | (key, value) :: rest =>
      by_cases hvalid : isValidKey maxKeyLength key = true
      · cases h with
        | out hkey hrest =>
            simp only [Json.stripEntries, hvalid, if_true]
            exact .out hkey (hrest.strip rest)
        | keep hrest =>
            simp only [Json.stripEntries, hvalid, if_true]
            exact .keep (hrest.strip rest)
        | group hf hvalue hrest =>
            simp only [Json.stripEntries, hvalid, if_true]
            exact .group hf (hvalue.strip value) (hrest.strip rest)
      · cases h with
        | out hkey hrest =>
            simp only [Json.stripEntries, hvalid, Bool.false_eq_true, if_false]
            exact hrest.strip rest
        | keep hrest =>
            simp only [Json.stripEntries, hvalid, Bool.false_eq_true, if_false]
            exact hrest.strip rest
        | group hf hvalue hrest =>
            simp only [Json.stripEntries, hvalid, Bool.false_eq_true, if_false]
            exact hrest.strip rest
termination_by structural entries

end

end

mutual

theorem PrunedValue.levels_le {schema : Schema} (value : Json) {value' : Json}
    (h : schema.PrunedValue value value') : value'.levels ≤ value.levels := by
  match value with
  | .object entries =>
      cases h with
      | object hentries =>
          have hlevels := hentries.levels_le entries
          simp only [Json.levels]
          omega
  | .array items =>
      cases h with
      | array hitems =>
          have hlevels := hitems.levels_le items
          simp only [Json.levels]
          omega
  | .null | .bool _ | .number _ | .string _ => cases h
termination_by structural value

theorem PrunedItems.levels_le {schema : Schema} (items : List Json) {items' : List Json}
    (h : schema.PrunedItems items items') : Json.levelsItems items' ≤ Json.levelsItems items := by
  match items with
  | [] =>
      cases h
      exact Nat.le_refl _
  | item :: rest =>
      match item, h with
      | _, .keep hrest =>
          have hlevels := hrest.levels_le rest
          simp only [Json.levelsItems]
          omega
      | .object entries, .object hentries hrest =>
          have hitem := hentries.levels_le entries
          have hlevels := hrest.levels_le rest
          simp only [Json.levelsItems, Json.levels]
          omega
termination_by structural items

/-- What remains of some entries has no more levels. -/
theorem Pruned.levels_le {schema : Schema} (entries : List (String × Json))
    {entries' : List (String × Json)} (h : schema.Pruned entries entries') :
    Json.levelsEntries entries' ≤ Json.levelsEntries entries := by
  match entries with
  | [] =>
      cases h
      exact Nat.le_refl _
  | (key, value) :: rest =>
      cases h with
      | out hkey hrest =>
          have hlevels := hrest.levels_le rest
          simp only [Json.levelsEntries]
          omega
      | keep hrest =>
          have hlevels := hrest.levels_le rest
          simp only [Json.levelsEntries]
          omega
      | group hf hvalue hrest =>
          have hinner := hvalue.levels_le value
          have hlevels := hrest.levels_le rest
          simp only [Json.levelsEntries]
          omega
termination_by structural entries

end

/-! ## Picking -/

/-- What a field finds among the remaining data: the same as before, or, if it is a group, what
remains of the value that it found. -/
inductive FoundPruned : Field → Option Json → Option Json → Prop
  /-- Any field may find the same. -/
  | same (f : Field) (found : Option Json) : FoundPruned f found found
  /-- A group may find what remains of a value. -/
  | group {a : Attributes} {fields : Schema} {value value' : Json}
    (hvalue : PrunedValue fields value value') :
    FoundPruned (.group a fields) (some value) (some value')

variable {settings : Settings} {schema : Schema}

/-- A field finds its value among the remaining entries, since its name is declared. -/
theorem Pruned.get? (hschema : schema.WellFormed settings) {entries entries' : Entries Json}
    (h : schema.Pruned entries entries') {f : Field} (hf : f ∈ schema) :
    FoundPruned f (entries.get? f.name) (entries'.get? f.name) := by
  induction entries generalizing entries' with
  | nil =>
      cases h
      exact .same f none
  | cons entry rest ih =>
      cases h with
      | @out _ key value _ _ hkey hrest =>
          have hne : key ≠ f.name := fun heq => hkey f hf heq.symm
          rw [Entries.get?, if_neg hne]
          exact ih hrest
      | @keep _ entry _ rest' hrest =>
          obtain ⟨key, value⟩ := entry
          by_cases heq : key = f.name
          · rw [Entries.get?, Entries.get?, if_pos heq, if_pos heq]
            exact .same f (some value)
          · rw [Entries.get?, Entries.get?, if_neg heq, if_neg heq]
            exact ih hrest
      | @group _ a fields value value' _ rest' hgroup hvalue hrest =>
          by_cases heq : a.name = f.name
          · -- The name belongs to one field alone, which is the group.
            have hfield : f = .group a fields := hschema.eq_of_name_eq hf hgroup heq.symm
            rw [Entries.get?, Entries.get?, if_pos heq, if_pos heq, hfield]
            exact .group hvalue
          · rw [Entries.get?, Entries.get?, if_neg heq, if_neg heq]
            exact ih hrest

theorem PrunedItems.mapItemsM_eq {step : Json.ObjectStep RequestError}
    (hstep : ∀ place entries entries', schema.Pruned entries entries' →
      step place entries' = step place entries)
    {path : Path} {n : Nat} {items items' : List Json} (h : schema.PrunedItems items items') :
    Json.mapItemsM step path n items' = Json.mapItemsM step path n items := by
  induction items generalizing items' n with
  | nil =>
      cases h
      rfl
  | cons item rest ih =>
      cases h with
      | keep hrest => rw [Json.mapItemsM, Json.mapItemsM, ih hrest]
      | object hentries hrest =>
          rw [Json.mapItemsM, Json.mapItemsM, Json.mapObjectM, Json.mapObjectM,
            hstep _ _ _ hentries, ih hrest]

/-- A function that gives the same for what remains of an object does so for the value of a
group. -/
theorem PrunedValue.mapObjectsM_eq {step : Json.ObjectStep RequestError}
    (hstep : ∀ place entries entries', schema.Pruned entries entries' →
      step place entries' = step place entries)
    {path : Path} {value value' : Json} (h : schema.PrunedValue value value') :
    Json.mapObjectsM step path value' = Json.mapObjectsM step path value := by
  cases h with
  | object hentries =>
      rw [Json.mapObjectsM, Json.mapObjectM, hstep _ _ _ hentries, Json.mapObjectsM,
        Json.mapObjectM]
      · rintro items ⟨⟩
      · rintro items ⟨⟩
  | array hitems => rw [Json.mapObjectsM, Json.mapObjectsM, hitems.mapItemsM_eq hstep]

/-- A field picks the same from the remaining data when the groups below it do. -/
theorem FoundPruned.pickFrom_eq {f : Field} {found found' : Option Json}
    (h : FoundPruned f found found')
    (hinner : ∀ a fields, f = .group a fields → ∀ path entries entries',
      Schema.Pruned fields entries entries' →
      Field.pickAll settings path entries' ∅ fields =
        Field.pickAll settings path entries ∅ fields)
    (path : Path) : f.pickFrom settings path found' = f.pickFrom settings path found := by
  cases h with
  | same => rfl
  | @group a fields value value' hvalue =>
      have hobjects : Json.mapObjectsM _ path value' = Json.mapObjectsM _ path value :=
        hvalue.mapObjectsM_eq fun place entries entries' hentries =>
          congrArg (Except.map Dict.entries) (hinner a fields rfl place entries entries' hentries)
      rw [Field.pickFrom_group, Field.pickFrom_group, hobjects]

/-- Nothing else is picked from the entries that remain. -/
theorem Pruned.pickAll_eq (hschema : schema.WellFormed settings) {entries entries' : Entries Json}
    (h : schema.Pruned entries entries') (path : Path) :
    Field.pickAll settings path entries' ∅ schema =
      Field.pickAll settings path entries ∅ schema := by
  induction schema using Schema.induction generalizing entries entries' path with
  | level schema ih =>
      refine Field.pickAll_congr ∅ ?_
      intro f hf
      refine (h.get? hschema hf).pickFrom_eq ?_ _
      rintro a fields rfl path entries entries' hentries
      exact ih a fields hf (hschema.nested hf) hentries path

end Schema

/-! ## Requests -/

namespace Request.Pruned

variable {settings : Settings} {schema : Schema} {r r' : Request}

/-- What remains of a body comes out of cleaning, or the same error does, unless the body is nested
too deep. -/
theorem cleanBody (h : Request.Pruned schema r r') {limits : Limits}
    (hdepth : ∀ limit, Intake.cleanBody limits r ≠ .error (.tooDeep limit)) :
    (∃ e, Intake.cleanBody limits r = .error e ∧ Intake.cleanBody limits r' = .error e) ∨
      ∃ body body', Intake.cleanBody limits r = .ok body ∧
        Intake.cleanBody limits r' = .ok body' ∧ Option.Rel schema.Pruned body body' := by
  have hbody := h.body
  unfold Intake.cleanBody at hdepth ⊢
  generalize r.body = body at hbody hdepth ⊢
  generalize r'.body = body' at hbody ⊢
  cases hbody with
  | same body =>
      match body with
      | none => exact .inr ⟨none, none, rfl, rfl, .none⟩
      | some (.object entries) =>
          simp only
          cases Json.cleanObject limits 1 entries with
          | error e => exact .inl ⟨e, rfl, rfl⟩
          | ok cleaned =>
              exact .inr ⟨some cleaned, some cleaned, rfl, rfl, .some (Schema.Pruned.refl cleaned)⟩
      | some .null | some (.bool _) | some (.number _) | some (.string _) | some (.array _) =>
          exact .inl ⟨.bodyNotObject, rfl, rfl⟩
  | @object entries entries' hentries =>
      have hstrip : schema.Pruned (Json.stripEntries limits.maxKeyLength entries)
          (Json.stripEntries limits.maxKeyLength entries') := hentries.strip entries
      have hlevels := hstrip.levels_le
      simp only [Json.cleanObject_eq, Json.strip, Json.levels, Limits.within] at hdepth ⊢
      by_cases hlimit : 1 + (Json.levelsEntries
          (Json.stripEntries limits.maxKeyLength entries) + 1) ≤ limits.maxDepth + 1
      · have hlimit' : 1 + (Json.levelsEntries
            (Json.stripEntries limits.maxKeyLength entries') + 1) ≤ limits.maxDepth + 1 := by
          omega
        rw [if_pos hlimit, if_pos hlimit']
        exact .inr ⟨_, _, rfl, rfl, .some hstrip⟩
      · rw [if_neg hlimit] at hdepth
        exact absurd rfl (hdepth limits.maxDepth)

/-- A field finds what it found before, or what remains of it. -/
theorem find (h : Request.Pruned schema r r') (hschema : schema.WellFormed settings)
    {body body' : Option (Entries Json)} (hbody : Option.Rel schema.Pruned body body') {f : Field}
    (hf : f ∈ schema) :
    Schema.FoundPruned f (r.find body f.attributes) (r'.find body' f.attributes) := by
  unfold Request.find
  split
  · cases hbody with
    | none => exact .same f none
    | some hentries => exact hentries.get? hschema hf
  · next hsource =>
    have hpath := h.path
    have hquery := h.query
    rw [← hsource] at hpath hquery
    rw [valuesOf_of_leavesOut hf hpath, valuesOf_of_leavesOut hf hquery]
    exact .same f _
  · next hsource =>
    rw [headerValuesOf_of_leavesOut hf hsource h.headers]
    exact .same f _
  · next hsource =>
    have hcookies := h.cookies
    rw [← hsource] at hcookies
    rw [valuesOf_of_leavesOut hf hcookies]
    exact .same f _

/-- The same is picked from a request without undeclared data, unless the body is nested too
deep. -/
theorem pick_eq (h : Request.Pruned schema r r') (hschema : schema.WellFormed settings)
    (hdepth : ∀ limit, pick settings schema r ≠ .error (.tooDeep limit)) :
    pick settings schema r' = pick settings schema r := by
  rw [pick_eq_bind] at hdepth ⊢
  rw [pick_eq_bind]
  have hclean : ∀ limit, Intake.cleanBody settings.limits r ≠ .error (.tooDeep limit) := by
    intro limit heq
    rw [heq] at hdepth
    exact hdepth limit rfl
  rcases h.cleanBody hclean with ⟨e, hbody, hbody'⟩ | ⟨body, body', hbody, hbody', hpruned⟩
  · rw [hbody, hbody']
    rfl
  · rw [hbody, hbody']
    change pickFields settings r' body' ∅ schema = pickFields settings r body ∅ schema
    refine pickFields_congr ∅ ?_
    intro f hf
    refine (h.find hschema hpruned hf).pickFrom_eq ?_ _
    rintro a fields rfl path entries entries' hentries
    exact hentries.pickAll_eq (hschema.nested hf) path

end Request.Pruned

/-! ## Handlers -/

namespace Handler

/-- Undeclared data has no influence on a handler: as long as the body is not nested too deep, the
handler gives the same result, value or failure, for a request without any part of that data. -/
theorem handle_of_pruned {α : Type} (handler : Handler α) {r r' : Request}
    (h : Request.Pruned handler.schema r r')
    (hdepth : ∀ limit, pick handler.settings handler.schema r ≠ .error (.tooDeep limit)) :
    handler.handle r' = handler.handle r := by
  have hschema := Schema.wellFormed_of_check handler.check_eq
  unfold handle
  rw [h.pick_eq hschema hdepth]

/-- The fields of one line of an order. -/
def orderLine : Schema :=
  [.leaf { name := "sku", required := true }]

/-- A handler for an order of a user, who is known from a cookie, in the shop of a tenant. -/
def order : Handler Json where
  schema :=
    [.leaf { name := "tenant", source := .url },
      .leaf { name := "X-Trace", source := .header },
      .leaf { name := "session", source := .cookie, required := true },
      .group { name := "lines", type := .array } orderLine]
  settings := .standard
  destination := .any
  check_eq := by decide

/-- An order with data that no field declares in all its parts. -/
def orderRequest : Request where
  path := [("tenant", "acme"), ("page", "1")]
  query := [("debug", "1"), ("tenant", "other")]
  headers := [("accept", "text"), ("x-trace", "t1")]
  cookies := [("theme", "dark"), ("session", "s1"), ("tenant", "beta")]
  body := some (.object
    [("admin", .bool true),
      ("lines", .array [.object [("price", .string "0"), ("sku", .string "x1")]])])

/-- The order without that data. -/
def plainOrderRequest : Request where
  path := [("tenant", "acme")]
  query := [("tenant", "other")]
  headers := [("x-trace", "t1")]
  cookies := [("session", "s1")]
  body := some (.object [("lines", .array [.object [("sku", .string "x1")]])])

theorem order_handle_of_pruned :
    Request.Pruned order.schema orderRequest plainOrderRequest ∧
      (∀ limit, pick order.settings order.schema orderRequest ≠ .error (.tooDeep limit)) ∧
      order.handle plainOrderRequest = order.handle orderRequest := by
  have hline : Schema.Pruned orderLine [("price", .string "0"), ("sku", .string "x1")]
      [("sku", .string "x1")] := .out (by decide) (.keep .nil)
  have hlines : Field.group { name := "lines", type := .array } orderLine ∈ order.schema :=
    .tail _ (.tail _ (.tail _ (.head _)))
  have hbody : order.schema.PrunedBody orderRequest.body plainOrderRequest.body :=
    .object (.out (by decide) (.group hlines (.array (.object hline .nil)) .nil))
  have hpruned : Request.Pruned order.schema orderRequest plainOrderRequest :=
    ⟨.keep (.out (by decide) .nil), .out (by decide) (.keep .nil), .out (by decide) (.keep .nil),
      .out (by decide) (.keep (.out (by decide) .nil)), hbody⟩
  have hdepth : ∀ limit,
      pick order.settings order.schema orderRequest ≠ .error (.tooDeep limit) := by
    intro limit h
    cases h
  exact ⟨hpruned, hdepth, order.handle_of_pruned hpruned hdepth⟩

end Handler

end Intake
