import Intake.ApiError
import Intake.Proofs.Condition
import Intake.Proofs.Resolution

/-!
# What refusals disclose

A client that is refused learns which of its own names or tokens is not allowed, and nothing about
the tables and columns behind the allow-list or about the values of other conditions.  This is said
with two runs: where two allow-lists look the same to clients, and two collections differ in their
values alone, the runs are refused alike.

Main results:

- {lit}`FieldMap.LooksLike` compares allow-lists without their tables and columns, and
  {lit}`Selectors.LooksLike` and {lit}`Updates.LooksLike` compare collections without their values.
- {lit}`SeenAlike` says that two runs end with the same error and response, or both succeed with
  related results.
- Theorem {lit}`EndAlike.mapM`: two runs over lists end alike when their steps do.
- Theorem {lit}`FieldMap.refusals_disclose_nothing`: allow-lists that look the same are seen alike,
  and the refusal of a value depends on the field and the predicate of its condition alone.
-/

namespace Intake

/-! ## Alike to clients -/

/-- A client cannot tell the entries apart: both have a column that can be used or none has, and the
same predicates are allowed. -/
structure ColumnEntry.LooksLike (entry entry' : ColumnEntry) : Prop where
  /-- The same predicates are allowed. -/
  predicates : entry.predicates = entry'.predicates
  /-- One has no column when the other has none. -/
  unusable : entry.column = "" ↔ entry'.column = ""

/-- The allow-lists have the same names, and under each of them entries that look the same. -/
def FieldMap.LooksLike (fields fields' : FieldMap) : Prop :=
  ∀ name, Option.Rel ColumnEntry.LooksLike (fields.get? name) (fields'.get? name)

/-- The conditions are under the same fields, with the same texts for their predicates. -/
def Selectors.LooksLike (selectors selectors' : Selectors) : Prop :=
  List.Forall₂ (fun entry entry' => entry.1 = entry'.1 ∧ entry.2.predicate = entry'.2.predicate)
    selectors.entries selectors'.entries

/-- The assignments are to the same fields. -/
def Updates.LooksLike (updates updates' : Updates) : Prop :=
  List.Forall₂ (fun entry entry' => entry.1 = entry'.1) updates.entries updates'.entries

/-- What a client receives when a run is refused. -/
def refusalResponse? {α : Type} : Except ClauseError α → Option Response
  | .ok _ => none
  | .error e => some (ApiError.ofClause e).response

section

variable {α β γ δ : Type}

/-- Two runs end with the same error, or both succeed with related results. -/
inductive EndAlike (R : γ → δ → Prop) : Except ClauseError γ → Except ClauseError δ → Prop
  /-- Both succeed. -/
  | ok {out : γ} {out' : δ} (h : R out out') : EndAlike R (.ok out) (.ok out')
  /-- Both fail. -/
  | error (e : ClauseError) : EndAlike R (.error e) (.error e)

/-- Two runs end alike, with the same response if they are refused. -/
structure SeenAlike (R : γ → δ → Prop) (result : Except ClauseError γ)
    (result' : Except ClauseError δ) : Prop where
  /-- They end with the same error or succeed with related results. -/
  ends : EndAlike R result result'
  /-- A client receives the same response. -/
  response : refusalResponse? result = refusalResponse? result'

/-! ## Runs -/

namespace EndAlike

variable {P : α → β → Prop} {R S : γ → δ → Prop}

theorem mono {x : Except ClauseError γ} {y : Except ClauseError δ} (h : EndAlike R x y)
    (hrel : ∀ a b, R a b → S a b) : EndAlike S x y := by
  cases h with
  | ok h => exact .ok (hrel _ _ h)
  | error e => exact .error e

theorem bind {x : Except ClauseError α} {y : Except ClauseError β} {f : α → Except ClauseError γ}
    {g : β → Except ClauseError δ} (h : EndAlike P x y)
    (hnext : ∀ a b, P a b → EndAlike R (f a) (g b)) : EndAlike R (x >>= f) (y >>= g) := by
  cases h with
  | ok h => exact hnext _ _ h
  | error e => exact .error e

theorem map {x : Except ClauseError α} {y : Except ClauseError β} {f : α → γ} {g : β → δ}
    (h : EndAlike P x y) (hnext : ∀ a b, P a b → R (f a) (g b)) :
    EndAlike R (x.map f) (y.map g) := by
  cases h with
  | ok h => exact .ok (hnext _ _ h)
  | error e => exact .error e

/-- Two runs over lists end alike when their steps do. -/
theorem mapM {f : α → Except ClauseError γ} {g : β → Except ClauseError δ}
    (hstep : ∀ x y, P x y → EndAlike R (f x) (g y)) {xs : List α} {ys : List β}
    (h : List.Forall₂ P xs ys) : EndAlike (List.Forall₂ R) (xs.mapM f) (ys.mapM g) := by
  induction h with
  | nil => exact .ok .nil
  | @cons x y xs ys hxy _ ih =>
      rw [Outcome.mapM_cons, Outcome.mapM_cons]
      exact (hstep x y hxy).bind fun a b hab => ih.map fun as bs hrest => .cons hab hrest

/-- What ends alike is seen alike. -/
theorem seen {x : Except ClauseError γ} {y : Except ClauseError δ} (h : EndAlike R x y) :
    SeenAlike R x y := by
  refine ⟨h, ?_⟩
  cases h <;> rfl

end EndAlike

end

/-! ## Single steps -/

section

variable {fields fields' : FieldMap}

/-- A name can be used in both allow-lists or in none. -/
theorem FieldMap.LooksLike.resolve? (h : fields.LooksLike fields') (name : String) :
    Option.Rel ColumnEntry.LooksLike (fields.resolve? name) (fields'.resolve? name) := by
  have hname := h name
  unfold FieldMap.resolve?
  generalize fields.get? name = found at hname
  generalize fields'.get? name = found' at hname
  cases hname with
  | none => exact .none
  | @some entry entry' hentry =>
      have hcolumn : entry.column.isEmpty = entry'.column.isEmpty := by
        rw [Bool.eq_iff_iff]
        simpa using hentry.unusable
      simp only [Option.filter_some, hcolumn]
      split
      · exact .some hentry
      · exact .none

/-- Two conditions under one name with one text for the predicate are resolved alike. -/
theorem Selectors.resolveOne_alike (h : fields.LooksLike fields') (name : String)
    {selector selector' : Selector} (hpredicate : selector.predicate = selector'.predicate) :
    EndAlike (fun f f' : ColumnFilter => f.field = f'.field ∧ f.predicate = f'.predicate)
      (resolveOne fields name selector) (resolveOne fields' name selector') := by
  have hname := h.resolve? name
  unfold resolveOne
  generalize fields.resolve? name = found at hname
  generalize fields'.resolve? name = found' at hname
  cases hname with
  | none => exact .error _
  | @some entry entry' hentry =>
      have hallowed : allowed? entry selector = allowed? entry' selector' := by
        rw [allowed?, allowed?, hpredicate, hentry.predicates]
      simp only [hallowed, hpredicate]
      cases allowed? entry' selector' with
      | none => exact .error _
      | some p => exact .ok ⟨rfl, rfl⟩

/-- An order is resolved alike. -/
theorem Orders.resolveOne_alike (h : fields.LooksLike fields') (name token : String) :
    EndAlike (fun o o' : ColumnOrder => o.direction = o'.direction)
      (resolveOne fields name token) (resolveOne fields' name token) := by
  have hname := h.resolve? name
  unfold resolveOne
  generalize fields.resolve? name = found at hname
  generalize fields'.resolve? name = found' at hname
  cases hname with
  | none => exact .error _
  | some hentry =>
      cases Direction.parse? token with
      | none => exact .error _
      | some direction => exact .ok rfl

/-- Two assignments to one name are resolved alike. -/
theorem Updates.resolveOne_alike (h : fields.LooksLike fields') (name : String)
    (value value' : Json) :
    EndAlike (fun _ _ => True) (resolveOne fields name value) (resolveOne fields' name value') := by
  have hname := h.resolve? name
  unfold resolveOne
  generalize fields.resolve? name = found at hname
  generalize fields'.resolve? name = found' at hname
  cases hname with
  | none => exact .error _
  | some hentry => exact .ok trivial

end

/-! ## Main result -/

/-- Where two allow-lists look the same to clients, conditions and assignments that differ in their
values alone, and all orders, are refused alike or have results that differ in tables, columns and
values alone.  A condition of a query is refused only where a value is not admissible, and then by
the field and the predicate of the first such condition alone. -/
theorem FieldMap.refusals_disclose_nothing {fields fields' : FieldMap}
    (h : fields.LooksLike fields') :
    (∀ selectors selectors' : Selectors, selectors.LooksLike selectors' →
      SeenAlike (List.Forall₂ fun f f' => f.field = f'.field ∧ f.predicate = f'.predicate)
        (selectors.resolve fields) (selectors'.resolve fields')) ∧
    (∀ orders : Orders,
      SeenAlike (List.Forall₂ fun o o' => o.direction = o'.direction)
        (orders.resolve fields) (orders.resolve fields')) ∧
    (∀ updates updates' : Updates, updates.LooksLike updates' →
      SeenAlike (fun out out' => out.length = out'.length)
        (updates.resolve fields) (updates'.resolve fields')) ∧
    (∀ filters e, (Sql.condition filters).mapError ColumnFilter.refusal = .error e →
      ∃ f, FirstInadmissible filters f) ∧
    ∀ filters filters' f f', FirstInadmissible filters f → FirstInadmissible filters' f' →
      f.field = f'.field → f.predicate = f'.predicate →
      SeenAlike (fun _ _ => False) ((Sql.condition filters).mapError ColumnFilter.refusal)
        ((Sql.condition filters').mapError ColumnFilter.refusal) := by
  refine ⟨?_, ?_, ?_, ?_, ?_⟩
  · intro selectors selectors' hselectors
    refine (EndAlike.mapM ?_ hselectors).seen
    rintro ⟨name, selector⟩ ⟨_, selector'⟩ ⟨rfl, hpredicate⟩
    exact Selectors.resolveOne_alike h name hpredicate
  · intro orders
    have hsame : List.Forall₂ (fun entry entry' => entry = entry') orders orders :=
      List.forall₂_same.mpr fun _ _ => rfl
    refine (EndAlike.mapM ?_ hsame).seen
    rintro ⟨name, token⟩ _ rfl
    exact Orders.resolveOne_alike h name token
  · intro updates updates' hupdates
    have hruns : EndAlike (List.Forall₂ fun _ _ => True) (updates.resolve fields)
        (updates'.resolve fields') := by
      refine EndAlike.mapM ?_ hupdates
      rintro ⟨name, value⟩ ⟨_, value'⟩ rfl
      exact Updates.resolveOne_alike h name value value'
    exact (hruns.mono fun _ _ hout => hout.length_eq).seen
  · intro filters e herror
    obtain ⟨f, hf, -⟩ := Outcome.mapError_eq_error.mp herror
    exact ⟨f, Sql.condition_eq_error_iff.mp hf⟩
  · intro filters filters' f f' hf hf' hfield hpredicate
    have hrefusal : f.refusal = f'.refusal := by
      rw [ColumnFilter.refusal, ColumnFilter.refusal, hfield, hpredicate]
    rw [Sql.condition_eq_error_iff.mpr hf, Sql.condition_eq_error_iff.mpr hf']
    change SeenAlike _ (.error f.refusal) (.error f'.refusal)
    rw [hrefusal]
    exact (EndAlike.error _).seen

/-- Members, whose names may be compared for equality and whose numbers cannot be reached. -/
def FieldMap.members : FieldMap :=
  .ofList
    [("name", { table := "members", column := "full_name", predicates := .onlyEqual }),
      ("number", { table := "members", column := "" })]

/-- Guests, who look the same to clients. -/
def FieldMap.guests : FieldMap :=
  .ofList
    [("name", { table := "visits", column := "guest", predicates := .onlyEqual }),
      ("number", { table := "badges", column := "" })]

theorem FieldMap.members_disclose_nothing :
    members.LooksLike guests ∧
      SeenAlike (List.Forall₂ fun f f' => f.field = f'.field ∧ f.predicate = f'.predicate)
        (Selectors.resolve members
          (.ofList [("name", ⟨"eq", .string "Ann"⟩), ("number", ⟨"gt", .null⟩)]))
        (Selectors.resolve guests
          (.ofList [("name", ⟨"eq", .array []⟩), ("number", ⟨"gt", .string "7"⟩)])) := by
  have hlooks : members.LooksLike guests :=
    Entries.rel_get? (.cons ⟨rfl, rfl, by decide⟩ (.cons ⟨rfl, rfl, by decide⟩ .nil))
  have hselectors : Selectors.LooksLike
      (.ofList [("name", ⟨"eq", .string "Ann"⟩), ("number", ⟨"gt", .null⟩)])
      (.ofList [("name", ⟨"eq", .array []⟩), ("number", ⟨"gt", .string "7"⟩)]) :=
    .cons ⟨rfl, rfl⟩ (.cons ⟨rfl, rfl⟩ .nil)
  exact ⟨hlooks, (refusals_disclose_nothing hlooks).1 _ _ hselectors⟩

end Intake
