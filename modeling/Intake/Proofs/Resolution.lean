import Intake.Clause.Selector
import Intake.Clause.Update
import Intake.Proofs.Dict
import Intake.Proofs.Outcome
import Intake.Proofs.Tokens

/-!
# Resolving names and tokens

Conditions, orders and assignments reach a database through an allow-list.  One loop for each of
them takes the entries of a client one by one, looks the name up, reads the token if there is one,
and stops at the first entry that it refuses.

Main results:

- {lit}`FieldMap.Lists` says that a name may be used.
- {lit}`Selectors.Admits` and {lit}`Selectors.Refuses` say what becomes of one condition, apart from
  any loop; so do their namesakes for orders and assignments.
- {lit}`Exact` says that a result is the one of all entries, or else the first refusal.
- Theorem {lit}`FieldMap.resolve_exact`: the three loops are exact.
-/

namespace Intake

/-! ## Listed names -/

namespace FieldMap

/-- The name is on the list, with a column that can be used. -/
def Lists (fields : FieldMap) (name : String) (entry : ColumnEntry) : Prop :=
  fields.get? name = some entry ∧ entry.column ≠ ""

variable {fields : FieldMap} {name : String}

theorem resolve?_eq_some_iff {entry : ColumnEntry} :
    fields.resolve? name = some entry ↔ fields.Lists name entry := by
  rw [resolve?, Option.filter_eq_some_iff, Lists]
  simp

theorem resolve?_eq_none_iff :
    fields.resolve? name = none ↔ ∀ entry, ¬ fields.Lists name entry := by
  simp only [Option.eq_none_iff_forall_ne_some, ne_eq, resolve?_eq_some_iff]

end FieldMap

/-! ## Single conditions -/

namespace Selectors

/-- The condition on a column that a condition of a client becomes. -/
inductive Admits (fields : FieldMap) (name : String) (selector : Selector) : ColumnFilter → Prop
  /-- The name is listed, and the token spells a predicate that is allowed for it. -/
  | intro {entry : ColumnEntry} {p : Predicate} (listed : fields.Lists name entry)
    (spelled : Text.Spells Predicate.spellings selector.predicate p)
    (allowed : entry.predicates.contains p = true) :
    Admits fields name selector ⟨name, entry.table, entry.column, p, selector.value⟩

/-- The error for a condition of a client that is refused. -/
inductive Refuses (fields : FieldMap) (name : String) (selector : Selector) : ClauseError → Prop
  /-- The name is not listed, whatever the token is. -/
  | field (unlisted : ∀ entry, ¬ fields.Lists name entry) :
    Refuses fields name selector (.invalidField name)
  /-- The name is listed, and the token spells no predicate that is allowed for it. -/
  | predicate {entry : ColumnEntry} (listed : fields.Lists name entry)
    (refused : ∀ p, Text.Spells Predicate.spellings selector.predicate p →
      entry.predicates.contains p = false) :
    Refuses fields name selector (.invalidPredicate name selector.predicate)

theorem allowed?_eq_some_iff {entry : ColumnEntry} {selector : Selector} {p : Predicate} :
    allowed? entry selector = some p ↔
      Text.Spells Predicate.spellings selector.predicate p ∧
        entry.predicates.contains p = true := by
  rw [allowed?, Option.filter_eq_some_iff, Predicate.parse?_eq_some_iff]

theorem allowed?_eq_none_iff {entry : ColumnEntry} {selector : Selector} :
    allowed? entry selector = none ↔
      ∀ p, Text.Spells Predicate.spellings selector.predicate p →
        entry.predicates.contains p = false := by
  simp only [Option.eq_none_iff_forall_ne_some, ne_eq, allowed?_eq_some_iff, not_and,
    Bool.not_eq_true]

variable {fields : FieldMap} {name : String} {selector : Selector}

theorem resolveOne_eq_ok_iff {filter : ColumnFilter} :
    resolveOne fields name selector = .ok filter ↔ Admits fields name selector filter := by
  unfold resolveOne
  constructor
  · intro h
    split at h
    · cases h
    · next entry hentry =>
      split at h
      · cases h
      · next p hp =>
        cases h
        obtain ⟨hspelled, hallowed⟩ := allowed?_eq_some_iff.mp hp
        exact .intro (FieldMap.resolve?_eq_some_iff.mp hentry) hspelled hallowed
  · rintro ⟨listed, spelled, allowed⟩
    simp only [FieldMap.resolve?_eq_some_iff.mpr listed,
      allowed?_eq_some_iff.mpr ⟨spelled, allowed⟩]

theorem resolveOne_eq_error_iff {e : ClauseError} :
    resolveOne fields name selector = .error e ↔ Refuses fields name selector e := by
  unfold resolveOne
  constructor
  · intro h
    split at h
    · next hentry =>
      cases h
      exact .field (FieldMap.resolve?_eq_none_iff.mp hentry)
    · next entry hentry =>
      split at h
      · next hp =>
        cases h
        exact .predicate (FieldMap.resolve?_eq_some_iff.mp hentry) (allowed?_eq_none_iff.mp hp)
      · cases h
  · intro h
    cases h with
    | field unlisted => simp only [FieldMap.resolve?_eq_none_iff.mpr unlisted]
    | predicate listed refused =>
        simp only [FieldMap.resolve?_eq_some_iff.mpr listed, allowed?_eq_none_iff.mpr refused]

end Selectors

/-! ## Single orders -/

namespace Orders

/-- The order by a column that an order of a client becomes. -/
inductive Admits (fields : FieldMap) (name token : String) : ColumnOrder → Prop
  /-- The name is listed, and the token spells a direction. -/
  | intro {entry : ColumnEntry} {direction : Direction} (listed : fields.Lists name entry)
    (spelled : Text.Spells Direction.spellings token direction) :
    Admits fields name token ⟨entry.table, entry.column, direction⟩

/-- The error for an order of a client that is refused. -/
inductive Refuses (fields : FieldMap) (name token : String) : ClauseError → Prop
  /-- The name is not listed, whatever the token is. -/
  | field (unlisted : ∀ entry, ¬ fields.Lists name entry) :
    Refuses fields name token (.invalidOrderField name)
  /-- The name is listed, and the token spells no direction. -/
  | direction {entry : ColumnEntry} (listed : fields.Lists name entry)
    (refused : ∀ direction, ¬ Text.Spells Direction.spellings token direction) :
    Refuses fields name token (.invalidDirection name token)

variable {fields : FieldMap} {name token : String}

theorem resolveOne_eq_ok_iff {order : ColumnOrder} :
    resolveOne fields name token = .ok order ↔ Admits fields name token order := by
  unfold resolveOne
  constructor
  · intro h
    split at h
    · cases h
    · next entry hentry =>
      split at h
      · cases h
      · next direction hdirection =>
        cases h
        exact .intro (FieldMap.resolve?_eq_some_iff.mp hentry)
          (Direction.parse?_eq_some_iff.mp hdirection)
  · rintro ⟨listed, spelled⟩
    simp only [FieldMap.resolve?_eq_some_iff.mpr listed,
      Direction.parse?_eq_some_iff.mpr spelled]

theorem resolveOne_eq_error_iff {e : ClauseError} :
    resolveOne fields name token = .error e ↔ Refuses fields name token e := by
  have hnone : Direction.parse? token = none ↔
      ∀ direction, ¬ Text.Spells Direction.spellings token direction := by
    simp only [Option.eq_none_iff_forall_ne_some, ne_eq, Direction.parse?_eq_some_iff]
  unfold resolveOne
  constructor
  · intro h
    split at h
    · next hentry =>
      cases h
      exact .field (FieldMap.resolve?_eq_none_iff.mp hentry)
    · next entry hentry =>
      split at h
      · next hdirection =>
        cases h
        exact .direction (FieldMap.resolve?_eq_some_iff.mp hentry) (hnone.mp hdirection)
      · cases h
  · intro h
    cases h with
    | field unlisted => simp only [FieldMap.resolve?_eq_none_iff.mpr unlisted]
    | direction listed refused =>
        simp only [FieldMap.resolve?_eq_some_iff.mpr listed, hnone.mpr refused]

end Orders

/-! ## Single assignments -/

namespace Updates

/-- The assignment to a column that an assignment of a client becomes. -/
inductive Admits (fields : FieldMap) (name : String) (value : Json) : ColumnUpdate → Prop
  /-- The name is listed. -/
  | intro {entry : ColumnEntry} (listed : fields.Lists name entry) :
    Admits fields name value ⟨entry.table, entry.column, value⟩

/-- The error for an assignment of a client that is refused. -/
inductive Refuses (fields : FieldMap) (name : String) : ClauseError → Prop
  /-- The name is not listed. -/
  | field (unlisted : ∀ entry, ¬ fields.Lists name entry) :
    Refuses fields name (.invalidField name)

variable {fields : FieldMap} {name : String} {value : Json}

theorem resolveOne_eq_ok_iff {update : ColumnUpdate} :
    resolveOne fields name value = .ok update ↔ Admits fields name value update := by
  unfold resolveOne
  constructor
  · intro h
    split at h
    · cases h
    · next entry hentry =>
      cases h
      exact .intro (FieldMap.resolve?_eq_some_iff.mp hentry)
  · rintro ⟨listed⟩
    simp only [FieldMap.resolve?_eq_some_iff.mpr listed]

theorem resolveOne_eq_error_iff {e : ClauseError} :
    resolveOne fields name value = .error e ↔ Refuses fields name e := by
  unfold resolveOne
  constructor
  · intro h
    split at h
    · next hentry =>
      cases h
      exact .field (FieldMap.resolve?_eq_none_iff.mp hentry)
    · cases h
  · rintro ⟨unlisted⟩
    simp only [FieldMap.resolve?_eq_none_iff.mpr unlisted]

end Updates

/-! ## Whole collections -/

section

variable {α β : Type}

/-- The result of a collection is that of all its entries, in their order, or else the refusal of
the first entry that is not admitted. -/
structure Exact (admits : String → α → β → Prop) (refuses : String → α → ClauseError → Prop)
    (entries : List (String × α)) (result : Except ClauseError (List β)) : Prop where
  /-- There are results when every entry is admitted. -/
  succeeds_iff : (∃ out, result = .ok out) ↔
    ∀ name x, (name, x) ∈ entries → ∃ y, admits name x y
  /-- There is one result for each entry, in the order of the entries. -/
  ok_iff : ∀ out, result = .ok out ↔
    List.Forall₂ (fun entry y => admits entry.1 entry.2 y) entries out
  /-- An error is the refusal of an entry after none but admitted ones. -/
  error_iff : ∀ e, result = .error e ↔
    ∃ before name x after, entries = before ++ (name, x) :: after ∧
      (∀ name' x', (name', x') ∈ before → ∃ y, admits name' x' y) ∧ refuses name x e

/-- The results belong to entries that are taken in the order of their names. -/
def InNameOrder (admits : String → α → β → Prop) (entries : List (String × α))
    (out : List β) : Prop :=
  ∃ names : List String, names.Pairwise (· < ·) ∧
    List.Forall₂ (fun name y => ∃ x, (name, x) ∈ entries ∧ admits name x y) names out

variable {admits : String → α → β → Prop} {refuses : String → α → ClauseError → Prop}
  {resolveOne : String → α → Except ClauseError β} {entries : List (String × α)}

/-- A loop is exact when its step is. -/
theorem Exact.of_mapM (hok : ∀ name x y, resolveOne name x = .ok y ↔ admits name x y)
    (herror : ∀ name x e, resolveOne name x = .error e ↔ refuses name x e) :
    Exact admits refuses entries (entries.mapM fun entry => resolveOne entry.1 entry.2) := by
  refine ⟨?_, ?_, ?_⟩
  · rw [Outcome.exists_mapM_eq_ok]
    simp only [hok, Prod.forall]
  · intro out
    rw [Outcome.mapM_eq_ok]
    simp only [hok]
  · intro e
    rw [Outcome.mapM_eq_error]
    simp only [hok, herror, Prod.exists, Prod.forall]

/-- Where the entries are in the order of their names, so are the results. -/
theorem Exact.inNameOrder {result : Except ClauseError (List β)}
    (h : Exact admits refuses entries result) (hsorted : Entries.Sorted entries) {out : List β}
    (hout : result = .ok out) : InNameOrder admits entries out := by
  have hpairs := (h.ok_iff out).mp hout
  refine ⟨Entries.keys entries, Entries.sorted_iff_keys.mp hsorted, ?_⟩
  rw [Entries.keys, List.forall₂_map_left_iff]
  have hmem := (List.forall₂_and_left (p := (· ∈ entries)) entries out).mpr
    ⟨fun _ hentry => hentry, hpairs⟩
  exact hmem.imp fun entry y h => ⟨entry.2, h.1, h.2⟩

end

/-- The three loops admit what the allow-list admits and refuse the first entry that it does not
admit. -/
theorem FieldMap.resolve_exact (fields : FieldMap) :
    (∀ selectors : Selectors,
      Exact (Selectors.Admits fields) (Selectors.Refuses fields) selectors.entries
          (selectors.resolve fields) ∧
        ∀ filters, selectors.resolve fields = .ok filters →
          InNameOrder (Selectors.Admits fields) selectors.entries filters) ∧
      (∀ orders : Orders,
        Exact (Orders.Admits fields) (Orders.Refuses fields) orders (orders.resolve fields)) ∧
      (∀ updates : Updates,
        Exact (Updates.Admits fields) (fun name _ => Updates.Refuses fields name) updates.entries
            (updates.resolve fields) ∧
          ∀ columns, updates.resolve fields = .ok columns →
            InNameOrder (Updates.Admits fields) updates.entries columns) := by
  have hselectors (selectors : Selectors) :
      Exact (Selectors.Admits fields) (Selectors.Refuses fields) selectors.entries
        (selectors.resolve fields) :=
    Exact.of_mapM (fun _ _ _ => Selectors.resolveOne_eq_ok_iff)
      (fun _ _ _ => Selectors.resolveOne_eq_error_iff)
  have horders (orders : Orders) :
      Exact (Orders.Admits fields) (Orders.Refuses fields) orders (orders.resolve fields) :=
    Exact.of_mapM (fun _ _ _ => Orders.resolveOne_eq_ok_iff)
      (fun _ _ _ => Orders.resolveOne_eq_error_iff)
  have hupdates (updates : Updates) :
      Exact (Updates.Admits fields) (fun name _ => Updates.Refuses fields name) updates.entries
        (updates.resolve fields) :=
    Exact.of_mapM (fun _ _ _ => Updates.resolveOne_eq_ok_iff)
      (fun _ _ _ => Updates.resolveOne_eq_error_iff)
  refine ⟨?_, horders, ?_⟩
  · intro selectors
    exact ⟨hselectors selectors, fun _ hout =>
      (hselectors selectors).inNameOrder selectors.sorted hout⟩
  · intro updates
    exact ⟨hupdates updates, fun _ hout =>
      (hupdates updates).inNameOrder updates.sorted hout⟩

end Intake
