import Intake.Proofs.Outcome
import Intake.Sql.Statement

/-!
# Conditions of a query

A list of conditions on columns becomes a conjunction.  A conjunct that is lost, or one with another
operator or value, would let a client read more than it asked for, and no error would tell.

Main results:

- {lit}`ColumnFilter.Admissible` says which values go with which predicates, and {lit}`Sql.Binds`
  which scalar holds exactly a value.
- {lit}`Sql.Asks` says which comparison a condition on a column asks for.
- Theorem {lit}`Sql.conjunct?_eq_some_iff`: a conjunct is the comparison that is asked for.
- Theorem {lit}`Sql.condition_exact`: there is one conjunct for each condition, in their order, or
  else the refusal of the first condition whose value is not admissible.
-/

namespace Intake

/-! ## Admissible values -/

/-- The value is a truth value, a number or a text. -/
def Json.IsScalar : Json → Prop
  | .bool _ | .number _ | .string _ => True
  | _ => False

/-- The value goes with the predicate: null or a scalar with equality and its opposite, an array of
scalars with membership and its opposite, and a scalar with all else. -/
def ColumnFilter.Admissible (f : ColumnFilter) : Prop :=
  match f.predicate with
  | .equal | .notEqual => f.value = .null ∨ f.value.IsScalar
  | .greater | .greaterOrEqual | .less | .lessOrEqual => f.value.IsScalar
  | .isIn | .notIn => ∃ items, f.value = .array items ∧ ∀ item ∈ items, item.IsScalar

/-- The condition is the first one whose value is not admissible. -/
def FirstInadmissible (filters : List ColumnFilter) (f : ColumnFilter) : Prop :=
  ∃ before after, filters = before ++ f :: after ∧ (∀ g ∈ before, g.Admissible) ∧ ¬ f.Admissible

namespace Sql

/-! ## Bound values -/

/-- The scalar holds exactly the value; an integer has a sign if 64 bits hold it so. -/
inductive Binds : Json → Scalar → Prop
  /-- A truth value is bound as it is. -/
  | bool (b : Bool) : Binds (.bool b) (.bool b)
  /-- So is an integer that 64 bits with a sign hold. -/
  | bigInt (n : Json.Integer) (hn : n.val ≤ maxInt64) : Binds (.number (.integer n)) (.bigInt n.val)
  /-- So is a greater integer. -/
  | bigUnsigned (n : Json.Integer) (hn : maxInt64 < n.val) :
    Binds (.number (.integer n)) (.bigUnsigned n.val)
  /-- So is a double. -/
  | double (x : Double) : Binds (.number (.double x)) (.double x)
  /-- So is a text. -/
  | text (s : String) : Binds (.string s) (.text s)

theorem ofNumber_eq_iff {n : Json.Number} {s : Scalar} :
    Scalar.ofNumber n = s ↔ Binds (.number n) s := by
  constructor
  · rintro rfl
    cases n with
    | double x => exact .double x
    | integer n =>
        simp only [Scalar.ofNumber]
        split
        · next hn => exact .bigInt n hn
        · next hn => exact .bigUnsigned n (by omega)
  · intro h
    cases h with
    | bigInt n hn => exact if_pos hn
    | bigUnsigned n hn => exact if_neg (by omega)
    | double x => rfl

/-- The scalar of a value holds exactly the value. -/
theorem ofJson?_eq_some_iff {value : Json} {s : Scalar} :
    Scalar.ofJson? value = some s ↔ Binds value s := by
  cases value with
  | bool b =>
      constructor
      · rintro ⟨⟩
        exact .bool b
      · rintro ⟨⟩
        rfl
  | number n => rw [Scalar.ofJson?, Option.some_inj, ofNumber_eq_iff]
  | string t =>
      constructor
      · rintro ⟨⟩
        exact .text t
      · rintro ⟨⟩
        rfl
  | null => exact ⟨nofun, nofun⟩
  | array items => exact ⟨nofun, nofun⟩
  | object entries => exact ⟨nofun, nofun⟩

/-- Exactly truth values, numbers and texts can be bound. -/
theorem isScalar_iff {value : Json} : value.IsScalar ↔ ∃ s, Binds value s := by
  simp only [← ofJson?_eq_some_iff]
  cases value <;> simp [Json.IsScalar, Scalar.ofJson?]

/-- Exactly arrays of such values can be bound item by item. -/
theorem forall_isScalar_iff {items : List Json} :
    (∀ item ∈ items, item.IsScalar) ↔ ∃ scalars, List.Forall₂ Binds items scalars := by
  simp only [isScalar_iff, Outcome.exists_forall₂_iff]

/-- The scalars of an array are those of its items, in their order. -/
theorem scalars?_eq_some_iff {value : Json} {scalars : List Scalar} :
    scalars? value = some scalars ↔
      ∃ items, value = .array items ∧ List.Forall₂ Binds items scalars := by
  cases value with
  | array items => simp [scalars?, Outcome.mapM_eq_some, ofJson?_eq_some_iff]
  | null | bool _ | number _ | string _ | object _ => simp [scalars?]

/-! ## Single comparisons -/

/-- The operator of a predicate that compares with one value. -/
def operator? : Predicate → Option Operator
  | .equal => some .equal
  | .notEqual => some .notEqual
  | .greater => some .greater
  | .greaterOrEqual => some .greaterOrEqual
  | .less => some .less
  | .lessOrEqual => some .lessOrEqual
  | .isIn | .notIn => none

/-- The column of a condition. -/
def column (f : ColumnFilter) : Column :=
  ⟨f.table, f.column⟩

/-- The comparison that a condition on a column asks for. -/
inductive Asks (f : ColumnFilter) : Conjunct → Prop
  /-- To be equal to null is to have no value. -/
  | isNull (hp : f.predicate = .equal) (hvalue : f.value = .null) : Asks f (.isNull (column f))
  /-- To differ from null is to have a value. -/
  | isNotNull (hp : f.predicate = .notEqual) (hvalue : f.value = .null) :
    Asks f (.isNotNull (column f))
  /-- A scalar is compared with by the operator of the predicate. -/
  | compare {operator : Operator} {s : Scalar} (hp : operator? f.predicate = some operator)
    (hvalue : Binds f.value s) : Asks f (.compare (column f) operator s)
  /-- Membership is among the items of an array, in their order. -/
  | isIn {items : List Json} {scalars : List Scalar} (hp : f.predicate = .isIn)
    (hvalue : f.value = .array items) (hitems : List.Forall₂ Binds items scalars) :
    Asks f (.isIn (column f) scalars)
  /-- So is its opposite. -/
  | notIn {items : List Json} {scalars : List Scalar} (hp : f.predicate = .notIn)
    (hvalue : f.value = .array items) (hitems : List.Forall₂ Binds items scalars) :
    Asks f (.notIn (column f) scalars)

/-- A value other than null is compared with by the operator of the predicate. -/
theorem conjunct?_of_operator? {f : ColumnFilter} {operator : Operator}
    (hp : operator? f.predicate = some operator) (hvalue : f.value ≠ .null) :
    conjunct? f = (Scalar.ofJson? f.value).map (.compare (column f) operator) := by
  obtain ⟨field, table, name, p, value⟩ := f
  cases p with
  | equal => cases hp; simp [conjunct?, column]
  | notEqual => cases hp; simp [conjunct?, column]
  | greater => cases hp; rfl
  | greaterOrEqual => cases hp; rfl
  | less => cases hp; rfl
  | lessOrEqual => cases hp; rfl
  | isIn => cases hp
  | notIn => cases hp

/-- A conjunct is the comparison that is asked for. -/
theorem conjunct?_eq_some_iff {f : ColumnFilter} {conjunct : Conjunct} :
    conjunct? f = some conjunct ↔ Asks f conjunct := by
  have hcompare : ∀ {p : Predicate} {operator : Operator}, f.predicate = p →
      operator? p = some operator →
      (Scalar.ofJson? f.value).map (.compare (column f) operator) = some conjunct →
      Asks f conjunct := by
    intro p operator hp hoperator h
    obtain ⟨s, hs, rfl⟩ := Option.map_eq_some_iff.mp h
    exact .compare (hp ▸ hoperator) (ofJson?_eq_some_iff.mp hs)
  constructor
  · intro h
    unfold conjunct? at h
    split at h
    · next hp hvalue =>
      cases h
      exact .isNull hp hvalue
    · next hp hvalue =>
      cases h
      exact .isNotNull hp hvalue
    · next hp =>
      obtain ⟨scalars, hscalars, rfl⟩ := Option.map_eq_some_iff.mp h
      obtain ⟨items, hvalue, hitems⟩ := scalars?_eq_some_iff.mp hscalars
      exact .isIn hp hvalue hitems
    · next hp =>
      obtain ⟨scalars, hscalars, rfl⟩ := Option.map_eq_some_iff.mp h
      obtain ⟨items, hvalue, hitems⟩ := scalars?_eq_some_iff.mp hscalars
      exact .notIn hp hvalue hitems
    · next hp _ => exact hcompare hp rfl h
    · next hp _ => exact hcompare hp rfl h
    · next hp => exact hcompare hp rfl h
    · next hp => exact hcompare hp rfl h
    · next hp => exact hcompare hp rfl h
    · next hp => exact hcompare hp rfl h
  · intro h
    cases h with
    | isNull hp hvalue => simp [conjunct?, hp, hvalue, column]
    | isNotNull hp hvalue => simp [conjunct?, hp, hvalue, column]
    | isIn hp hvalue hitems =>
        have hscalars := scalars?_eq_some_iff.mpr ⟨_, hvalue, hitems⟩
        simp [conjunct?, hp, hscalars, column]
    | notIn hp hvalue hitems =>
        have hscalars := scalars?_eq_some_iff.mpr ⟨_, hvalue, hitems⟩
        simp [conjunct?, hp, hscalars, column]
    | @compare operator s hp hvalue =>
        have hnull : f.value ≠ .null := by
          intro hnull
          rw [hnull] at hvalue
          cases hvalue
        rw [conjunct?_of_operator? hp hnull, ofJson?_eq_some_iff.mpr hvalue]
        rfl

/-- A value is admissible exactly when there is a comparison to ask for. -/
theorem admissible_iff {f : ColumnFilter} : f.Admissible ↔ ∃ conjunct, Asks f conjunct := by
  have hcompare : ∀ {operator : Operator}, operator? f.predicate = some operator →
      f.value.IsScalar → ∃ conjunct, Asks f conjunct := by
    intro operator hp hscalar
    obtain ⟨s, hs⟩ := isScalar_iff.mp hscalar
    exact ⟨_, .compare hp hs⟩
  constructor
  · intro h
    unfold ColumnFilter.Admissible at h
    split at h
    · next hp =>
      rcases h with hnull | hscalar
      · exact ⟨_, .isNull hp hnull⟩
      · exact hcompare (by rw [hp]; rfl) hscalar
    · next hp =>
      rcases h with hnull | hscalar
      · exact ⟨_, .isNotNull hp hnull⟩
      · exact hcompare (by rw [hp]; rfl) hscalar
    · next hp => exact hcompare (by rw [hp]; rfl) h
    · next hp => exact hcompare (by rw [hp]; rfl) h
    · next hp => exact hcompare (by rw [hp]; rfl) h
    · next hp => exact hcompare (by rw [hp]; rfl) h
    · next hp =>
      obtain ⟨items, hvalue, hitems⟩ := h
      obtain ⟨scalars, hscalars⟩ := forall_isScalar_iff.mp hitems
      exact ⟨_, .isIn hp hvalue hscalars⟩
    · next hp =>
      obtain ⟨items, hvalue, hitems⟩ := h
      obtain ⟨scalars, hscalars⟩ := forall_isScalar_iff.mp hitems
      exact ⟨_, .notIn hp hvalue hscalars⟩
  · rintro ⟨conjunct, h⟩
    unfold ColumnFilter.Admissible
    cases h with
    | isNull hp hvalue => simp [hp, hvalue]
    | isNotNull hp hvalue => simp [hp, hvalue]
    | compare hp hvalue =>
        have hscalar := isScalar_iff.mpr ⟨_, hvalue⟩
        cases hpredicate : f.predicate <;> simp_all [operator?]
    | isIn hp hvalue hitems =>
        rw [hp]
        exact ⟨_, hvalue, forall_isScalar_iff.mpr ⟨_, hitems⟩⟩
    | notIn hp hvalue hitems =>
        rw [hp]
        exact ⟨_, hvalue, forall_isScalar_iff.mpr ⟨_, hitems⟩⟩

theorem conjunct?_eq_none_iff {f : ColumnFilter} : conjunct? f = none ↔ ¬ f.Admissible := by
  simp only [Option.eq_none_iff_forall_ne_some, ne_eq, conjunct?_eq_some_iff, admissible_iff,
    not_exists]

/-! ## Conjunctions -/

/-- The conjunct of a condition, or the condition itself if it has none. -/
def conjunct (f : ColumnFilter) : Except ColumnFilter Conjunct :=
  (conjunct? f).elim (.error f) .ok

theorem conjunct_eq_ok_iff {f : ColumnFilter} {c : Conjunct} :
    conjunct f = .ok c ↔ Asks f c := by
  rw [← conjunct?_eq_some_iff, conjunct]
  cases conjunct? f <;> simp

theorem conjunct_eq_error_iff {f g : ColumnFilter} :
    conjunct f = .error g ↔ ¬ f.Admissible ∧ f = g := by
  rw [← conjunct?_eq_none_iff, conjunct]
  cases conjunct? f <;> simp

/-- The conditions are taken one by one. -/
theorem condition_eq_mapM (filters : List ColumnFilter) :
    condition filters = filters.mapM conjunct := by
  induction filters with
  | nil => rfl
  | cons f rest ih =>
      rw [Outcome.mapM_cons, condition, ih, conjunct]
      cases conjunct? f <;> rfl

theorem condition_eq_ok_iff {filters : List ColumnFilter} {conjuncts : List Conjunct} :
    condition filters = .ok conjuncts ↔ List.Forall₂ Asks filters conjuncts := by
  simp only [condition_eq_mapM, Outcome.mapM_eq_ok, conjunct_eq_ok_iff]

/-- A list of conditions fails with the first one whose value is not admissible. -/
theorem condition_eq_error_iff {filters : List ColumnFilter} {f : ColumnFilter} :
    condition filters = .error f ↔ FirstInadmissible filters f := by
  simp only [condition_eq_mapM, Outcome.mapM_eq_error, conjunct_eq_ok_iff, conjunct_eq_error_iff,
    ← admissible_iff]
  constructor
  · rintro ⟨before, g, after, hfilters, hbefore, hg, rfl⟩
    exact ⟨before, after, hfilters, hbefore, hg⟩
  · rintro ⟨before, after, hfilters, hbefore, hf⟩
    exact ⟨before, f, after, hfilters, hbefore, hf, rfl⟩

/-- The conditions of a query become a conjunction of just the comparisons that they ask for, in
their order, when all their values are admissible.  Otherwise the first one whose value is not is
refused by its field and predicate. -/
theorem condition_exact (filters : List ColumnFilter) :
    ((∃ conjuncts, condition filters = .ok conjuncts) ↔ ∀ f ∈ filters, f.Admissible) ∧
      (∀ conjuncts, condition filters = .ok conjuncts ↔ List.Forall₂ Asks filters conjuncts) ∧
      ∀ e, (condition filters).mapError ColumnFilter.refusal = .error e ↔
        ∃ f, FirstInadmissible filters f ∧ e = .invalidValue f.field f.predicate.mnemonic := by
  refine ⟨?_, fun conjuncts => condition_eq_ok_iff, ?_⟩
  · simp only [condition_eq_ok_iff, Outcome.exists_forall₂_iff, admissible_iff]
  · intro e
    simp only [Outcome.mapError_eq_error, condition_eq_error_iff, ColumnFilter.refusal]
    exact exists_congr fun f => and_congr_right fun _ => eq_comm

example :
    (condition
      [⟨"age", "users", "age", .greater, .number (.integer (.ofBool true))⟩,
        ⟨"id", "users", "id", .isIn, .array [.string "x", .null]⟩,
        ⟨"name", "users", "name", .less, .null⟩]).mapError ColumnFilter.refusal =
      .error (.invalidValue "id" "in") := by
  rfl

end Sql

end Intake
