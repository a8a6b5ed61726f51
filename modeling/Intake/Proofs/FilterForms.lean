import Intake.ListQuery
import Intake.Proofs.Marks
import Mathlib.Data.List.Permutation

/-!
# Forms of conditions

A condition may be stated in full, as an object of a predicate and a value.  Any other value stands
for a condition on its own: an array for membership, and what is no array for equality.  One array
is an exception.  An array of a text and one more value is read as if it were stated in full, with
the text for the predicate, and so it is no list of two values to choose from.

Main results:

- {lit}`Selector.Documented` is the condition that a value is meant to stand for, and
  {lit}`Selector.Reads` the one that it is read as.
- Theorem {lit}`Selector.Reads.documented_iff`: a value is read as it is meant exactly when it is no
  array of a text and one more value and has no mark of an embedded text.
- Theorem {lit}`Selectors.reads_conditions`: every condition of a filter is read so.
-/

namespace Intake

/-! ## Values that state a condition -/

/-- The value is an array of a text and one more value. -/
def Json.IsTextPair (value : Json) : Prop :=
  ∃ s other, value = .array [.string s, other]

namespace Selector

/-- The value is an object of just the predicate and the value to compare with. -/
def States (value : Json) (predicate : String) (compared : Json) : Prop :=
  ∃ entries, value = .object entries ∧
    entries.Perm [("predicate", .string predicate), ("value", compared)]

section

variable {value compared : Json} {predicate : String}

theorem states_iff : States value predicate compared ↔
    value = .object [("predicate", .string predicate), ("value", compared)] ∨
      value = .object [("value", compared), ("predicate", .string predicate)] := by
  simp only [States, List.perm_pair]
  constructor
  · rintro ⟨entries, rfl, rfl | rfl⟩
    · exact Or.inl rfl
    · exact Or.inr rfl
  · rintro (rfl | rfl)
    · exact ⟨_, rfl, Or.inl rfl⟩
    · exact ⟨_, rfl, Or.inr rfl⟩

/-- What a value states is the only thing that it states. -/
theorem States.unique (h : States value predicate compared) {predicate' : String}
    {compared' : Json} (h' : States value predicate' compared') :
    predicate = predicate' ∧ compared = compared' := by
  rw [states_iff] at h h'
  rcases h with rfl | rfl <;> rcases h' with h' | h' <;> simp_all

theorem States.not_isArray (h : States value predicate compared) : ¬ value.IsArray := by
  obtain ⟨entries, rfl, -⟩ := h
  rintro ⟨items, hitems⟩
  cases hitems

/-- A value that states a condition has a mark just where the value to compare with has one. -/
theorem States.unmarked_iff (h : States value predicate compared) :
    value.Unmarked ↔ compared.Unmarked := by
  have hpredicate : "predicate" ≠ Json.embeddingKey := by decide
  have hvalue : "value" ≠ Json.embeddingKey := by decide
  rw [states_iff] at h
  rcases h with rfl | rfl <;>
    simp [Json.Unmarked, Json.UnmarkedEntries, Json.embedding?, hpredicate, hvalue]

theorem States.distinctKeys (h : States value predicate compared) (hvalue : value.DistinctKeys) :
    compared.DistinctKeys := by
  rw [states_iff] at h
  rcases h with rfl | rfl
  · simp only [Json.DistinctKeys, Json.DistinctKeysEntries] at hvalue
    exact hvalue.2.2.1
  · simp only [Json.DistinctKeys, Json.DistinctKeysEntries] at hvalue
    exact hvalue.2.1

/-! ## Reading a condition -/

/-- The condition that a value is meant to stand for, up to the order of keys. -/
inductive Documented : Json → Selector → Prop
  /-- A value that states a condition stands for it. -/
  | stated {value compared : Json} {predicate : String}
    (states : States value predicate compared) :
    Documented value ⟨predicate, compared.sorted⟩
  /-- An array of any values stands for membership. -/
  | membership {value : Json} (array : value.IsArray) : Documented value ⟨"in", value.sorted⟩
  /-- Any other value stands for equality. -/
  | equality {value : Json} (unstated : ∀ predicate compared, ¬ States value predicate compared)
    (noArray : ¬ value.IsArray) :
    Documented value ⟨"eq", value.sorted⟩

/-- The condition that a value is read as. -/
inductive Reads : Json → Selector → Prop
  /-- A condition is stated in an object, or in an array of a text and one more value. -/
  | stated {value compared meaning : Json} {predicate : String}
    (states : States value predicate compared ∨ value = .array [.string predicate, compared])
    (stands : compared.canonical = .ok meaning) :
    Reads value ⟨predicate, meaning⟩
  /-- Another value that stands for an array is read as membership. -/
  | membership {value meaning : Json}
    (unstated : ∀ predicate compared, ¬ States value predicate compared)
    (noPair : ¬ value.IsTextPair) (stands : value.canonical = .ok meaning)
    (array : meaning.IsArray) :
    Reads value ⟨"in", meaning⟩
  /-- A value that stands for no array is read as equality. -/
  | equality {value meaning : Json}
    (unstated : ∀ predicate compared, ¬ States value predicate compared)
    (noPair : ¬ value.IsTextPair) (stands : value.canonical = .ok meaning)
    (noArray : ¬ meaning.IsArray) :
    Reads value ⟨"eq", meaning⟩

theorem explicit?_eq_some_iff {s : Selector} :
    explicit? value = some s ↔
      States value s.predicate s.value ∨ value = .array [.string s.predicate, s.value] := by
  rw [states_iff]
  constructor
  · intro h
    unfold explicit? at h
    split at h
    · cases h
      exact Or.inl (Or.inl rfl)
    · cases h
      exact Or.inl (Or.inr rfl)
    · cases h
      exact Or.inr rfl
    · cases h
  · rintro ((rfl | rfl) | rfl)
    · rfl
    · rfl
    · rfl

theorem bare_eq_iff {meaning : Json} {s : Selector} :
    bare meaning = s ↔
      (meaning.IsArray ∧ s = ⟨"in", meaning⟩) ∨ (¬ meaning.IsArray ∧ s = ⟨"eq", meaning⟩) := by
  cases meaning with
  | array items =>
      have harray : (Json.array items).IsArray := ⟨items, rfl⟩
      simp only [harray, true_and, not_true_eq_false, false_and, or_false]
      exact eq_comm
  | null | bool _ | number _ | string _ | object _ =>
      simp only [Json.IsArray, reduceCtorEq, exists_false, false_and, not_false_eq_true, true_and,
        false_or]
      exact eq_comm

theorem explicit?_eq_none_iff : explicit? value = none ↔
    (∀ predicate compared, ¬ States value predicate compared) ∧ ¬ value.IsTextPair := by
  rw [Option.eq_none_iff_forall_ne_some]
  constructor
  · intro h
    constructor
    · intro predicate compared states
      exact h ⟨predicate, compared⟩ (explicit?_eq_some_iff.mpr (Or.inl states))
    · rintro ⟨s, other, hpair⟩
      exact h ⟨s, other⟩ (explicit?_eq_some_iff.mpr (Or.inr hpair))
  · rintro ⟨unstated, noPair⟩ s hs
    rcases explicit?_eq_some_iff.mp hs with states | hpair
    · exact unstated s.predicate s.value states
    · exact noPair ⟨s.predicate, s.value, hpair⟩

/-- Values are read as {lit}`Reads` says. -/
theorem ofJson_eq_ok_iff {s : Selector} : ofJson value = .ok s ↔ Reads value s := by
  unfold ofJson
  cases hexplicit : explicit? value with
  | some stated =>
      obtain ⟨predicate, compared⟩ := stated
      simp only [Outcome.mapError_eq_ok, Outcome.map_eq_ok]
      constructor
      · rintro ⟨meaning, stands, rfl⟩
        exact .stated (explicit?_eq_some_iff.mp hexplicit) stands
      · intro h
        cases h with
        | stated states stands =>
            have hsame := explicit?_eq_some_iff (s := ⟨_, _⟩) |>.mpr states
            rw [hexplicit] at hsame
            cases hsame
            exact ⟨_, stands, rfl⟩
        | membership unstated noPair =>
            rw [explicit?_eq_none_iff.mpr ⟨unstated, noPair⟩] at hexplicit
            cases hexplicit
        | equality unstated noPair =>
            rw [explicit?_eq_none_iff.mpr ⟨unstated, noPair⟩] at hexplicit
            cases hexplicit
  | none =>
      obtain ⟨unstated, noPair⟩ := explicit?_eq_none_iff.mp hexplicit
      simp only [Outcome.mapError_eq_ok, Outcome.map_eq_ok, bare_eq_iff]
      constructor
      · rintro ⟨meaning, stands, ⟨array, rfl⟩ | ⟨noArray, rfl⟩⟩
        · exact .membership unstated noPair stands array
        · exact .equality unstated noPair stands noArray
      · intro h
        cases h with
        | stated states stands =>
            have hsome := explicit?_eq_some_iff (s := ⟨_, _⟩) |>.mpr states
            rw [hexplicit] at hsome
            cases hsome
        | membership _ _ stands array => exact ⟨_, stands, Or.inl ⟨array, rfl⟩⟩
        | equality _ _ stands noArray => exact ⟨_, stands, Or.inr ⟨noArray, rfl⟩⟩

/-! ## Meant and read -/

theorem isArray_sorted (value : Json) : value.sorted.IsArray ↔ value.IsArray := by
  cases value <;> simp [Json.sorted, Json.IsArray]

/-- A value that states no condition is meant to be compared with as it is. -/
theorem Documented.value_eq {s : Selector} (h : Documented value s)
    (unstated : ∀ predicate compared, ¬ States value predicate compared) :
    s.value = value.sorted := by
  cases h with
  | stated states => exact absurd states (unstated _ _)
  | membership array => rfl
  | equality unstated noArray => rfl

/-- An array of a text and one more value is not read as it is meant: the second value would have to
stand for the array that it is an item of. -/
theorem not_documented_of_textPair {predicate : String} {other meaning : Json}
    (hkeys : other.DistinctKeys) (stands : other.canonical = .ok meaning) :
    ¬ Documented (.array [.string predicate, other]) ⟨predicate, meaning⟩ := by
  intro h
  have hlength := Json.textLength_canonical_le stands
  have hsorted := Json.textLength_sorted other hkeys
  generalize hvalue : Json.array [.string predicate, other] = value at h
  generalize hs : Selector.mk predicate meaning = s at h
  cases h with
  | stated states =>
      have harray : value.IsArray := ⟨_, hvalue.symm⟩
      exact states.not_isArray harray
  | membership array =>
      -- The second value would stand for an array with two characters more than it has itself.
      subst hvalue
      injection hs with hpredicate hmeaning
      subst hpredicate hmeaning
      simp only [Json.sorted, Json.sortedItems, Json.textLength, Json.textLengthItems] at hlength
      have hin : "in".length = 2 := rfl
      omega
  | equality unstated noArray => exact noArray ⟨_, hvalue.symm⟩

/-- What is read of a value without repeated keys is what is meant exactly when the value is no
array of a text and one more value and has no mark. -/
theorem Reads.documented_iff {s : Selector} (h : Reads value s) (hkeys : value.DistinctKeys) :
    Documented value s ↔ ¬ value.IsTextPair ∧ value.Unmarked := by
  cases h with
  | stated states stands =>
      rcases states with states | rfl
      · have noPair : ¬ value.IsTextPair := by
          rintro ⟨s, other, rfl⟩
          exact states.not_isArray ⟨_, rfl⟩
        rw [states.unmarked_iff, ← Json.canonical_eq_sorted_iff (states.distinctKeys hkeys), stands,
          Except.ok.injEq]
        constructor
        · intro hdocumented
          refine ⟨noPair, ?_⟩
          cases hdocumented with
          | stated states' => rw [(states.unique states').2]
          | membership array => exact absurd array states.not_isArray
          | equality unstated => exact absurd states (unstated _ _)
        · rintro ⟨-, rfl⟩
          exact .stated states
      · simp only [Json.DistinctKeys, Json.DistinctKeysItems] at hkeys
        constructor
        · intro hdocumented
          exact absurd hdocumented (not_documented_of_textPair hkeys.2.1 stands)
        · rintro ⟨noPair, -⟩
          exact absurd ⟨_, _, rfl⟩ noPair
  | membership unstated noPair stands array =>
      rw [← Json.canonical_eq_sorted_iff hkeys, stands, Except.ok.injEq]
      constructor
      · intro hdocumented
        exact ⟨noPair, hdocumented.value_eq unstated⟩
      · rintro ⟨-, rfl⟩
        exact .membership ((isArray_sorted value).mp array)
  | equality unstated noPair stands noArray =>
      rw [← Json.canonical_eq_sorted_iff hkeys, stands, Except.ok.injEq]
      constructor
      · intro hdocumented
        exact ⟨noPair, hdocumented.value_eq unstated⟩
      · rintro ⟨-, rfl⟩
        exact .equality unstated fun array => noArray ((isArray_sorted value).mpr array)

/-- A value without a mark is read. -/
theorem exists_reads_of_unmarked (h : value.Unmarked) : ∃ s, Reads value s := by
  have hstands := Json.canonical_of_unmarked h
  cases hexplicit : explicit? value with
  | some stated =>
      have hstated := explicit?_eq_some_iff.mp hexplicit
      have hcompared : stated.value.Unmarked := by
        rcases hstated with states | rfl
        · exact states.unmarked_iff.mp h
        · simp only [Json.Unmarked, Json.UnmarkedItems] at h
          exact h.2.1
      exact ⟨_, .stated hstated (Json.canonical_of_unmarked hcompared)⟩
  | none =>
      obtain ⟨unstated, noPair⟩ := explicit?_eq_none_iff.mp hexplicit
      by_cases array : value.sorted.IsArray
      · exact ⟨_, .membership unstated noPair hstands array⟩
      · exact ⟨_, .equality unstated noPair hstands array⟩

end

end Selector

/-! ## Filters -/

theorem readOrdered_empty : ∃ e, Json.readOrdered "" = .error e := by
  have hscan : Json.scan "" = [] := by simp [Json.scan, Json.scanFrom]
  rw [Json.readOrdered, Json.readWithin, hscan]
  exact ⟨_, rfl⟩

/-- The filter of a query is read as the object that its text holds. -/
theorem ListQuery.toOption_selectors {q : ListQuery} {text : String}
    {entries : List (String × Json)} (hfilter : q.filter = some text)
    (hread : Json.readOrdered (Text.trim text) = .ok (.object entries)) :
    q.selectors.toOption = (Selectors.ofJson (.object entries)).toOption := by
  have hpresent : (Text.trim text).isEmpty = false := by
    rw [Bool.eq_false_iff]
    intro hempty
    obtain ⟨e, he⟩ := readOrdered_empty
    rw [String.isEmpty_iff.mp hempty, he] at hread
    cases hread
  unfold ListQuery.selectors ListQuery.readPresent Selectors.read?
  simp only [hfilter, Option.getD_some, hpresent, hread, Except.toOption, Option.bind_some]
  cases Selectors.ofJson (.object entries) with
  | error e => rfl
  | ok selectors => rfl

namespace Selectors

variable {entries : List (String × Json)}

theorem ofJson_object_eq_ok {selectors : Selectors} :
    ofJson (.object entries) = .ok selectors ↔
      ∃ conditions, List.Forall₂
          (fun entry condition =>
            condition.1 = entry.1 ∧ Selector.ofJson entry.2 = .ok condition.2)
          entries conditions ∧
        Dict.ofList conditions = selectors := by
  rw [ofJson, Outcome.bind_eq_ok]
  simp only [Outcome.mapM_entries_eq_ok, pure, Except.pure, Except.ok.injEq]

theorem exists_ofJson_object_eq_ok :
    (∃ selectors, ofJson (.object entries) = .ok selectors) ↔
      ∀ field value, (field, value) ∈ entries → ∃ s, Selector.ofJson value = .ok s := by
  have hrun : (∃ selectors, ofJson (.object entries) = .ok selectors) ↔
      ∃ conditions, (entries.mapM fun entry =>
        (Selector.ofJson entry.2).map (entry.1, ·)) = .ok conditions := by
    simp only [ofJson, Outcome.bind_eq_ok]
    constructor
    · rintro ⟨_, conditions, hconditions, -⟩
      exact ⟨conditions, hconditions⟩
    · rintro ⟨conditions, hconditions⟩
      exact ⟨_, conditions, hconditions, rfl⟩
  rw [hrun, Outcome.exists_mapM_eq_ok]
  simp only [Outcome.map_eq_ok, Prod.forall]
  constructor
  · intro h field value hmem
    obtain ⟨_, s, hs, -⟩ := h field value hmem
    exact ⟨s, hs⟩
  · intro h field value hmem
    obtain ⟨s, hs⟩ := h field value hmem
    exact ⟨_, s, hs, rfl⟩

/-- An object is read as conditions when the value of every entry is read.  Each field then has the
condition that the last value under it is read as, and this is the condition that the value is meant
to stand for exactly when the value is no array of a text and one more value and has no mark. -/
theorem reads_conditions (entries : List (String × Json)) :
    (∀ (q : ListQuery) (text : String), q.filter = some text →
        Json.readOrdered (Text.trim text) = .ok (.object entries) →
        q.selectors.toOption = (ofJson (.object entries)).toOption) ∧
      ((∃ selectors, ofJson (.object entries) = .ok selectors) ↔
        ∀ field value, (field, value) ∈ entries → ∃ s, Selector.Reads value s) ∧
      (∀ value : Json, value.Unmarked → ∃ s, Selector.Reads value s) ∧
      ∀ selectors, ofJson (.object entries) = .ok selectors →
        ∀ field value, Entries.get? entries.reverse field = some value →
          ∃ s, selectors.get? field = some s ∧ Selector.Reads value s ∧
            (value.DistinctKeys →
              (Selector.Documented value s ↔ ¬ value.IsTextPair ∧ value.Unmarked)) := by
  refine ⟨?_, ?_, ?_, ?_⟩
  · intro q text hfilter hread
    exact ListQuery.toOption_selectors hfilter hread
  · simp only [exists_ofJson_object_eq_ok, Selector.ofJson_eq_ok_iff]
  · intro value hunmarked
    exact Selector.exists_reads_of_unmarked hunmarked
  · intro selectors hselectors field value hvalue
    obtain ⟨conditions, hconditions, rfl⟩ := ofJson_object_eq_ok.mp hselectors
    have hget := Entries.rel_get? (R := fun value s => Selector.ofJson value = .ok s)
      (List.forall₂_reverse_iff.mpr hconditions) field
    rw [hvalue, ← Entries.get?_ofList] at hget
    change Option.Rel _ _ ((Dict.ofList conditions).get? field) at hget
    cases hcondition : (Dict.ofList conditions).get? field with
    | none =>
        rw [hcondition] at hget
        cases hget
    | some s =>
        rw [hcondition] at hget
        cases hget with
        | some hread =>
            have hreads := Selector.ofJson_eq_ok_iff.mp hread
            exact ⟨s, rfl, hreads, hreads.documented_iff⟩

/-- A filter for one of two identifiers, as it would seem. -/
def eitherOf : ListQuery :=
  ⟨some "\x7b\"id\":[\"eq\",1]\x7d", none⟩

/-- The two identifiers. -/
def either : Json :=
  .array [.string "eq", .ofBit true]

theorem eitherOf_reads_conditions :
    ∃ selectors s, eitherOf.selectors = .ok selectors ∧ selectors.get? "id" = some s ∧
      Selector.Reads either s ∧ ¬ Selector.Documented either s := by
  have hunmarked : either.Unmarked := ⟨trivial, trivial, trivial⟩
  have hkeys : either.DistinctKeys := ⟨trivial, trivial, trivial⟩
  have hread : Json.readOrdered (Text.trim "\x7b\"id\":[\"eq\",1]\x7d") =
      .ok (.object [("id", either)]) := by
    -- A text is cut into tokens by well-founded recursion, at which unfolding stops otherwise.
    with_unfolding_all rfl
  obtain ⟨hquery, hsucceeds, hreadable, hfields⟩ := reads_conditions [("id", either)]
  have hquery := hquery eitherOf _ rfl hread
  have hall : ∀ field value, (field, value) ∈ [("id", either)] → ∃ s, Selector.Reads value s := by
    intro field value hmem
    cases List.mem_singleton.mp hmem
    exact hreadable either hunmarked
  obtain ⟨selectors, hselectors⟩ := hsucceeds.mpr hall
  obtain ⟨s, hget, hreads, hdocumented⟩ := hfields selectors hselectors "id" either rfl
  rw [hselectors] at hquery
  refine ⟨selectors, s, ?_, hget, hreads, ?_⟩
  · cases hresult : eitherOf.selectors with
    | error e =>
        rw [hresult] at hquery
        cases hquery
    | ok found =>
        rw [hresult] at hquery
        cases hquery
        rfl
  · intro hmeant
    exact ((hdocumented hkeys).mp hmeant).1 ⟨_, _, rfl⟩

end Selectors

end Intake
