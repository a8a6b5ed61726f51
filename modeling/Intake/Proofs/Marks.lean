import Intake.Proofs.Canonical

/-!
# Values without a mark

A value in which no object begins with the mark of an embedded text stands for itself, up to the
order of keys.  A value with a mark stands for another one: an embedded text is read as a value
with no more characters than the text has, and the mark itself is gone.

Main results:

- Theorem {lit}`Json.canonical_of_unmarked`: without a mark the canonical form is
  {lit}`Json.sorted`.
- Theorems {lit}`Json.textLength_canonical_le` and {lit}`Json.textLength_canonical_lt`: what a
  value stands for has no more characters, and less if there is a mark.
- Theorem {lit}`Json.canonical_eq_sorted_iff`: without repeated keys a value stands for itself
  exactly when it is without a mark.
-/

namespace Intake
namespace Json

/-! ## Values without the mark -/

mutual

/-- The value with the entries of every object in key order, the last one under a repeated key. -/
def sorted : Json → Json
  | .array items => .array (sortedItems items)
  | .object entries => .object (Entries.ofList (sortedEntries entries))
  | value => value
termination_by structural value => value

/-- The items with the entries of every object in key order. -/
def sortedItems : List Json → List Json
  | [] => []
  | item :: rest => sorted item :: sortedItems rest
termination_by structural items => items

/-- The entries, in their own order, with those of every object below them in key order. -/
def sortedEntries : List (String × Json) → List (String × Json)
  | [] => []
  | (key, value) :: rest => (key, sorted value) :: sortedEntries rest
termination_by structural entries => entries

end

mutual

/-- No object in the value begins with the mark of an embedded text. -/
def Unmarked : Json → Prop
  | .array items => UnmarkedItems items
  | .object entries => embedding? entries = none ∧ UnmarkedEntries entries
  | _ => True
termination_by structural value => value

/-- No object in the items begins with the mark. -/
def UnmarkedItems : List Json → Prop
  | [] => True
  | item :: rest => Unmarked item ∧ UnmarkedItems rest
termination_by structural items => items

/-- No object in the values of the entries begins with the mark. -/
def UnmarkedEntries : List (String × Json) → Prop
  | [] => True
  | (_, value) :: rest => Unmarked value ∧ UnmarkedEntries rest
termination_by structural entries => entries

end

section

variable {readText : String → Except SyntaxError Json}

mutual

/-- Without the mark nothing is read, and the keys are put in order alone. -/
theorem canonicalWith_of_unmarked (value : Json) (h : value.Unmarked) :
    canonicalWith readText value = .ok value.sorted := by
  match value with
  | .array items =>
      rw [Unmarked] at h
      rw [canonicalWith, canonicalItemsWith_of_unmarked items h, sorted]
      rfl
  | .object entries =>
      rw [Unmarked] at h
      rw [canonicalWith, h.1, sorted]
      simp only [canonicalEntriesWith_of_unmarked entries h.2]
      rfl
  | .null | .bool _ | .number _ | .string _ => rfl
termination_by structural value

theorem canonicalItemsWith_of_unmarked (items : List Json) (h : UnmarkedItems items) :
    canonicalItemsWith readText items = .ok (sortedItems items) := by
  match items with
  | [] => rfl
  | item :: rest =>
      rw [UnmarkedItems] at h
      rw [canonicalItemsWith, canonicalWith_of_unmarked item h.1,
        canonicalItemsWith_of_unmarked rest h.2, sortedItems]
      rfl
termination_by structural items

theorem canonicalEntriesWith_of_unmarked (entries : List (String × Json))
    (h : UnmarkedEntries entries) :
    canonicalEntriesWith readText entries = .ok (sortedEntries entries) := by
  match entries with
  | [] => rfl
  | (key, value) :: rest =>
      rw [UnmarkedEntries] at h
      rw [canonicalEntriesWith, canonicalWith_of_unmarked value h.1,
        canonicalEntriesWith_of_unmarked rest h.2, sortedEntries]
      rfl
termination_by structural entries

end

end

/-- Without the mark a value stands for itself, up to the order of keys. -/
theorem canonical_of_unmarked {value : Json} (h : value.Unmarked) :
    value.canonical = .ok value.sorted :=
  canonicalWith_of_unmarked value h

/-! ## Lengths -/

theorem textLengthEntries_insert_le (d : Entries Json) (key : String) (value : Json) :
    textLengthEntries (d.insert key value) ≤
      textLengthEntries d + (key.length + value.textLength) := by
  induction d with
  | nil => simp [Entries.insert, textLengthEntries]
  | cons entry rest ih =>
      obtain ⟨k, v⟩ := entry
      rw [Entries.insert]
      split
      · simp only [textLengthEntries]
        omega
      · split
        · simp only [textLengthEntries]
          omega
        · simp only [textLengthEntries]
          omega

theorem textLengthEntries_insert {d : Entries Json} {key : String} (hkey : key ∉ d.keys)
    (value : Json) :
    textLengthEntries (d.insert key value) =
      textLengthEntries d + (key.length + value.textLength) := by
  induction d with
  | nil => simp [Entries.insert, textLengthEntries]
  | cons entry rest ih =>
      obtain ⟨k, v⟩ := entry
      simp only [Entries.keys, List.map_cons, List.mem_cons, not_or] at hkey
      rw [Entries.insert, if_neg (Ne.symm hkey.1)]
      split
      · simp only [textLengthEntries]
        omega
      · have hrest := ih hkey.2
        simp only [textLengthEntries]
        omega

/-- A list that was put in order has no more characters than before. -/
theorem textLengthEntries_ofList_le (entries : List (String × Json)) :
    textLengthEntries (Entries.ofList entries) ≤ textLengthEntries entries := by
  have hall : ∀ d : Entries Json,
      textLengthEntries (d.insertAll entries) ≤
        textLengthEntries d + textLengthEntries entries := by
    induction entries with
    | nil =>
        intro d
        simp [Entries.insertAll]
    | cons entry rest ih =>
        intro d
        have hinsert := textLengthEntries_insert_le d entry.1 entry.2
        have hrest := ih (d.insert entry.1 entry.2)
        have hstep : d.insertAll (entry :: rest) = (d.insert entry.1 entry.2).insertAll rest := rfl
        rw [hstep]
        simp only [textLengthEntries]
        omega
  have hnil := hall []
  simp only [textLengthEntries] at hnil
  rw [Entries.ofList]
  omega

/-- Without repeated keys it has as many. -/
theorem textLengthEntries_ofList {entries : List (String × Json)}
    (hkeys : (Entries.keys entries).Nodup) :
    textLengthEntries (Entries.ofList entries) = textLengthEntries entries := by
  have hall : ∀ d : Entries Json, (∀ key ∈ Entries.keys entries, key ∉ d.keys) →
      textLengthEntries (d.insertAll entries) =
        textLengthEntries d + textLengthEntries entries := by
    induction entries with
    | nil =>
        intro d _
        simp [Entries.insertAll, textLengthEntries]
    | cons entry rest ih =>
        intro d hnew
        obtain ⟨hkey, hkeys⟩ := List.nodup_cons.mp hkeys
        obtain ⟨hentry, hrest⟩ := List.forall_mem_cons.mp hnew
        have hrest : ∀ key ∈ Entries.keys rest, key ∉ (d.insert entry.1 entry.2).keys := by
          intro key hmem
          rw [Entries.mem_keys_insert, not_or]
          refine ⟨?_, hrest key hmem⟩
          rintro rfl
          exact hkey hmem
        have hinsert := textLengthEntries_insert hentry entry.2
        have hstep : d.insertAll (entry :: rest) = (d.insert entry.1 entry.2).insertAll rest := rfl
        rw [hstep, ih hkeys _ hrest, hinsert]
        simp only [textLengthEntries]
        omega
  have hnil := hall [] (by simp [Entries.keys])
  simp only [textLengthEntries] at hnil
  rw [Entries.ofList]
  omega

section

variable {readText : String → Except SyntaxError Json}

mutual

/-- Where texts are read as values without more characters, no value stands for one with more, and
a value with the mark stands for one with less. -/
theorem textLength_canonicalWith
    (hread : ∀ s value, readText s = .ok value → value.textLength ≤ s.length)
    (value : Json) {value' : Json} (h : canonicalWith readText value = .ok value') :
    value'.textLength ≤ value.textLength ∧
      (¬ value.Unmarked → value'.textLength < value.textLength) := by
  match value with
  | .array items =>
      rw [canonicalWith, Outcome.map_eq_ok] at h
      obtain ⟨items', hitems, rfl⟩ := h
      simp only [textLength, Unmarked]
      exact textLength_canonicalItemsWith hread items hitems
  | .object entries =>
      rw [canonicalWith] at h
      cases hmark : embedding? entries with
      | some embedded =>
          obtain ⟨value, others⟩ := embedded
          rw [hmark] at h
          cases value with
          | string s =>
              obtain ⟨value, hs, hvalue⟩ := Outcome.bind_eq_ok.mp h
              -- The mark has characters of its own, and they are gone in what the text is read as.
              have hmarked := length_lt_of_embedding?_eq hmark
              have hlength := hread s value hs
              split at hvalue
              · cases hvalue
                simp only [textLength]
                exact ⟨by omega, fun _ => by omega⟩
              · cases hvalue
          | null | bool _ | number _ | array _ | object _ => cases h
      | none =>
          rw [hmark] at h
          obtain ⟨entries', hentries, rfl⟩ := Outcome.map_eq_ok.mp h
          obtain ⟨hle, hlt⟩ := textLength_canonicalEntriesWith hread entries hentries
          have hdict := textLengthEntries_ofList_le entries'
          simp only [textLength, Unmarked, hmark, true_and]
          refine ⟨by omega, ?_⟩
          intro hmarked
          have hless := hlt hmarked
          omega
  | .null | .bool _ | .number _ | .string _ =>
      cases h
      exact ⟨Nat.le_refl _, fun hmarked => absurd trivial hmarked⟩
termination_by structural value

theorem textLength_canonicalItemsWith
    (hread : ∀ s value, readText s = .ok value → value.textLength ≤ s.length)
    (items : List Json) {items' : List Json}
    (h : canonicalItemsWith readText items = .ok items') :
    textLengthItems items' ≤ textLengthItems items ∧
      (¬ UnmarkedItems items → textLengthItems items' < textLengthItems items) := by
  match items with
  | [] =>
      cases h
      exact ⟨Nat.le_refl _, fun hmarked => absurd trivial hmarked⟩
  | item :: rest =>
      obtain ⟨item', hitem, htail⟩ := Outcome.bind_eq_ok.mp h
      obtain ⟨rest', hrest, heq⟩ := Outcome.bind_eq_ok.mp htail
      cases heq
      obtain ⟨hitem, hitemLess⟩ := textLength_canonicalWith hread item hitem
      obtain ⟨hrest, hrestLess⟩ := textLength_canonicalItemsWith hread rest hrest
      simp only [textLengthItems, UnmarkedItems]
      refine ⟨by omega, ?_⟩
      intro hmarked
      by_cases hfirst : item.Unmarked
      · have hless := hrestLess fun hrest => hmarked ⟨hfirst, hrest⟩
        omega
      · have hless := hitemLess hfirst
        omega
termination_by structural items

theorem textLength_canonicalEntriesWith
    (hread : ∀ s value, readText s = .ok value → value.textLength ≤ s.length)
    (entries : List (String × Json)) {entries' : List (String × Json)}
    (h : canonicalEntriesWith readText entries = .ok entries') :
    textLengthEntries entries' ≤ textLengthEntries entries ∧
      (¬ UnmarkedEntries entries → textLengthEntries entries' < textLengthEntries entries) := by
  match entries with
  | [] =>
      cases h
      exact ⟨Nat.le_refl _, fun hmarked => absurd trivial hmarked⟩
  | (key, value) :: rest =>
      obtain ⟨value', hvalue, htail⟩ := Outcome.bind_eq_ok.mp h
      obtain ⟨rest', hrest, heq⟩ := Outcome.bind_eq_ok.mp htail
      cases heq
      obtain ⟨hvalue, hvalueLess⟩ := textLength_canonicalWith hread value hvalue
      obtain ⟨hrest, hrestLess⟩ := textLength_canonicalEntriesWith hread rest hrest
      simp only [textLengthEntries, UnmarkedEntries]
      refine ⟨by omega, ?_⟩
      intro hmarked
      by_cases hfirst : value.Unmarked
      · have hless := hrestLess fun hrest => hmarked ⟨hfirst, hrest⟩
        omega
      · have hless := hvalueLess hfirst
        omega
termination_by structural entries

end

end

/-- A text is read as a value with no more characters. -/
theorem textLength_read {s : String} {value : Json} (h : read s = .ok value) :
    value.textLength ≤ s.length := by
  have hlevels : ∀ levels s value, readLevels levels s = .ok value →
      value.textLength ≤ s.length := by
    intro levels
    induction levels with
    | zero =>
        intro s value h
        cases h
    | succ levels ih =>
        intro s value h
        obtain ⟨ordered, hordered, hvalue⟩ := Outcome.bind_eq_ok.mp h
        have hlength := textLength_readOrdered hordered
        have hcanonical := (textLength_canonicalWith ih ordered hvalue).1
        omega
  exact hlevels _ s value h

/-- No value stands for one with more characters. -/
theorem textLength_canonical_le {value value' : Json} (h : value.canonical = .ok value') :
    value'.textLength ≤ value.textLength :=
  (textLength_canonicalWith (fun _ _ => textLength_read) value h).1

/-- A value with the mark stands for one with less characters. -/
theorem textLength_canonical_lt {value value' : Json} (hmarked : ¬ value.Unmarked)
    (h : value.canonical = .ok value') : value'.textLength < value.textLength :=
  (textLength_canonicalWith (fun _ _ => textLength_read) value h).2 hmarked

/-! ## Values without repeated keys -/

mutual

/-- No object in the value repeats a key. -/
def DistinctKeys : Json → Prop
  | .array items => DistinctKeysItems items
  | .object entries => (Entries.keys entries).Nodup ∧ DistinctKeysEntries entries
  | _ => True
termination_by structural value => value

/-- No object in the items repeats a key. -/
def DistinctKeysItems : List Json → Prop
  | [] => True
  | item :: rest => DistinctKeys item ∧ DistinctKeysItems rest
termination_by structural items => items

/-- No object in the values of the entries repeats a key. -/
def DistinctKeysEntries : List (String × Json) → Prop
  | [] => True
  | (_, value) :: rest => DistinctKeys value ∧ DistinctKeysEntries rest
termination_by structural entries => entries

end

theorem keys_sortedEntries (entries : List (String × Json)) :
    Entries.keys (sortedEntries entries) = Entries.keys entries := by
  induction entries with
  | nil => rfl
  | cons entry rest ih =>
      simp only [Entries.keys] at ih
      rw [sortedEntries, Entries.keys, Entries.keys, List.map_cons, List.map_cons, ih]

mutual

/-- Without repeated keys no character is lost when the keys are put in order. -/
theorem textLength_sorted (value : Json) (h : value.DistinctKeys) :
    value.sorted.textLength = value.textLength := by
  match value with
  | .array items =>
      rw [DistinctKeys] at h
      simp only [sorted, textLength]
      exact textLengthItems_sorted items h
  | .object entries =>
      rw [DistinctKeys] at h
      have hkeys : (Entries.keys (sortedEntries entries)).Nodup := by
        rw [keys_sortedEntries]
        exact h.1
      simp only [sorted, textLength]
      rw [textLengthEntries_ofList hkeys, textLengthEntries_sorted entries h.2]
  | .null | .bool _ | .number _ | .string _ => rfl
termination_by structural value

theorem textLengthItems_sorted (items : List Json) (h : DistinctKeysItems items) :
    textLengthItems (sortedItems items) = textLengthItems items := by
  match items with
  | [] => rfl
  | item :: rest =>
      rw [DistinctKeysItems] at h
      simp only [sortedItems, textLengthItems]
      rw [textLength_sorted item h.1, textLengthItems_sorted rest h.2]
termination_by structural items

theorem textLengthEntries_sorted (entries : List (String × Json))
    (h : DistinctKeysEntries entries) :
    textLengthEntries (sortedEntries entries) = textLengthEntries entries := by
  match entries with
  | [] => rfl
  | (key, value) :: rest =>
      rw [DistinctKeysEntries] at h
      simp only [sortedEntries, textLengthEntries]
      rw [textLength_sorted value h.1, textLengthEntries_sorted rest h.2]
termination_by structural entries

end

/-- A value without repeated keys stands for itself, up to the order of keys, exactly when it is
without the mark. -/
theorem canonical_eq_sorted_iff {value : Json} (h : value.DistinctKeys) :
    value.canonical = .ok value.sorted ↔ value.Unmarked := by
  constructor
  · intro hcanonical
    by_contra hmarked
    have hless := textLength_canonical_lt hmarked hcanonical
    have hlength := textLength_sorted value h
    omega
  · exact canonical_of_unmarked

end Json
end Intake
