import Intake.Proofs.FilterForms

/-!
# Filters there and back

A filter that is turned into a value states every condition in full, so that none is read back as
a bare value, whatever its own value looks like.  The values themselves are read once more, and an
object whose least key is the mark of an embedded text does not survive that: keys are in order by
then, and so the mark is the first one.  Without such objects a filter is what it was.

Main results:

- {lit}`Json.InKeyOrder` says that a value has the keys of its objects in order, which theorem
  {lit}`Json.InKeyOrder.of_canonical` has for all values that are read.
- Theorem {lit}`Json.canonical_eq_self_iff`: a value stands for itself exactly if it is in key order
  and without a mark.
- Theorem {lit}`Selector.ofJson_toJson_iff`: a condition is read back with its predicate and with
  what its value stands for.
- Theorem {lit}`Selectors.ofJson_toJson_eq_ok_iff`: so it is for every condition of a filter.
- Theorem {lit}`Selectors.round_trip` puts this together, for the conditions on columns too.
-/

namespace Intake

/-! ## Values in key order -/

namespace Json

mutual

/-- The keys of every object in the value increase strictly. -/
def InKeyOrder : Json → Prop
  | .array items => InKeyOrderItems items
  | .object entries => Entries.Sorted entries ∧ InKeyOrderEntries entries
  | _ => True
termination_by structural value => value

/-- The keys of every object in the items increase strictly. -/
def InKeyOrderItems : List Json → Prop
  | [] => True
  | item :: rest => InKeyOrder item ∧ InKeyOrderItems rest
termination_by structural items => items

/-- The keys of every object in the values of the entries increase strictly. -/
def InKeyOrderEntries : List (String × Json) → Prop
  | [] => True
  | (_, value) :: rest => InKeyOrder value ∧ InKeyOrderEntries rest
termination_by structural entries => entries

end

mutual

/-- Keys that increase strictly are in order already. -/
theorem InKeyOrder.sorted_eq (value : Json) (h : value.InKeyOrder) : value.sorted = value := by
  match value with
  | .array items =>
      rw [InKeyOrder] at h
      rw [sorted, InKeyOrderItems.sorted_eq items h]
  | .object entries =>
      rw [InKeyOrder] at h
      rw [sorted, InKeyOrderEntries.sorted_eq entries h.2, Entries.ofList_eq_self h.1]
  | .null | .bool _ | .number _ | .string _ => rfl
termination_by structural value

theorem InKeyOrderItems.sorted_eq (items : List Json) (h : InKeyOrderItems items) :
    sortedItems items = items := by
  match items with
  | [] => rfl
  | item :: rest =>
      rw [InKeyOrderItems] at h
      rw [sortedItems, InKeyOrder.sorted_eq item h.1, InKeyOrderItems.sorted_eq rest h.2]
termination_by structural items

theorem InKeyOrderEntries.sorted_eq (entries : List (String × Json))
    (h : InKeyOrderEntries entries) : sortedEntries entries = entries := by
  match entries with
  | [] => rfl
  | (key, value) :: rest =>
      rw [InKeyOrderEntries] at h
      rw [sortedEntries, InKeyOrder.sorted_eq value h.1, InKeyOrderEntries.sorted_eq rest h.2]
termination_by structural entries

end

mutual

/-- Keys that increase strictly are not repeated. -/
theorem InKeyOrder.distinctKeys (value : Json) (h : value.InKeyOrder) : value.DistinctKeys := by
  match value with
  | .array items =>
      rw [InKeyOrder] at h
      rw [DistinctKeys]
      exact InKeyOrderItems.distinctKeys items h
  | .object entries =>
      rw [InKeyOrder] at h
      rw [DistinctKeys]
      exact ⟨Entries.nodup_keys h.1, InKeyOrderEntries.distinctKeys entries h.2⟩
  | .null | .bool _ | .number _ | .string _ => trivial
termination_by structural value

theorem InKeyOrderItems.distinctKeys (items : List Json) (h : InKeyOrderItems items) :
    DistinctKeysItems items := by
  match items with
  | [] => trivial
  | item :: rest =>
      rw [InKeyOrderItems] at h
      rw [DistinctKeysItems]
      exact ⟨InKeyOrder.distinctKeys item h.1, InKeyOrderItems.distinctKeys rest h.2⟩
termination_by structural items

theorem InKeyOrderEntries.distinctKeys (entries : List (String × Json))
    (h : InKeyOrderEntries entries) : DistinctKeysEntries entries := by
  match entries with
  | [] => trivial
  | (key, value) :: rest =>
      rw [InKeyOrderEntries] at h
      rw [DistinctKeysEntries]
      exact ⟨InKeyOrder.distinctKeys value h.1, InKeyOrderEntries.distinctKeys rest h.2⟩
termination_by structural entries

end

/-! ## Values that are read -/

theorem inKeyOrderEntries_iff {entries : List (String × Json)} :
    InKeyOrderEntries entries ↔ ∀ entry ∈ entries, entry.2.InKeyOrder := by
  induction entries with
  | nil => simp [InKeyOrderEntries]
  | cons entry rest ih =>
      obtain ⟨key, value⟩ := entry
      rw [InKeyOrderEntries, List.forall_mem_cons, ih]

section

variable {readText : String → Except SyntaxError Json}

mutual

/-- Where embedded texts are read as values in key order, canonical forms are in key order. -/
theorem InKeyOrder.of_canonicalWith
    (hread : ∀ s value, readText s = .ok value → value.InKeyOrder) (value : Json) {value' : Json}
    (h : canonicalWith readText value = .ok value') : value'.InKeyOrder := by
  match value with
  | .array items =>
      rw [canonicalWith] at h
      obtain ⟨items', hitems, rfl⟩ := Outcome.map_eq_ok.mp h
      rw [InKeyOrder]
      exact InKeyOrderItems.of_canonicalItemsWith hread items hitems
  | .object entries =>
      rw [canonicalWith] at h
      split at h
      · next embedded others _ =>
        -- The value of an embedded text takes the place of the object.
        cases embedded with
        | string s =>
            obtain ⟨value, hvalue, hrest⟩ := Outcome.bind_eq_ok.mp h
            split at hrest
            · cases hrest
              exact hread s _ hvalue
            · cases hrest
        | null | bool _ | number _ | array _ | object _ => cases h
      · obtain ⟨entries', hentries, rfl⟩ := Outcome.map_eq_ok.mp h
        have hvalues := InKeyOrderEntries.of_canonicalEntriesWith hread entries hentries
        rw [inKeyOrderEntries_iff] at hvalues
        rw [InKeyOrder, inKeyOrderEntries_iff]
        exact ⟨Entries.sorted_ofList entries',
          fun entry hentry => hvalues entry (Entries.mem_of_mem_ofList hentry)⟩
  | .null | .bool _ | .number _ | .string _ =>
      cases h
      trivial
termination_by structural value

theorem InKeyOrderItems.of_canonicalItemsWith
    (hread : ∀ s value, readText s = .ok value → value.InKeyOrder) (items : List Json)
    {items' : List Json} (h : canonicalItemsWith readText items = .ok items') :
    InKeyOrderItems items' := by
  match items with
  | [] =>
      cases h
      trivial
  | item :: rest =>
      rw [canonicalItemsWith] at h
      obtain ⟨item', hitem, h⟩ := Outcome.bind_eq_ok.mp h
      obtain ⟨rest', hrest, h⟩ := Outcome.bind_eq_ok.mp h
      cases h
      rw [InKeyOrderItems]
      exact ⟨InKeyOrder.of_canonicalWith hread item hitem,
        InKeyOrderItems.of_canonicalItemsWith hread rest hrest⟩
termination_by structural items

theorem InKeyOrderEntries.of_canonicalEntriesWith
    (hread : ∀ s value, readText s = .ok value → value.InKeyOrder)
    (entries : List (String × Json)) {entries' : List (String × Json)}
    (h : canonicalEntriesWith readText entries = .ok entries') :
    InKeyOrderEntries entries' := by
  match entries with
  | [] =>
      cases h
      trivial
  | (key, value) :: rest =>
      rw [canonicalEntriesWith] at h
      obtain ⟨value', hvalue, h⟩ := Outcome.bind_eq_ok.mp h
      obtain ⟨rest', hrest, h⟩ := Outcome.bind_eq_ok.mp h
      cases h
      rw [InKeyOrderEntries]
      exact ⟨InKeyOrder.of_canonicalWith hread value hvalue,
        InKeyOrderEntries.of_canonicalEntriesWith hread rest hrest⟩
termination_by structural entries

end

end

theorem InKeyOrder.of_readLevels {levels : Nat} {s : String} {value : Json}
    (h : readLevels levels s = .ok value) : value.InKeyOrder := by
  induction levels generalizing s value with
  | zero => cases h
  | succ levels ih =>
      obtain ⟨raw, -, hvalue⟩ := Outcome.bind_eq_ok.mp h
      exact InKeyOrder.of_canonicalWith (fun _ _ hread => ih hread) raw hvalue

/-- What a value stands for is in key order. -/
theorem InKeyOrder.of_canonical {value value' : Json} (h : value.canonical = .ok value') :
    value'.InKeyOrder :=
  InKeyOrder.of_canonicalWith (fun _ _ hread => InKeyOrder.of_readLevels hread) value h

/-- A value stands for itself exactly if it is in key order and without the mark. -/
theorem canonical_eq_self_iff {value : Json} :
    value.canonical = .ok value ↔ value.InKeyOrder ∧ value.Unmarked := by
  have hsorted : value.InKeyOrder → (value.canonical = .ok value ↔ value.Unmarked) := by
    intro h
    rw [← canonical_eq_sorted_iff (InKeyOrder.distinctKeys value h), InKeyOrder.sorted_eq value h]
  constructor
  · intro h
    exact ⟨.of_canonical h, (hsorted (.of_canonical h)).mp h⟩
  · rintro ⟨horder, hunmarked⟩
    exact (hsorted horder).mpr hunmarked

end Json

/-! ## Single conditions -/

namespace Selector

/-- The second condition has the predicate of the first one and the value that its value stands
for. -/
structure StandsFor (s s' : Selector) : Prop where
  /-- The predicate is the same, character by character. -/
  predicate : s'.predicate = s.predicate
  /-- The value is what the first one stands for. -/
  value : s.value.canonical = .ok s'.value

/-- A condition is stated in full, and so it is read back with its predicate and with what its
value stands for. -/
theorem ofJson_toJson_iff {s s' : Selector} : ofJson s.toJson = .ok s' ↔ s.StandsFor s' := by
  have hexplicit : explicit? s.toJson = some s := rfl
  rw [ofJson, hexplicit, Outcome.mapError_eq_ok, Outcome.map_eq_ok]
  constructor
  · rintro ⟨meaning, stands, rfl⟩
    exact ⟨rfl, stands⟩
  · rintro ⟨hpredicate, stands⟩
    exact ⟨s'.value, stands, by rw [← hpredicate]⟩

/-- The value of a condition that is read is in key order. -/
theorem inKeyOrder_of_ofJson {value : Json} {s : Selector} (h : ofJson value = .ok s) :
    s.value.InKeyOrder := by
  rw [ofJson, Outcome.mapError_eq_ok] at h
  split at h
  · obtain ⟨meaning, hmeaning, rfl⟩ := Outcome.map_eq_ok.mp h
    exact .of_canonical hmeaning
  · obtain ⟨meaning, hmeaning, rfl⟩ := Outcome.map_eq_ok.mp h
    have hvalue : (bare meaning).value = meaning := by
      cases meaning <;> rfl
    rw [hvalue]
    exact .of_canonical hmeaning

end Selector

/-! ## Filters -/

namespace Selectors

variable {selectors : Selectors}

/-- A filter that is read has values in key order. -/
theorem inKeyOrder_of_ofJson {value : Json} (h : ofJson value = .ok selectors) :
    ∀ entry ∈ selectors.entries, entry.2.value.InKeyOrder := by
  cases value with
  | object entries =>
      obtain ⟨conditions, hconditions, rfl⟩ := ofJson_object_eq_ok.mp h
      intro condition hmem
      obtain ⟨i, hi, rfl⟩ := List.mem_iff_getElem.mp (Entries.mem_of_mem_ofList hmem)
      have hlength := hconditions.length_eq
      exact Selector.inKeyOrder_of_ofJson (hconditions.get (by omega) hi).2
  | null | bool _ | number _ | string _ | array _ => cases h

/-- Each condition is read back under its field, as the condition that it stands for. -/
theorem ofJson_toJson_eq_ok_iff {found : Selectors} :
    ofJson selectors.toJson = .ok found ↔
      List.Forall₂ (fun entry entry' => entry'.1 = entry.1 ∧ entry.2.StandsFor entry'.2)
        selectors.entries found.entries := by
  rw [toJson, ofJson_object_eq_ok]
  simp only [List.forall₂_map_left_iff, Selector.ofJson_toJson_iff]
  constructor
  · rintro ⟨conditions, hconditions, rfl⟩
    -- The fields are the same and in order, so that no condition is lost or moved.
    have hsorted : Entries.Sorted conditions := by
      rw [Entries.sorted_iff_keys, Entries.keys_of_forall₂ (R := Selector.StandsFor) hconditions]
      exact Entries.sorted_iff_keys.mp selectors.sorted
    rwa [← Entries.ofList_eq_self hsorted] at hconditions
  · intro hfound
    exact ⟨found.entries, hfound, found.ofList_entries⟩

/-- Whatever is read back has the same fields with the same predicates, since every condition is
stated in full, and the values that the values stand for.  A filter is read back as itself exactly
if its values are in key order, as those of every filter that was read are, and have no mark; it
then gives the same conditions on columns as before, or the same refusal. -/
theorem round_trip (selectors : Selectors) :
    (∀ found, ofJson selectors.toJson = .ok found ↔
        List.Forall₂ (fun entry entry' => entry'.1 = entry.1 ∧ entry.2.StandsFor entry'.2)
          selectors.entries found.entries) ∧
      (ofJson selectors.toJson = .ok selectors ↔
        ∀ entry ∈ selectors.entries, entry.2.value.InKeyOrder ∧ entry.2.value.Unmarked) ∧
      (∀ value, ofJson value = .ok selectors →
        ∀ entry ∈ selectors.entries, entry.2.value.InKeyOrder) ∧
      ((∀ entry ∈ selectors.entries, entry.2.value.InKeyOrder ∧ entry.2.value.Unmarked) →
        ∀ fields : FieldMap,
          (ofJson selectors.toJson).map (resolve fields) = .ok (selectors.resolve fields)) := by
  have hself : ofJson selectors.toJson = .ok selectors ↔
      ∀ entry ∈ selectors.entries, entry.2.value.InKeyOrder ∧ entry.2.value.Unmarked := by
    rw [ofJson_toJson_eq_ok_iff, List.forall₂_same]
    refine forall₂_congr fun entry _ => ?_
    rw [← Json.canonical_eq_self_iff]
    exact ⟨fun hstands => hstands.2.value, fun hvalue => ⟨rfl, rfl, hvalue⟩⟩
  refine ⟨fun found => ofJson_toJson_eq_ok_iff, hself, fun value => inKeyOrder_of_ofJson, ?_⟩
  intro hvalues fields
  rw [hself.mpr hvalues]
  rfl

/-- Conditions with values that state conditions themselves. -/
def lookalike : Selectors :=
  .ofList
    [("note", ⟨"eq", .object [("predicate", .string "ne"), ("value", .null)]⟩),
      ("tags", ⟨"in", .array [.string "gt", .object [("value", .array [])]]⟩)]

/-- Notes, which may be filtered by their text. -/
def noteFields : FieldMap :=
  .ofList [("note", { table := "notes", column := "text" })]

theorem lookalike_round_trip :
    ofJson lookalike.toJson = .ok lookalike ∧
      (ofJson lookalike.toJson).map (resolve noteFields) = .ok (.error (.invalidField "tags")) := by
  have hnote : (Json.object [("predicate", .string "ne"), ("value", .null)]).InKeyOrder :=
    ⟨Entries.sorted_iff_keys.mpr (by decide), trivial, trivial, trivial⟩
  have htags : (Json.array [.string "gt", .object [("value", .array [])]]).InKeyOrder :=
    ⟨trivial, ⟨Entries.sorted_iff_keys.mpr (by decide), trivial, trivial⟩, trivial⟩
  have hvalues : ∀ entry ∈ lookalike.entries,
      entry.2.value.InKeyOrder ∧ entry.2.value.Unmarked :=
    List.forall_mem_cons.mpr ⟨⟨hnote, rfl, trivial, trivial, trivial⟩,
      List.forall_mem_singleton.mpr ⟨htags, trivial, ⟨rfl, trivial, trivial⟩, trivial⟩⟩
  obtain ⟨-, hself, -, hresolve⟩ := round_trip lookalike
  exact ⟨hself.mpr hvalues, hresolve hvalues noteFields⟩

/-- A value that has the mark of an embedded text and another key. -/
def marked : Selectors :=
  .ofList [("status", ⟨"eq", .object [(Json.embeddingKey, .ofBit true), ("a", .ofBit true)]⟩)]

/-- The text of a client that writes the other key first. -/
def markedText : String :=
  "\x7b\"status\":\x7b\"predicate\":\"eq\",\"value\":\x7b\"a\":1," ++
    "\"$serde_json::private::RawValue\":1\x7d\x7d\x7d"

/-- In the text the mark is not the first key, and so it is read as any other one.  In key order it
comes first, and the filter is not read back, neither from its value nor from the text of that. -/
theorem marked_not_read_back :
    read? markedText = some marked ∧
      ofJson marked.toJson = .error .noCondition ∧
      read? marked.toJson.write = none := by
  have htext : Json.readOrdered markedText = .ok (.object [("status",
      .object [("predicate", .string "eq"),
        ("value", .object [("a", .ofBit true), (Json.embeddingKey, .ofBit true)])])]) := by
    with_unfolding_all rfl
  have hwritten : Json.readOrdered marked.toJson.write = .ok marked.toJson := by
    with_unfolding_all rfl
  have hvalue : ofJson marked.toJson = .error .noCondition := rfl
  refine ⟨?_, hvalue, ?_⟩
  · rw [read?, htext]
    rfl
  · rw [read?, hwritten]
    exact congrArg Except.toOption hvalue

end Selectors

end Intake
