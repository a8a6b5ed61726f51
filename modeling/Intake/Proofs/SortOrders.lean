import Intake.Clause.Order
import Intake.Proofs.Outcome
import Intake.Proofs.WrittenValues
import Mathlib.Algebra.Ring.Parity
import Mathlib.Data.List.Induction
import Mathlib.Data.List.Nodup

/-!
# Sort orders

However orders are built, a field stands where it came first and has the direction that came with it
last.  Texts of the same pairs are therefore read as the same orders, and orders that are written
are read back.

Main results:

- Definition {lit}`Orders.LastGives` says which direction the last pair of a field has.
- Theorem {lit}`Orders.fields_ofPairs`: the fields stand in the order in which they came first.
- Theorem {lit}`Orders.get?_ofPairs_eq_some_iff`: the direction of a field is the one that came
  last.
- Theorem {lit}`Orders.exists_read?_iff`: a flat array is accepted if it has texts only, an even
  number of them.
- Theorem {lit}`Orders.read?_write`: orders with one direction for each field are read back.
- Theorem {lit}`Orders.Built.keeps_last` puts this together for orders that are built in any way.
-/

namespace Intake.Orders

variable {orders : Orders} {pairs : List (String × String)} {field direction : String}

/-! ## Fields and directions -/

/-- The fields, in order of priority. -/
def fields (orders : Orders) : List String :=
  orders.map Prod.fst

theorem fields_cons (entry : String × String) (rest : Orders) :
    fields (entry :: rest) = entry.1 :: fields rest :=
  rfl

theorem fields_append (first second : Orders) :
    fields (first ++ second) = fields first ++ fields second :=
  List.map_append

/-- The last pair of the field has the direction. -/
def LastGives (pairs : List (String × String)) (field direction : String) : Prop :=
  ∃ before after, pairs = before ++ (field, direction) :: after ∧ field ∉ fields after

theorem get?_cons (entry : String × String) (rest : Orders) (other : String) :
    get? (entry :: rest) other = if other = entry.1 then some entry.2 else get? rest other := by
  rw [get?, List.lookup_cons]
  cases heq : other == entry.1 with
  | true => rw [if_pos (beq_iff_eq.mp heq)]
  | false => rw [if_neg (beq_eq_false_iff_ne.mp heq), get?]

theorem not_lastGives_nil : ¬ LastGives [] field direction := by
  rintro ⟨before, after, h, -⟩
  simp at h

/-- The last pair of all gives its field a direction, and the other fields keep theirs. -/
theorem lastGives_concat_iff {pair : String × String} :
    LastGives (pairs ++ [pair]) field direction ↔
      if field = pair.1 then direction = pair.2 else LastGives pairs field direction := by
  constructor
  · rintro ⟨before, after, h, hafter⟩
    -- Either nothing comes after the pair, or what comes after it ends with the new one.
    rcases List.eq_nil_or_concat after with rfl | ⟨after, last, rfl⟩
    · have hlast := (List.append_inj' h rfl).2
      rw [List.singleton_inj] at hlast
      rw [hlast, if_pos rfl]
    · rw [List.concat_eq_append, ← List.cons_append, ← List.append_assoc] at h
      obtain ⟨hpairs, hlast⟩ := List.append_inj' h rfl
      rw [List.singleton_inj] at hlast
      rw [hlast, if_neg fun hfield => hafter (by simp [fields, hfield])]
      exact ⟨before, after, hpairs, fun hmem => hafter (by
        rw [fields, List.concat_eq_append, List.map_append]
        exact List.mem_append_left _ hmem)⟩
  · split
    · next hfield =>
      rintro rfl
      exact ⟨pairs, [], by rw [hfield], List.not_mem_nil⟩
    · next hfield =>
      rintro ⟨before, after, rfl, hafter⟩
      refine ⟨before, after ++ [pair], by simp, ?_⟩
      rw [fields, List.map_append, List.mem_append, not_or]
      exact ⟨hafter, by simpa using hfield⟩

/-! ## One field put in -/

/-- A field that is put in stands last, unless it stands somewhere already. -/
theorem fields_insert (orders : Orders) (field direction : String) :
    (orders.insert field direction).fields =
      if field ∈ orders.fields then orders.fields else orders.fields ++ [field] := by
  induction orders with
  | nil => rfl
  | cons entry rest ih =>
      obtain ⟨f, d⟩ := entry
      rw [insert]
      split
      · next heq => rw [fields_cons, fields_cons, heq, if_pos List.mem_cons_self]
      · next hne =>
        rw [fields_cons, ih, fields_cons]
        by_cases hmem : field ∈ fields rest
        · rw [if_pos hmem, if_pos (List.mem_cons_of_mem f hmem)]
        · rw [if_neg hmem, if_neg (List.not_mem_cons_of_ne_of_not_mem (Ne.symm hne) hmem),
            List.cons_append]

/-- A field that is put in has its direction, and the others keep theirs. -/
theorem get?_insert (orders : Orders) (field direction other : String) :
    (orders.insert field direction).get? other =
      if other = field then some direction else orders.get? other := by
  induction orders with
  | nil => rw [insert, get?_cons]
  | cons entry rest ih =>
      obtain ⟨f, d⟩ := entry
      rw [insert]
      split
      · next heq =>
        rw [get?_cons, get?_cons, heq]
        split <;> rfl
      · next hne =>
        rw [get?_cons, get?_cons, ih]
        split
        · next heq => rw [if_neg fun h => hne (heq.symm.trans h)]
        · rfl

/-- A field that stands nowhere is put last. -/
theorem insert_of_not_mem (h : field ∉ orders.fields) (direction : String) :
    orders.insert field direction = orders ++ [(field, direction)] := by
  induction orders with
  | nil => rfl
  | cons entry rest ih =>
      rw [fields_cons, List.mem_cons, not_or] at h
      rw [insert, if_neg (Ne.symm h.1), ih h.2, List.cons_append]

/-! ## Pairs put in one after the other -/

theorem ofPairs_concat (pairs : List (String × String)) (field direction : String) :
    ofPairs (pairs ++ [(field, direction)]) = (ofPairs pairs).insert field direction := by
  rw [ofPairs, insertAll, List.foldl_append]
  rfl

/-- The fields stand in the order in which they came first. -/
theorem fields_ofPairs (pairs : List (String × String)) :
    (ofPairs pairs).fields = (fields pairs).eraseDups := by
  induction pairs using List.reverseRecOn with
  | nil => rfl
  | append_singleton pairs pair ih =>
      have hnew : (fields [pair]).removeAll (fields pairs) =
          if pair.1 ∈ fields pairs then [] else [pair.1] := by
        change [pair.1].filter _ = _
        rw [List.filter_singleton]
        simp
      rw [ofPairs_concat, fields_insert, ih, fields_append, List.eraseDups_append, hnew]
      simp only [List.mem_eraseDups]
      split
      · rw [List.eraseDups_nil, List.append_nil]
      · rfl

/-- No field stands twice. -/
theorem nodup_fields_ofPairs (pairs : List (String × String)) : (ofPairs pairs).fields.Nodup := by
  induction pairs using List.reverseRecOn with
  | nil => exact List.nodup_nil
  | append_singleton pairs pair ih =>
      rw [ofPairs_concat, fields_insert]
      split
      · exact ih
      · next hmem =>
        rw [← List.concat_eq_append]
        exact List.Nodup.concat hmem ih

/-- The direction of a field is the one that came last. -/
theorem get?_ofPairs_eq_some_iff :
    (ofPairs pairs).get? field = some direction ↔ LastGives pairs field direction := by
  induction pairs using List.reverseRecOn with
  | nil => exact iff_of_false nofun not_lastGives_nil
  | append_singleton pairs pair ih =>
      rw [ofPairs_concat, get?_insert, lastGives_concat_iff]
      split
      · rw [Option.some_inj, eq_comm]
      · exact ih

/-- With one direction for each field, a field has the direction that it stands with. -/
theorem mem_iff_get?_eq_some (h : orders.fields.Nodup) :
    (field, direction) ∈ orders ↔ orders.get? field = some direction := by
  rw [get?, List.lookup_eq_some_iff]
  constructor
  · intro hmem
    obtain ⟨before, after, rfl⟩ := List.append_of_mem hmem
    refine ⟨before, after, rfl, fun pair hpair => ?_⟩
    rw [fields_append, List.nodup_append] at h
    have hne := h.2.2 pair.1 (List.mem_map_of_mem hpair) field (by simp [fields])
    exact bne_iff_ne.mpr (Ne.symm hne)
  · rintro ⟨before, after, rfl, -⟩
    exact List.mem_append_right before List.mem_cons_self

/-- Pairs with different fields are put in as they are. -/
theorem ofPairs_eq_self (h : (fields pairs).Nodup) : ofPairs pairs = pairs := by
  induction pairs using List.reverseRecOn with
  | nil => rfl
  | append_singleton pairs pair ih =>
      rw [fields_append, List.nodup_append] at h
      have hmem : pair.1 ∉ fields pairs := fun hmem => h.2.2 _ hmem _ List.mem_cons_self rfl
      rw [ofPairs_concat, ih h.1, insert_of_not_mem hmem]

/-! ## Pairs in texts -/

/-- The entries of the object that has the pairs. -/
def objectEntries (pairs : List (String × String)) : List (String × Json) :=
  pairs.map fun pair => (pair.1, .string pair.2)

/-- The items of the flat array that has the pairs. -/
def arrayItems (pairs : List (String × String)) : List Json :=
  pairs.flatMap fun pair => [.string pair.1, .string pair.2]

/-- The text is one of an object or of a flat array that has the pairs. -/
inductive Carries (pairs : List (String × String)) (text : String) : Prop where
  /-- An object. -/
  | object (h : Json.readOrdered text = .ok (.object (objectEntries pairs)))
  /-- A flat array. -/
  | array (h : Json.readOrdered text = .ok (.array (arrayItems pairs)))

theorem readText_eq_ok_iff {value : Json} {s : String} :
    value.readText = .ok s ↔ value = .string s := by
  cases value <;> simp [Json.readText]

theorem readEntries_objectEntries (pairs : List (String × String)) :
    readEntries (objectEntries pairs) = .ok pairs := by
  induction pairs with
  | nil => rfl
  | cons pair rest ih =>
      rw [objectEntries, List.map_cons, readEntries, ← objectEntries, ih]
      rfl

/-- The items of an array are read as the pairs whose items they are. -/
theorem readItems_eq_ok_iff {items : List Json} :
    readItems items = .ok pairs ↔ items = arrayItems pairs := by
  fun_induction readItems items generalizing pairs with
  | case1 => cases pairs <;> simp [arrayItems]
  | case2 last =>
      refine iff_of_false (fun h => ?_) fun h => ?_
      · obtain ⟨field, -, h⟩ := Outcome.bind_eq_ok.mp h
        cases h
      · cases pairs <;> simp [arrayItems] at h
  | case3 first second rest ih =>
      constructor
      · intro h
        obtain ⟨field, hfirst, h⟩ := Outcome.bind_eq_ok.mp h
        obtain ⟨direction, hsecond, h⟩ := Outcome.bind_eq_ok.mp h
        obtain ⟨others, hrest, h⟩ := Outcome.bind_eq_ok.mp h
        cases h
        rw [readText_eq_ok_iff.mp hfirst, readText_eq_ok_iff.mp hsecond, ih.mp hrest]
        rfl
      · intro h
        cases pairs with
        | nil => cases h
        | cons pair others =>
            rw [arrayItems, List.flatMap_cons, ← arrayItems] at h
            cases h
            rw [ih.mpr rfl]
            rfl

theorem read?_eq_some_iff {text : String} :
    read? text = some orders ↔
      ∃ value, Json.readOrdered text = .ok value ∧ ofJson value = .ok orders := by
  simp only [read?, Option.bind_eq_some_iff, Outcome.toOption_eq_some]

/-- A text is read as the orders of its pairs. -/
theorem Carries.read?_eq {text : String} (h : Carries pairs text) :
    read? text = some (ofPairs pairs) := by
  rw [read?_eq_some_iff]
  cases h with
  | object h =>
      exact ⟨_, h, Outcome.map_eq_ok.mpr ⟨pairs, readEntries_objectEntries pairs, rfl⟩⟩
  | array h => exact ⟨_, h, Outcome.map_eq_ok.mpr ⟨pairs, readItems_eq_ok_iff.mpr rfl, rfl⟩⟩

/-- The items are texts, an even number of them. -/
def Paired (items : List Json) : Prop :=
  (∀ item ∈ items, ∃ s, item = .string s) ∧ Even items.length

theorem paired_arrayItems (pairs : List (String × String)) : Paired (arrayItems pairs) := by
  constructor
  · intro item hitem
    obtain ⟨pair, -, hitem⟩ := List.mem_flatMap.mp hitem
    rcases List.mem_pair.mp hitem with rfl | rfl
    · exact ⟨pair.1, rfl⟩
    · exact ⟨pair.2, rfl⟩
  · induction pairs with
    | nil => exact Even.zero
    | cons pair rest ih => exact ih.add even_two

/-- Items are those of pairs when they are texts, an even number of them. -/
theorem paired_iff {items : List Json} : Paired items ↔ ∃ pairs, items = arrayItems pairs := by
  constructor
  · intro h
    induction items using readItems.induct with
    | case1 => exact ⟨[], rfl⟩
    | case2 last => exact (Nat.not_even_one h.2).elim
    | case3 first second rest ih =>
        obtain ⟨htexts, hlength⟩ := h
        obtain ⟨field, rfl⟩ := htexts first List.mem_cons_self
        obtain ⟨direction, rfl⟩ := htexts second (List.mem_cons_of_mem _ List.mem_cons_self)
        have hrest : Paired rest :=
          ⟨fun item h => htexts item (List.mem_cons_of_mem _ (List.mem_cons_of_mem _ h)),
            by simpa [Nat.even_add_one] using hlength⟩
        obtain ⟨pairs, rfl⟩ := ih hrest
        exact ⟨(field, direction) :: pairs, rfl⟩
  · rintro ⟨pairs, rfl⟩
    exact paired_arrayItems pairs

/-- A flat array is accepted if it has texts only, an even number of them. -/
theorem exists_read?_iff {text : String} {items : List Json}
    (h : Json.readOrdered text = .ok (.array items)) :
    (∃ orders, read? text = some orders) ↔ Paired items := by
  rw [paired_iff]
  constructor
  · rintro ⟨orders, hread⟩
    obtain ⟨value, hvalue, hread⟩ := read?_eq_some_iff.mp hread
    rw [h] at hvalue
    cases hvalue
    obtain ⟨pairs, hitems, -⟩ := Outcome.map_eq_ok.mp hread
    exact ⟨pairs, readItems_eq_ok_iff.mp hitems⟩
  · rintro ⟨pairs, rfl⟩
    exact ⟨ofPairs pairs, (Carries.array h).read?_eq⟩

/-! ## Orders written and read back -/

theorem numberless_objectEntries (pairs : List (String × String)) :
    Json.NumberlessEntries (objectEntries pairs) := by
  induction pairs with
  | nil => trivial
  | cons pair rest ih => exact ⟨trivial, ih⟩

theorem levelsEntries_objectEntries (pairs : List (String × String)) :
    Json.levelsEntries (objectEntries pairs) = 0 := by
  induction pairs with
  | nil => rfl
  | cons pair rest ih => exact (Nat.zero_max _).trans ih

theorem numberless_arrayItems (pairs : List (String × String)) :
    Json.NumberlessItems (arrayItems pairs) := by
  induction pairs with
  | nil => trivial
  | cons pair rest ih => exact ⟨trivial, trivial, ih⟩

theorem levelsItems_arrayItems (pairs : List (String × String)) :
    Json.levelsItems (arrayItems pairs) = 0 := by
  induction pairs with
  | nil => rfl
  | cons pair rest ih => exact (Nat.zero_max _).trans ((Nat.zero_max _).trans ih)

/-- There is a text of an object for all pairs, repeated fields included. -/
theorem carries_write_object (pairs : List (String × String)) :
    Carries pairs (Json.object (objectEntries pairs)).write :=
  .object (Json.readOrdered_write (numberless_objectEntries pairs) (by
    rw [Json.levels, levelsEntries_objectEntries]
    decide))

/-- There is a text of a flat array for all pairs. -/
theorem carries_write_array (pairs : List (String × String)) :
    Carries pairs (Json.array (arrayItems pairs)).write :=
  .array (Json.readOrdered_write (numberless_arrayItems pairs) (by
    rw [Json.levels, levelsItems_arrayItems]
    decide))

/-- Orders with one direction for each field are read back. -/
theorem read?_write (h : orders.fields.Nodup) : read? orders.write = some orders := by
  rw [write, toJson, ← objectEntries, (carries_write_object orders).read?_eq, ofPairs_eq_self h]

/-! ## Orders built in any way -/

/-- The orders are built from the pairs in one of the ways there are. -/
inductive Built : List (String × String) → Orders → Prop where
  /-- Pairs are put in one after the other. -/
  | collected (pairs : List (String × String)) : Built pairs (ofPairs pairs)
  /-- The pairs are read from a text. -/
  | read {pairs : List (String × String)} {text : String} {orders : Orders}
    (htext : Carries pairs text) (hread : read? text = some orders) : Built pairs orders
  /-- One more pair is put in. -/
  | inserted {pairs : List (String × String)} {orders : Orders} (field direction : String)
    (hbuilt : Built pairs orders) :
    Built (pairs ++ [(field, direction)]) (orders.insert field direction)

/-- In whatever way orders are built, they are the orders of the pairs. -/
theorem Built.eq_ofPairs (h : Built pairs orders) : orders = ofPairs pairs := by
  induction h with
  | collected pairs => rfl
  | read htext hread =>
      rw [htext.read?_eq] at hread
      exact (Option.some_inj.mp hread).symm
  | inserted field direction hbuilt ih => rw [ih, ofPairs_concat]

/-- In whatever way orders are built from pairs, no field stands twice, the fields stand in the
order in which they came first, and each has the direction that came with it last, also when one
asks for it.  Texts of an object and of a flat array that have the pairs are read as the same
orders; a flat array is accepted exactly if it has texts only, an even number of them; and the
orders are read back when they are written. -/
theorem Built.keeps_last (h : Built pairs orders) :
    orders.fields.Nodup ∧
      orders.fields = (fields pairs).eraseDups ∧
      (∀ field direction,
        (field, direction) ∈ orders ↔ LastGives pairs field direction) ∧
      (∀ field direction,
        orders.get? field = some direction ↔ LastGives pairs field direction) ∧
      (∀ text, Carries pairs text → read? text = some orders) ∧
      (∀ text items, Json.readOrdered text = .ok (.array items) →
        ((∃ orders, read? text = some orders) ↔ Paired items)) ∧
      read? orders.write = some orders := by
  have hget (field direction : String) :
      orders.get? field = some direction ↔ LastGives pairs field direction := by
    rw [h.eq_ofPairs]
    exact get?_ofPairs_eq_some_iff
  have hnodup : orders.fields.Nodup := by
    rw [h.eq_ofPairs]
    exact nodup_fields_ofPairs pairs
  refine ⟨hnodup, ?_, ?_, hget, ?_, fun text items => exists_read?_iff, read?_write hnodup⟩
  · rw [h.eq_ofPairs]
    exact fields_ofPairs pairs
  · intro field direction
    exact (mem_iff_get?_eq_some hnodup).trans (hget field direction)
  · intro text htext
    rw [h.eq_ofPairs]
    exact htext.read?_eq

/-- The pairs of a client that sorts by name and age and turns the names around. -/
def namePairs : List (String × String) :=
  [("name", "asc"), ("age", "asc"), ("name", "desc")]

/-- Names stay in front, and both texts of the pairs and the text of the orders say so. -/
theorem namePairs_keep_last :
    Built namePairs [("name", "desc"), ("age", "asc")] ∧
      get? [("name", "desc"), ("age", "asc")] "name" = some "desc" ∧
      read? (Json.object (objectEntries namePairs)).write =
        some [("name", "desc"), ("age", "asc")] ∧
      read? (Json.array (arrayItems namePairs)).write =
        some [("name", "desc"), ("age", "asc")] ∧
      read? (write [("name", "desc"), ("age", "asc")]) =
        some [("name", "desc"), ("age", "asc")] := by
  have hbuilt : Built namePairs [("name", "desc"), ("age", "asc")] :=
    .inserted "name" "desc" (.collected [("name", "asc"), ("age", "asc")])
  obtain ⟨-, -, -, hget, htexts, -, hwrite⟩ := hbuilt.keeps_last
  refine ⟨hbuilt, (hget "name" "desc").mpr ?_, htexts _ (carries_write_object namePairs),
    htexts _ (carries_write_array namePairs), hwrite⟩
  exact ⟨[("name", "asc"), ("age", "asc")], [], rfl, List.not_mem_nil⟩

end Intake.Orders
