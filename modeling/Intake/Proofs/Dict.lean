import Intake.Dict
import Mathlib.Data.List.Forall2

/-!
# Look-ups and entries

A look-up and a list of entries say the same, as long as no key has two entries.  In a dictionary
no key has.

Main results:

- Theorem {lit}`Entries.mem_iff_get?_eq_some`: without repeated keys the entries are what look-ups
  find.
- Theorem {lit}`Entries.get?_ofList`: in a list that was put in order a look-up finds the last value
  under the key, and theorem {lit}`Entries.get?_ofList_of_nodup`: where no key is repeated it finds
  what it finds in the list.
- Theorems {lit}`Dict.mem_entries_iff` and {lit}`Dict.get?_insert` tell dictionaries by their
  look-ups.
- Theorems {lit}`Dict.insert_comm` and {lit}`Entries.adjust_comm`: changes under different keys may
  be made in either order.
-/

namespace Intake
namespace Entries

variable {α : Type}

/-! ## Keys -/

theorem mem_keys {d : Entries α} {key : String} : key ∈ d.keys ↔ ∃ value, (key, value) ∈ d := by
  simp [keys]

theorem nodup_keys {d : Entries α} (h : d.Sorted) : d.keys.Nodup := by
  refine (sorted_iff_keys.mp h).imp ?_
  intro a b hab heq
  exact String.lt_irrefl b (heq ▸ hab)

/-! ## Look-ups -/

theorem mem_of_get?_eq_some {d : Entries α} {key : String} {value : α}
    (h : d.get? key = some value) : (key, value) ∈ d := by
  induction d with
  | nil => cases h
  | cons entry rest ih =>
      obtain ⟨k, v⟩ := entry
      simp only [get?] at h
      split at h
      · next heq =>
        cases h
        rw [heq]
        exact List.mem_cons_self
      · exact List.mem_cons_of_mem _ (ih h)

/-- Without repeated keys the entries are what look-ups find. -/
theorem mem_iff_get?_eq_some {d : Entries α} (h : d.keys.Nodup) {key : String} {value : α} :
    (key, value) ∈ d ↔ d.get? key = some value := by
  refine ⟨fun hmem => ?_, mem_of_get?_eq_some⟩
  induction d with
  | nil => cases hmem
  | cons entry rest ih =>
      obtain ⟨k, v⟩ := entry
      have hkeys := List.nodup_cons.mp h
      rcases List.mem_cons.mp hmem with heq | hmem
      · cases heq
        simp [get?]
      · have hne : k ≠ key := by
          rintro rfl
          exact hkeys.1 (mem_keys.mpr ⟨value, hmem⟩)
        simp only [get?, if_neg hne]
        exact ih hkeys.2 hmem

theorem get?_eq_none_iff {d : Entries α} {key : String} : d.get? key = none ↔ key ∉ d.keys := by
  induction d with
  | nil => simp [get?, keys]
  | cons entry rest ih =>
      obtain ⟨k, v⟩ := entry
      by_cases heq : k = key
      · simp [get?, keys, heq]
      · have hne : key ≠ k := fun h => heq h.symm
        simp only [keys] at ih
        simp [get?, keys, heq, hne, ih]

theorem exists_get?_eq_some_iff {d : Entries α} {key : String} :
    (∃ value, d.get? key = some value) ↔ key ∈ d.keys := by
  constructor
  · rintro ⟨value, hvalue⟩
    exact mem_keys.mpr ⟨value, mem_of_get?_eq_some hvalue⟩
  · intro hkey
    cases hget : d.get? key with
    | none => exact absurd hkey (get?_eq_none_iff.mp hget)
    | some value => exact ⟨value, rfl⟩

/-! ## Building -/

theorem mem_insertAll {d : Entries α} {entries : List (String × α)} {entry : String × α}
    (h : entry ∈ d.insertAll entries) : entry ∈ d ∨ entry ∈ entries := by
  induction entries generalizing d with
  | nil => exact Or.inl h
  | cons e rest ih =>
      rcases ih h with h | h
      · rcases mem_insert h with h | h
        · exact Or.inr (h ▸ List.mem_cons_self)
        · exact Or.inl h
      · exact Or.inr (List.mem_cons_of_mem _ h)

theorem mem_of_mem_ofList {entries : List (String × α)} {entry : String × α}
    (h : entry ∈ ofList entries) : entry ∈ entries := by
  rcases mem_insertAll h with h | h
  · cases h
  · exact h

theorem mem_keys_insert {d : Entries α} {key : String} {value : α} {k : String} :
    k ∈ (d.insert key value).keys ↔ key = k ∨ k ∈ d.keys := by
  rw [← exists_get?_eq_some_iff, ← exists_get?_eq_some_iff, get?_insert]
  by_cases h : key = k <;> simp [h]

theorem mem_keys_insertAll {d : Entries α} {entries : List (String × α)} {k : String} :
    k ∈ (d.insertAll entries).keys ↔ k ∈ d.keys ∨ k ∈ keys entries := by
  induction entries generalizing d with
  | nil => simp [insertAll, keys]
  | cons e rest ih =>
      have hstep : d.insertAll (e :: rest) = (d.insert e.1 e.2).insertAll rest := rfl
      have hkeys : keys (e :: rest) = e.1 :: keys rest := rfl
      rw [hstep, ih, mem_keys_insert, hkeys, List.mem_cons]
      grind

/-- A list that was put in order has the keys that it had. -/
theorem mem_keys_ofList {entries : List (String × α)} {k : String} :
    k ∈ (ofList entries).keys ↔ k ∈ keys entries := by
  rw [ofList, mem_keys_insertAll]
  simp [keys]

theorem get?_append (d d' : Entries α) (key : String) :
    get? (d ++ d') key = (d.get? key).or (d'.get? key) := by
  induction d with
  | nil => simp [get?]
  | cons entry rest ih =>
      obtain ⟨k, v⟩ := entry
      by_cases heq : k = key
      · simp [get?, heq]
      · simp [get?, heq, ih]

/-- In a list that was put in order a look-up finds the last value under the key. -/
theorem get?_ofList (entries : List (String × α)) (key : String) :
    (ofList entries).get? key = get? entries.reverse key := by
  have hall : ∀ d : Entries α,
      (d.insertAll entries).get? key = (get? entries.reverse key).or (d.get? key) := by
    induction entries with
    | nil =>
        intro d
        simp [insertAll, get?]
    | cons e rest ih =>
        intro d
        have hstep : d.insertAll (e :: rest) = (d.insert e.1 e.2).insertAll rest := rfl
        rw [hstep, ih, get?_insert, List.reverse_cons, get?_append, Option.or_assoc]
        congr 1
        by_cases heq : e.1 = key <;> simp [get?, heq]
  have hnil := hall []
  rwa [get?, Option.or_none] at hnil

/-- Where no key is repeated a look-up finds the same before and after the list is put in
order. -/
theorem get?_ofList_of_nodup {entries : List (String × α)} (h : (keys entries).Nodup)
    (key : String) : (ofList entries).get? key = get? entries key := by
  have hreverse : (keys entries.reverse).Nodup := by
    rw [keys, List.map_reverse]
    exact (List.reverse_perm _).nodup_iff.mpr h
  apply Option.ext
  intro value
  rw [get?_ofList, ← mem_iff_get?_eq_some hreverse, ← mem_iff_get?_eq_some h, List.mem_reverse]

/-- Entries that are in order already stay as they are. -/
theorem ofList_eq_self {d : Entries α} (h : d.Sorted) : ofList d = d :=
  eq_of_get?_eq (sorted_ofList d) h (get?_ofList_of_nodup (nodup_keys h))

/-- Lists whose values are related, under the same keys, have the same keys. -/
theorem keys_of_forall₂ {β : Type} {R : α → β → Prop} {d : Entries α} {d' : Entries β}
    (h : List.Forall₂ (fun e e' => e'.1 = e.1 ∧ R e.2 e'.2) d d') : d'.keys = d.keys := by
  induction h with
  | nil => rfl
  | cons hentry hrest ih =>
      simp only [keys] at ih
      rw [keys, keys, List.map_cons, List.map_cons, hentry.1, ih]

/-- Where the values of two lists are related, under the same keys, so is what look-ups find. -/
theorem rel_get? {β : Type} {R : α → β → Prop} {d : Entries α} {d' : Entries β}
    (h : List.Forall₂ (fun e e' => e'.1 = e.1 ∧ R e.2 e'.2) d d') (key : String) :
    Option.Rel R (d.get? key) (d'.get? key) := by
  induction h with
  | nil => exact .none
  | @cons e e' rest rest' hentry _ ih =>
      obtain ⟨k, v⟩ := e
      obtain ⟨k', v'⟩ := e'
      obtain ⟨rfl, hvalue⟩ := hentry
      by_cases heq : k' = key
      · simp only [get?, if_pos heq]
        exact .some hvalue
      · simp only [get?, if_neg heq]
        exact ih

/-! ## Two adjustments -/

/-- Values under different keys may be adjusted in either order. -/
theorem adjust_comm (d : Entries α) {key key' : String} (hne : key ≠ key') (f g : α → α) :
    (d.adjust key f).adjust key' g = (d.adjust key' g).adjust key f := by
  simp only [adjust, List.map_map]
  refine List.map_congr_left fun entry _ => ?_
  simp only [Function.comp_apply]
  by_cases hkey : entry.1 = key
  · have hother : entry.1 ≠ key' := fun heq => hne (hkey.symm.trans heq)
    simp only [if_pos hkey, if_neg hother]
  · by_cases hother : entry.1 = key'
    · simp only [if_pos hother, if_neg hkey]
    · simp only [if_neg hkey, if_neg hother]

end Entries

/-! ## Dictionaries -/

namespace Dict

variable {α : Type} {d : Dict α} {key : String} {value : α}

/-- The entries of a dictionary are what look-ups find. -/
theorem mem_entries_iff : (key, value) ∈ d.entries ↔ d.get? key = some value :=
  Entries.mem_iff_get?_eq_some (Entries.nodup_keys d.sorted)

theorem get?_eq_none_iff : d.get? key = none ↔ key ∉ d.keys :=
  Entries.get?_eq_none_iff

theorem mem_keys : key ∈ d.keys ↔ ∃ value, d.get? key = some value :=
  Entries.exists_get?_eq_some_iff.symm

/-- After an insertion the key has the new value and every other key what it had. -/
theorem get?_insert (d : Dict α) (key : String) (value : α) (k : String) :
    (d.insert key value).get? k = if key = k then some value else d.get? k :=
  Entries.get?_insert d.entries key value k

/-- The dictionary of a list of entries without repeated keys finds what the list has. -/
theorem get?_ofList_of_nodup {entries : Entries α} (h : entries.keys.Nodup) (key : String) :
    (ofList entries).get? key = entries.get? key :=
  Entries.get?_ofList_of_nodup h key

/-- A dictionary is the one of its entries. -/
theorem ofList_entries (d : Dict α) : ofList d.entries = d :=
  Dict.ext (Entries.ofList_eq_self d.sorted)

/-- Values under different keys may be put in in either order. -/
theorem insert_comm (d : Dict α) {key key' : String} (hne : key ≠ key') (value value' : α) :
    (d.insert key value).insert key' value' = (d.insert key' value').insert key value := by
  refine ext_get? ?_
  intro k
  simp only [get?_insert]
  by_cases hkey : key = k
  · have hother : key' ≠ k := fun heq => hne (hkey.trans heq.symm)
    simp only [if_pos hkey, if_neg hother]
  · simp only [if_neg hkey]

/-- The dictionary with a function applied to every value. -/
def map {β : Type} (f : α → β) (d : Dict α) : Dict β where
  entries := d.entries.map fun entry => (entry.1, f entry.2)
  sorted := by
    rw [Entries.Sorted, List.pairwise_map]
    exact d.sorted

theorem get?_map {β : Type} (f : α → β) (d : Dict α) (key : String) :
    (d.map f).get? key = (d.get? key).map f := by
  obtain ⟨entries, sorted⟩ := d
  induction entries with
  | nil => rfl
  | cons entry rest ih =>
      obtain ⟨k, value⟩ := entry
      by_cases heq : k = key
      · simp [map, get?, Entries.get?, heq]
      · simpa [map, get?, Entries.get?, heq] using ih (List.pairwise_cons.mp sorted).2

end Dict
end Intake
