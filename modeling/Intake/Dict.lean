/-!
# Entries and dictionaries

Entries stand in a list, each under a key.  A dictionary holds its entries in increasing order of
the keys, one for each key, and so it is determined by what look-ups find in it.

Main results:

- Theorems {lit}`Entries.get?_insert` and {lit}`Entries.get?_adjust` say what a look-up finds after
  a change.
- Theorem {lit}`Entries.sorted_insert` keeps the order, and theorem {lit}`Entries.eq_of_get?_eq`
  identifies entries in order by their look-ups.
- {lit}`Dict` is the type of dictionaries; {lit}`Dict.ofList` builds one from a list.
- Theorem {lit}`Dict.ext_get?` identifies dictionaries by their look-ups.
-/

namespace Intake

/-- Entries under text keys. -/
abbrev Entries (α : Type) := List (String × α)

namespace Entries

variable {α : Type}

/-- The value under a key. -/
def get? : Entries α → String → Option α
  | [], _ => none
  | (k, v) :: rest, key => if k = key then some v else get? rest key

/-- Puts a value under a key, in place of the value that was there. -/
def insert : Entries α → String → α → Entries α
  | [], key, value => [(key, value)]
  | (k, v) :: rest, key, value =>
    if key < k then (key, value) :: (k, v) :: rest
    else if k = key then (key, value) :: rest
    else (k, v) :: insert rest key value

/-- Applies a function to the value under a key, if there is one. -/
def adjust (d : Entries α) (key : String) (f : α → α) : Entries α :=
  d.map fun entry => if entry.1 = key then (entry.1, f entry.2) else entry

/-- Puts the entries of a list in, one after the other, so that the last one under a key stays. -/
def insertAll (d : Entries α) (entries : List (String × α)) : Entries α :=
  entries.foldl (fun d entry => d.insert entry.1 entry.2) d

/-- The entries of a list in key order; the last entry under a key stays. -/
def ofList (entries : List (String × α)) : Entries α :=
  insertAll [] entries

/-- The keys, in the order of the entries. -/
def keys (d : Entries α) : List String :=
  d.map Prod.fst

/-- The keys increase strictly. -/
def Sorted (d : Entries α) : Prop :=
  d.Pairwise fun a b => a.1 < b.1

/-! ## Look-ups -/

/-- After an insertion the key has the new value and every other key what it had. -/
theorem get?_insert (d : Entries α) (key : String) (value : α) (k : String) :
    (d.insert key value).get? k = if key = k then some value else d.get? k := by
  induction d with
  | nil => rfl
  | cons entry rest ih =>
    obtain ⟨k', v'⟩ := entry
    simp only [insert]
    split
    · rfl
    · split
      · next heq =>
        subst heq
        by_cases h : k' = k <;> simp [get?, h]
      · next hne =>
        by_cases h : k' = k
        · subst h
          simp [get?, Ne.symm hne]
        · simp [get?, h, ih]

/-- After an adjustment the key has the new value, if it had one, and every other key what it
had. -/
theorem get?_adjust (d : Entries α) (key : String) (f : α → α) (k : String) :
    (d.adjust key f).get? k = if key = k then (d.get? k).map f else d.get? k := by
  induction d with
  | nil => simp [adjust, get?]
  | cons entry rest ih =>
    obtain ⟨k', v⟩ := entry
    simp only [adjust] at ih
    by_cases hkey : k' = key
    · subst hkey
      by_cases hk : k' = k
      · simp [adjust, get?, hk]
      · simp [adjust, get?, hk, ih]
    · by_cases hk : k' = k
      · subst hk
        simp [adjust, get?, hkey, Ne.symm hkey]
      · simp [adjust, get?, hkey, hk, ih]

/-- An adjustment changes no key. -/
theorem keys_adjust (d : Entries α) (key : String) (f : α → α) :
    (d.adjust key f).keys = d.keys := by
  simp only [adjust, keys, List.map_map]
  refine List.map_congr_left fun entry _ => ?_
  simp only [Function.comp_apply]
  split <;> rfl

/-! ## Order -/

/-- The order is one of the keys alone. -/
theorem sorted_iff_keys {d : Entries α} : d.Sorted ↔ d.keys.Pairwise (· < ·) :=
  (List.pairwise_map (f := Prod.fst) (R := (· < ·))).symm

/-- The entries after an insertion. -/
theorem mem_insert {d : Entries α} {key : String} {value : α} {entry : String × α}
    (h : entry ∈ d.insert key value) : entry = (key, value) ∨ entry ∈ d := by
  induction d with
  | nil => exact Or.inl (List.mem_singleton.mp h)
  | cons e rest ih =>
    obtain ⟨k, v⟩ := e
    simp only [insert] at h
    split at h
    · exact List.mem_cons.mp h
    · split at h
      · rcases List.mem_cons.mp h with h | h
        · exact Or.inl h
        · exact Or.inr (List.mem_cons_of_mem _ h)
      · rcases List.mem_cons.mp h with h | h
        · exact Or.inr (h ▸ List.mem_cons_self)
        · rcases ih h with h | h
          · exact Or.inl h
          · exact Or.inr (List.mem_cons_of_mem _ h)

/-- Two different keys that are not in one order are in the other. -/
theorem lt_of_not_lt_of_ne {a b : String} (h : ¬ a < b) (hne : b ≠ a) : b < a :=
  Decidable.byContradiction fun h' =>
    hne (String.le_antisymm (String.not_lt.mp h) (String.not_lt.mp h'))

/-- An insertion keeps the order. -/
theorem sorted_insert {d : Entries α} (h : d.Sorted) (key : String) (value : α) :
    (d.insert key value).Sorted := by
  induction d with
  | nil => exact List.pairwise_singleton _ _
  | cons e rest ih =>
    obtain ⟨k, v⟩ := e
    have hhead := (List.pairwise_cons.mp h).1
    have htail := (List.pairwise_cons.mp h).2
    simp only [insert]
    split
    · next hlt =>
      refine List.pairwise_cons.mpr ⟨fun e he => ?_, h⟩
      rcases List.mem_cons.mp he with rfl | he
      · exact hlt
      · exact String.lt_trans hlt (hhead e he)
    · split
      · next heq =>
        subst heq
        exact List.pairwise_cons.mpr ⟨hhead, htail⟩
      · next hnlt hne =>
        refine List.pairwise_cons.mpr ⟨fun e he => ?_, ih htail⟩
        rcases mem_insert he with rfl | he
        · exact lt_of_not_lt_of_ne hnlt hne
        · exact hhead e he

/-- Inserting many entries keeps the order. -/
theorem sorted_insertAll {d : Entries α} (h : d.Sorted) (entries : List (String × α)) :
    (d.insertAll entries).Sorted := by
  induction entries generalizing d with
  | nil => exact h
  | cons e rest ih => exact ih (sorted_insert h e.1 e.2)

/-- What is built from a list is in key order. -/
theorem sorted_ofList (entries : List (String × α)) : (ofList entries).Sorted :=
  sorted_insertAll List.Pairwise.nil entries

/-! ## Equality -/

/-- No key that is less than all keys has a value. -/
theorem get?_eq_none_of_lt {d : Entries α} {key : String} (h : ∀ entry ∈ d, key < entry.1) :
    d.get? key = none := by
  induction d with
  | nil => rfl
  | cons entry rest ih =>
    have hne : entry.1 ≠ key := fun heq =>
      absurd (h entry List.mem_cons_self) (heq ▸ String.lt_irrefl _)
    simp only [get?, if_neg hne]
    exact ih fun e he => h e (List.mem_cons_of_mem _ he)

/-- The head of one of two lists of entries in order, with the same look-ups, is not after the head
of the other. -/
theorem not_head_lt {k k' : String} {v : α} {d d' : Entries α} {v' : α}
    (h' : Sorted ((k', v') :: d'))
    (hget : get? ((k, v) :: d) k = get? ((k', v') :: d') k) : ¬ k < k' := by
  intro hlt
  have hnone : get? ((k', v') :: d') k = none :=
    get?_eq_none_of_lt fun e he => by
      rcases List.mem_cons.mp he with rfl | he
      · exact hlt
      · exact String.lt_trans hlt ((List.pairwise_cons.mp h').1 e he)
  rw [hnone] at hget
  simp [get?] at hget

/-- Entries in order with the same look-ups are the same. -/
theorem eq_of_get?_eq {d d' : Entries α} (h : d.Sorted) (h' : d'.Sorted)
    (hget : ∀ key, d.get? key = d'.get? key) : d = d' := by
  induction d generalizing d' with
  | nil =>
    cases d' with
    | nil => rfl
    | cons entry rest =>
      have := hget entry.1
      simp [get?] at this
  | cons entry rest ih =>
    obtain ⟨k, v⟩ := entry
    cases d' with
    | nil =>
      have := hget k
      simp [get?] at this
    | cons entry' rest' =>
      obtain ⟨k', v'⟩ := entry'
      have hk : k = k' := String.le_antisymm
        (String.not_lt.mp (not_head_lt h (hget k').symm))
        (String.not_lt.mp (not_head_lt h' (hget k)))
      subst hk
      have hv : v = v' := by
        have := hget k
        simpa [get?] using this
      subst hv
      have hhead := (List.pairwise_cons.mp h).1
      have hhead' := (List.pairwise_cons.mp h').1
      congr 1
      refine ih (List.pairwise_cons.mp h).2 (List.pairwise_cons.mp h').2 fun key => ?_
      by_cases hkey : k = key
      · subst hkey
        rw [get?_eq_none_of_lt hhead, get?_eq_none_of_lt hhead']
      · have := hget key
        simpa [get?, hkey] using this

end Entries

/-! ## Dictionaries -/

/-- A dictionary: entries in increasing order of their keys, one for each key. -/
@[ext]
structure Dict (α : Type) where
  /-- The entries. -/
  entries : Entries α
  /-- Their keys increase. -/
  sorted : entries.Sorted

namespace Dict

variable {α : Type}

/-- The dictionary without entries. -/
instance : EmptyCollection (Dict α) := ⟨⟨[], List.Pairwise.nil⟩⟩

/-- The value under a key. -/
def get? (d : Dict α) (key : String) : Option α :=
  d.entries.get? key

/-- Whether there is an entry under the key. -/
def contains (d : Dict α) (key : String) : Bool :=
  (d.get? key).isSome

/-- Puts a value under a key, in place of the value that was there. -/
def insert (d : Dict α) (key : String) (value : α) : Dict α :=
  ⟨d.entries.insert key value, Entries.sorted_insert d.sorted key value⟩

/-- Puts the entries of a list in, one after the other, so that the last one under a key stays. -/
def insertAll (d : Dict α) (entries : List (String × α)) : Dict α :=
  ⟨d.entries.insertAll entries, Entries.sorted_insertAll d.sorted entries⟩

/-- The dictionary of the entries of a list; the last entry under a key stays. -/
def ofList (entries : List (String × α)) : Dict α :=
  ⟨Entries.ofList entries, Entries.sorted_ofList entries⟩

/-- The keys in increasing order. -/
def keys (d : Dict α) : List String :=
  d.entries.keys

/-- Dictionaries with the same look-ups are the same. -/
theorem ext_get? {d d' : Dict α} (h : ∀ key, d.get? key = d'.get? key) : d = d' :=
  Dict.ext (Entries.eq_of_get?_eq d.sorted d'.sorted h)

end Dict

end Intake
