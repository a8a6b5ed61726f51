import Intake.Proofs.Cleaning
import Intake.Proofs.Depth

/-!
# Bodies without malformed keys

A body is cleaned key by key, and its depth is checked on the way, for an object by the object
itself and for an array by what it stands in.  Here both are said without a walk: which value is
left when malformed keys are gone, and at which levels there are objects and arrays.

Main results:

- {lit}`Json.Cleaned` says that a value is another one without its malformed keys, and theorem
  {lit}`Json.cleaned_iff` that there is just one such value.
- {lit}`Json.Nests` says that there is an object or array at a level of a value, and theorem
  {lit}`Json.exists_nests_iff` that {lit}`Json.levels` is the deepest such level.
- Theorem {lit}`Json.cleanObject_exact`: a body is refused exactly when what is left of it nests too
  deep, and else gives just that, once, twice and under any larger limit.
-/

namespace Intake
namespace Json

/-! ## Values without malformed keys -/

section

variable (maxKeyLength : Nat)

mutual

/-- The second value is the first one without the entries under malformed keys, at every depth.
What is neither an object nor an array is the same. -/
inductive Cleaned : Json → Json → Prop
  /-- A scalar stays. -/
  | scalar {value : Json} (hobject : value.isObject = false) (harray : ¬ value.IsArray) :
    Cleaned value value
  /-- An array keeps its items, in their order. -/
  | array {items items' : List Json} (hitems : CleanedItems items items') :
    Cleaned (.array items) (.array items')
  /-- An object keeps the entries under well-formed keys, in their order. -/
  | object {entries entries' : List (String × Json)} (hentries : CleanedEntries entries entries') :
    Cleaned (.object entries) (.object entries')

/-- The second list has the items of the first one without malformed keys. -/
inductive CleanedItems : List Json → List Json → Prop
  /-- There may be no items. -/
  | nil : CleanedItems [] []
  /-- Each item is cleaned in its place. -/
  | cons {item item' : Json} {rest rest' : List Json} (hitem : Cleaned item item')
    (hrest : CleanedItems rest rest') :
    CleanedItems (item :: rest) (item' :: rest')

/-- The second list has the entries of the first one without malformed keys. -/
inductive CleanedEntries : List (String × Json) → List (String × Json) → Prop
  /-- There may be no entries. -/
  | nil : CleanedEntries [] []
  /-- An entry under a well-formed key stays, with its value cleaned. -/
  | keep {key : String} {value value' : Json} {rest rest' : List (String × Json)}
    (hkey : isValidKey maxKeyLength key = true) (hvalue : Cleaned value value')
    (hrest : CleanedEntries rest rest') :
    CleanedEntries ((key, value) :: rest) ((key, value') :: rest')
  /-- An entry under a malformed key goes, whatever its value is. -/
  | drop {key : String} {value : Json} {rest rest' : List (String × Json)}
    (hkey : isValidKey maxKeyLength key = false) (hrest : CleanedEntries rest rest') :
    CleanedEntries ((key, value) :: rest) rest'

end

end

section

variable {maxKeyLength : Nat}

mutual

theorem cleaned_strip (value : Json) : Cleaned maxKeyLength value (strip maxKeyLength value) := by
  match value with
  | .object entries =>
      rw [strip]
      exact .object (cleanedEntries_stripEntries entries)
  | .array items =>
      rw [strip]
      exact .array (cleanedItems_stripItems items)
  | .null | .bool _ | .number _ | .string _ => exact .scalar rfl (by simp [IsArray])
termination_by structural value

theorem cleanedItems_stripItems (items : List Json) :
    CleanedItems maxKeyLength items (stripItems maxKeyLength items) := by
  match items with
  | [] => exact .nil
  | item :: rest =>
      rw [stripItems]
      exact .cons (cleaned_strip item) (cleanedItems_stripItems rest)
termination_by structural items

theorem cleanedEntries_stripEntries (entries : List (String × Json)) :
    CleanedEntries maxKeyLength entries (stripEntries maxKeyLength entries) := by
  match entries with
  | [] => exact .nil
  | (key, value) :: rest =>
      have hvalue := cleaned_strip value
      have hrest := cleanedEntries_stripEntries rest
      rw [stripEntries]
      split
      · next hkey => exact .keep hkey hvalue hrest
      · next hkey => exact .drop (eq_false_of_ne_true hkey) hrest
termination_by structural entries

end

mutual

theorem eq_strip_of_cleaned (value : Json) {value' : Json}
    (h : Cleaned maxKeyLength value value') : value' = strip maxKeyLength value := by
  match value with
  | .object entries =>
      cases h with
      | scalar hobject _ => cases hobject
      | object hentries => rw [strip, eq_stripEntries_of_cleanedEntries entries hentries]
  | .array items =>
      cases h with
      | scalar _ harray => exact absurd ⟨items, rfl⟩ harray
      | array hitems => rw [strip, eq_stripItems_of_cleanedItems items hitems]
  | .null | .bool _ | .number _ | .string _ =>
      cases h
      rfl
termination_by structural value

theorem eq_stripItems_of_cleanedItems (items : List Json) {items' : List Json}
    (h : CleanedItems maxKeyLength items items') : items' = stripItems maxKeyLength items := by
  match items with
  | [] =>
      cases h
      rfl
  | item :: rest =>
      obtain _ | ⟨hitem, hrest⟩ := h
      rw [stripItems, eq_strip_of_cleaned item hitem, eq_stripItems_of_cleanedItems rest hrest]
termination_by structural items

theorem eq_stripEntries_of_cleanedEntries (entries : List (String × Json))
    {entries' : List (String × Json)} (h : CleanedEntries maxKeyLength entries entries') :
    entries' = stripEntries maxKeyLength entries := by
  match entries with
  | [] =>
      cases h
      rfl
  | (key, value) :: rest =>
      rw [stripEntries]
      cases h with
      | keep hkey hvalue hrest =>
          rw [if_pos hkey, eq_strip_of_cleaned value hvalue,
            eq_stripEntries_of_cleanedEntries rest hrest]
      | drop hkey hrest =>
          rw [hkey, if_neg Bool.false_ne_true, eq_stripEntries_of_cleanedEntries rest hrest]
termination_by structural entries

end

/-- There is just one value that is left of a value without malformed keys. -/
theorem cleaned_iff {value value' : Json} :
    Cleaned maxKeyLength value value' ↔ value' = strip maxKeyLength value := by
  constructor
  · intro h
    exact eq_strip_of_cleaned value h
  · rintro rfl
    exact cleaned_strip value

end

/-! ## Levels -/

/-- There is an object or array at the level of a value.  The value itself is at level one, and
what stands in an object or array is one level below it. -/
inductive Nests : Json → Nat → Prop
  /-- The value itself is an object or an array. -/
  | self {value : Json} (h : value.isObject = true ∨ value.IsArray) : Nests value 1
  /-- The object or array stands in an item. -/
  | item {items : List Json} {item : Json} {level : Nat} (hmem : item ∈ items)
    (h : Nests item level) :
    Nests (.array items) (level + 1)
  /-- The object or array stands in the value under a key. -/
  | entry {entries : List (String × Json)} {key : String} {value : Json} {level : Nat}
    (hmem : (key, value) ∈ entries) (h : Nests value level) :
    Nests (.object entries) (level + 1)

theorem levels_le_of_mem_entries {entries : List (String × Json)} {key : String} {value : Json}
    (h : (key, value) ∈ entries) : value.levels ≤ levelsEntries entries := by
  induction entries with
  | nil => cases h
  | cons entry rest ih =>
      obtain ⟨key', value'⟩ := entry
      rw [levelsEntries]
      rcases List.mem_cons.mp h with heq | h
      · cases heq
        exact Nat.le_max_left _ _
      · exact Nat.le_trans (ih h) (Nat.le_max_right _ _)

theorem Nests.le_levels {value : Json} {level : Nat} (h : value.Nests level) :
    level ≤ value.levels := by
  induction h with
  | @self value h =>
      cases value with
      | object _ | array _ =>
          rw [levels]
          exact Nat.le_add_left 1 _
      | null | bool _ | number _ | string _ => simp [isObject, IsArray] at h
  | item hmem _ ih =>
      rw [levels]
      exact Nat.succ_le_succ (Nat.le_trans ih (levels_le_of_mem hmem))
  | entry hmem _ ih =>
      rw [levels]
      exact Nat.succ_le_succ (Nat.le_trans ih (levels_le_of_mem_entries hmem))

mutual

/-- The deepest level of a value has an object or array. -/
theorem nests_levels (value : Json) (h : 0 < value.levels) : value.Nests value.levels := by
  match value with
  | .object entries =>
      rw [levels]
      rcases Nat.eq_zero_or_pos (levelsEntries entries) with hzero | hpos
      · rw [hzero]
        exact .self (.inl rfl)
      · obtain ⟨key, value, hmem, hnests⟩ := exists_entry_nests entries hpos
        exact .entry hmem hnests
  | .array items =>
      rw [levels]
      rcases Nat.eq_zero_or_pos (levelsItems items) with hzero | hpos
      · rw [hzero]
        exact .self (.inr ⟨items, rfl⟩)
      · obtain ⟨item, hmem, hnests⟩ := exists_item_nests items hpos
        exact .item hmem hnests
  | .null | .bool _ | .number _ | .string _ => cases h
termination_by structural value

theorem exists_item_nests (items : List Json) (h : 0 < levelsItems items) :
    ∃ item ∈ items, item.Nests (levelsItems items) := by
  match items with
  | [] => cases h
  | item :: rest =>
      have hitem := nests_levels item
      have hrest := exists_item_nests rest
      rw [levelsItems] at h ⊢
      rcases Nat.le_total (levelsItems rest) item.levels with hle | hle
      · rw [Nat.max_eq_left hle] at h ⊢
        exact ⟨item, List.mem_cons_self, hitem h⟩
      · rw [Nat.max_eq_right hle] at h ⊢
        obtain ⟨deepest, hmem, hnests⟩ := hrest h
        exact ⟨deepest, List.mem_cons_of_mem _ hmem, hnests⟩
termination_by structural items

theorem exists_entry_nests (entries : List (String × Json)) (h : 0 < levelsEntries entries) :
    ∃ key value, (key, value) ∈ entries ∧ value.Nests (levelsEntries entries) := by
  match entries with
  | [] => cases h
  | (key, value) :: rest =>
      have hvalue := nests_levels value
      have hrest := exists_entry_nests rest
      rw [levelsEntries] at h ⊢
      rcases Nat.le_total (levelsEntries rest) value.levels with hle | hle
      · rw [Nat.max_eq_left hle] at h ⊢
        exact ⟨key, value, List.mem_cons_self, hvalue h⟩
      · rw [Nat.max_eq_right hle] at h ⊢
        obtain ⟨deepestKey, deepest, hmem, hnests⟩ := hrest h
        exact ⟨deepestKey, deepest, List.mem_cons_of_mem _ hmem, hnests⟩
termination_by structural entries

end

/-- There is an object or array below a level exactly when the value has more levels. -/
theorem exists_nests_iff {value : Json} {n : Nat} :
    (∃ level, n < level ∧ value.Nests level) ↔ n < value.levels := by
  constructor
  · rintro ⟨level, hlevel, hnests⟩
    exact Nat.lt_of_lt_of_le hlevel hnests.le_levels
  · intro h
    exact ⟨value.levels, h, nests_levels value (Nat.zero_lt_of_lt h)⟩

/-! ## Bodies -/

section

variable {limits : Limits} {entries : List (String × Json)}

/-- A body that is cleaned gives what is left of it, which does not nest too deep. -/
theorem cleanObject_eq_ok_iff {result : List (String × Json)} :
    cleanObject limits 1 entries = .ok result ↔
      (object (stripEntries limits.maxKeyLength entries)).levels ≤ limits.maxDepth ∧
        stripEntries limits.maxKeyLength entries = result := by
  rw [cleanObject_eq, strip, Limits.within]
  split
  · next hle => rw [Except.ok.injEq, and_iff_right (by omega)]
  · next hgt => simp only [reduceCtorEq, false_iff, not_and]; omega

theorem cleanObject_eq_error_iff {e : RequestError} :
    cleanObject limits 1 entries = .error e ↔
      limits.maxDepth < (object (stripEntries limits.maxKeyLength entries)).levels ∧
        .tooDeep limits.maxDepth = e := by
  rw [cleanObject_eq, strip, Limits.within]
  split
  · next hle => simp only [reduceCtorEq, false_iff, not_and]; omega
  · next hgt => rw [Except.error.injEq, and_iff_right (by omega)]

end

/-- What is left of a body without its malformed keys decides on it: the body is refused exactly
when there is an object or array beyond the greatest depth in what is left, and otherwise gives just
that.  So a body that has been cleaned is left alone, and a larger depth changes nothing where a
smaller one was enough. -/
theorem cleanObject_exact (limits : Limits) (entries : List (String × Json)) :
    ∃ cleaned : List (String × Json),
      (∀ value, Cleaned limits.maxKeyLength (.object entries) value ↔ value = .object cleaned) ∧
      (cleanObject limits 1 entries = .error (.tooDeep limits.maxDepth) ↔
        ∃ level, limits.maxDepth < level ∧ (object cleaned).Nests level) ∧
      ((∀ level, (object cleaned).Nests level → level ≤ limits.maxDepth) →
        cleanObject limits 1 entries = .ok cleaned) ∧
      (∀ result, cleanObject limits 1 entries = .ok result →
        cleanObject limits 1 result = .ok result) ∧
      ∀ larger : Limits, larger.maxKeyLength = limits.maxKeyLength →
        limits.maxDepth ≤ larger.maxDepth →
          ∀ result, cleanObject limits 1 entries = .ok result →
            cleanObject larger 1 entries = .ok result := by
  refine ⟨stripEntries limits.maxKeyLength entries, ?_, ?_, ?_, ?_, ?_⟩
  · intro value
    rw [cleaned_iff, strip]
  · rw [cleanObject_eq_error_iff, exists_nests_iff, and_iff_left rfl]
  · intro h
    refine cleanObject_eq_ok_iff.mpr ⟨?_, rfl⟩
    by_contra hgt
    obtain ⟨level, hlevel, hnests⟩ := exists_nests_iff.mpr (Nat.lt_of_not_le hgt)
    exact absurd (h level hnests) (Nat.not_le.mpr hlevel)
  · intro result h
    obtain ⟨hle, rfl⟩ := cleanObject_eq_ok_iff.mp h
    rw [cleanObject_eq_ok_iff, stripEntries_stripEntries]
    exact ⟨hle, rfl⟩
  · intro larger hkeys hdepth result h
    obtain ⟨hle, hresult⟩ := cleanObject_eq_ok_iff.mp h
    rw [cleanObject_eq_ok_iff, hkeys]
    exact ⟨Nat.le_trans hle hdepth, hresult⟩

/-- An array counts as a level just like an object: of the two lists, one goes with its malformed
key, and the other one is at level two. -/
example (maxDepth : Nat) :
    cleanObject ⟨1024, 100, maxDepth⟩ 1 [("a b", .array [.array []]), ("c", .array [.null])] =
      if 1 < maxDepth then .ok [("c", .array [.null])] else .error (.tooDeep maxDepth) := by
  match maxDepth with
  | 0 | 1 | _ + 2 => rfl

end Json
end Intake
