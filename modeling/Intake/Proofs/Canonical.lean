import Intake.Json.Embedded
import Intake.Key
import Intake.Proofs.Objects

/-!
# What a value stands for

A value as it was read stands for its canonical form, in which embedded texts are read and keys
are in order.

Main results:

- Theorem {lit}`Json.canonicalEntries_eq_ok`: the entries of an object keep their keys and stand
  for what their values stand for.
- Theorem {lit}`Json.canonical_group`: an object, or an array of objects, stands for another one
  when no object begins with the mark of an embedded text.
-/

namespace Intake
namespace Json

/-! ## Items and entries -/

section

variable {readText : String → Except SyntaxError Json}

theorem canonicalItemsWith_eq_mapM (items : List Json) :
    canonicalItemsWith readText items = items.mapM (canonicalWith readText) := by
  induction items with
  | nil => rfl
  | cons item rest ih =>
      rw [Outcome.mapM_cons, ← ih, canonicalItemsWith]
      cases canonicalWith readText item with
      | error e => rfl
      | ok item => cases canonicalItemsWith readText rest <;> rfl

theorem canonicalEntriesWith_eq_mapM (entries : List (String × Json)) :
    canonicalEntriesWith readText entries =
      entries.mapM fun entry => (canonicalWith readText entry.2).map (entry.1, ·) := by
  induction entries with
  | nil => rfl
  | cons entry rest ih =>
      rw [Outcome.mapM_cons, ← ih, canonicalEntriesWith]
      cases canonicalWith readText entry.2 with
      | error e => rfl
      | ok value => cases canonicalEntriesWith readText rest <;> rfl

end

/-- Entries keep their keys and stand for what their values stand for. -/
theorem canonicalEntries_eq_ok {entries entries' : List (String × Json)} :
    canonicalEntries entries = .ok entries' ↔
      List.Forall₂ (fun e e' => e'.1 = e.1 ∧ e.2.canonical = .ok e'.2) entries entries' := by
  rw [canonicalEntries, canonicalEntriesWith_eq_mapM]
  exact Outcome.mapM_entries_eq_ok

theorem keys_canonicalEntries {entries entries' : List (String × Json)}
    (h : canonicalEntries entries = .ok entries') : Entries.keys entries' = Entries.keys entries :=
  Entries.keys_of_forall₂ (R := fun value value' => value.canonical = .ok value')
    (canonicalEntries_eq_ok.mp h)

/-- An entry of the object that an object stands for comes from an entry with the same key. -/
theorem exists_of_mem_canonicalEntries {entries entries' : List (String × Json)}
    (h : canonicalEntries entries = .ok entries') {key : String} {value' : Json}
    (hmem : (key, value') ∈ Entries.ofList entries') :
    ∃ value, (key, value) ∈ entries ∧ value.canonical = .ok value' := by
  rw [canonicalEntries_eq_ok] at h
  replace hmem := Entries.mem_of_mem_ofList hmem
  induction h with
  | nil => cases hmem
  | @cons entry entry' rest rest' hentry _ ih =>
      obtain ⟨hkey, hstands⟩ := hentry
      rcases List.mem_cons.mp hmem with heq | hrest
      · rw [← heq] at hkey hstands
        have heq : (key, entry.2) = entry := congrArg (·, entry.2) hkey
        refine ⟨entry.2, ?_, hstands⟩
        rw [heq]
        exact List.mem_cons_self
      · obtain ⟨value, hvalue, hstands⟩ := ih hrest
        exact ⟨value, List.mem_cons_of_mem _ hvalue, hstands⟩

/-- An array stands for the array of what its items stand for. -/
theorem canonical_array_eq_ok {items : List Json} {value : Json} :
    (Json.array items).canonical = .ok value ↔
      ∃ items', List.Forall₂ (fun i i' => i.canonical = .ok i') items items' ∧
        value = .array items' := by
  rw [canonical, canonicalWith, Outcome.map_eq_ok, canonicalItemsWith_eq_mapM]
  simp only [Outcome.mapM_eq_ok, eq_comm (b := value)]

/-- An object that does not begin with the mark stands for the object of what its values stand
for. -/
theorem canonical_object_eq_ok {entries : List (String × Json)} (hmark : embedding? entries = none)
    {value : Json} :
    (Json.object entries).canonical = .ok value ↔
      ∃ entries', canonicalEntries entries = .ok entries' ∧
        value = .object (Entries.ofList entries') := by
  rw [canonical, canonicalWith, hmark]
  simp only [Outcome.map_eq_ok, eq_comm (b := value)]
  rfl

/-- An object whose first key is well formed does not begin with the mark. -/
theorem embedding?_eq_none_of_isValidKey {maxLength : Nat} {entry : String × Json}
    {rest : List (String × Json)} (h : isValidKey maxLength entry.1 = true) :
    embedding? (entry :: rest) = none := by
  have hchars : embeddingKey.toList.all isKeyChar = false := by decide
  have hne : entry.1 ≠ embeddingKey := by
    intro heq
    simp only [heq, isValidKey, hchars, Bool.and_false, Bool.false_eq_true] at h
  simp only [embedding?, if_neg hne]

/-! ## Objects of a group -/

/-- An item that does not begin with the mark stands for an object exactly when it is one. -/
theorem isObject_canonical {value value' : Json}
    (hmark : ∀ entries, value = .object entries → embedding? entries = none)
    (h : value.canonical = .ok value') : value'.isObject = value.isObject := by
  cases value with
  | object entries =>
      obtain ⟨entries', -, rfl⟩ := (canonical_object_eq_ok (hmark entries rfl)).mp h
      rfl
  | array items =>
      obtain ⟨items', -, rfl⟩ := canonical_array_eq_ok.mp h
      rfl
  | null => cases h; rfl
  | bool b => cases h; rfl
  | number n => cases h; rfl
  | string s => cases h; rfl

/-- An object, or an array of objects, stands for one of its kind, and each of its objects for one
of the objects there. -/
theorem canonical_group {value value' : Json} (hgroup : value.IsGroup)
    (hmark : ∀ entries ∈ value.objects, embedding? entries = none)
    (h : value.canonical = .ok value') :
    value'.IsGroup ∧ (value.IsArray → value'.IsArray) ∧
      ∀ entries' ∈ value'.objects, ∃ entries ∈ value.objects,
        (Json.object entries).canonical = .ok (.object entries') := by
  cases value with
  | object entries =>
      have hmark : embedding? entries = none := hmark entries List.mem_cons_self
      obtain ⟨entries', -, rfl⟩ := (canonical_object_eq_ok hmark).mp h
      refine ⟨rfl, ?_, ?_⟩
      · rintro ⟨items, hitems⟩
        cases hitems
      · intro entries'' hmem
        rw [List.mem_singleton.mp hmem]
        exact ⟨entries, List.mem_cons_self, h⟩
  | array items =>
      obtain ⟨items', hitems, rfl⟩ := canonical_array_eq_ok.mp h
      have hitem : ∀ item' ∈ items', ∃ item ∈ items, item.canonical = .ok item' := by
        intro item' hmem
        obtain ⟨n, hn, rfl⟩ := List.mem_iff_getElem.mp hmem
        have hlength := hitems.length_eq
        exact ⟨items[n], List.getElem_mem _, hitems.get (by omega) hn⟩
      refine ⟨?_, fun _ => ⟨items', rfl⟩, ?_⟩
      · intro item' hmem
        obtain ⟨item, hmem, hcanonical⟩ := hitem item' hmem
        rw [isObject_canonical _ hcanonical]
        · exact hgroup item hmem
        · rintro entries rfl
          exact hmark entries (mem_objects_array.mpr hmem)
      · intro entries' hmem
        obtain ⟨item, hmem, hcanonical⟩ := hitem _ (mem_objects_array.mp hmem)
        have hobject := hgroup item hmem
        cases item with
        | object entries => exact ⟨entries, mem_objects_array.mpr hmem, hcanonical⟩
        | array items => cases hobject
        | null => cases hobject
        | bool b => cases hobject
        | number n => cases hobject
        | string s => cases hobject
  | null => cases hgroup
  | bool b => cases hgroup
  | number n => cases hgroup
  | string s => cases hgroup

end Json
end Intake
