import Intake.Conversion
import Intake.Coerce
import Intake.Validate
import Intake.Proofs.Dict
import Intake.Proofs.Outcome

/-!
# The objects of a group

The value of a group of fields should be an object, or an array made only of objects.  Every stage
that a request goes through visits these objects one by one.

Main results:

- Definition {lit}`Json.objects` lists the objects of a value, and {lit}`Json.IsGroup` says that
  there is nothing but objects.
- Theorems {lit}`Json.objects_mapObjects` and {lit}`Json.mem_objects_of_mapObjectsM` say which
  objects a value has after a function visited them.
- Theorems {lit}`Json.mapObjects_mapObjects`, {lit}`Json.mapObjectsM_map` and
  {lit}`Json.mapObjectsM_mapError` take visits together.
- Theorem {lit}`objects_of_validateObjects`: a value that is accepted has nothing but objects, and
  each of them is accepted.
- Theorem {lit}`validateObjects_mapObjects`: a change of the objects that the check does not see is
  not seen in the value.
- Theorems {lit}`Conversion.objects_of_standard` and {lit}`Conversion.standard_mapObjects`: the
  ready-made conversions leave objects alone, and a change of objects goes through them.
-/

namespace Intake

namespace Json

/-! ## Listing objects -/

/-- The entries of a value that is an object. -/
def entries? : Json → Option (List (String × Json))
  | .object entries => some entries
  | _ => none

/-- The objects of a value: itself, or the objects among its items. -/
def objects : Json → List (List (String × Json))
  | .array items => items.filterMap entries?
  | value => value.entries?.toList

/-- The value is an object or an array made only of objects. -/
def IsGroup : Json → Prop
  | .array items => ∀ item ∈ items, item.isObject = true
  | value => value.isObject = true

/-- The value is an array. -/
def IsArray (value : Json) : Prop :=
  ∃ items, value = .array items

theorem entries?_eq_some {value : Json} {entries : List (String × Json)} :
    value.entries? = some entries ↔ value = .object entries := by
  cases value <;> simp [entries?]

theorem mem_objects_array {items : List Json} {entries : List (String × Json)} :
    entries ∈ (Json.array items).objects ↔ .object entries ∈ items := by
  simp [objects, List.mem_filterMap, entries?_eq_some]

theorem mem_objects_iff {value : Json} {entries : List (String × Json)} :
    entries ∈ value.objects ↔
      value = .object entries ∨ ∃ items, value = .array items ∧ .object entries ∈ items := by
  cases value with
  | array items => simp [mem_objects_array]
  | object entries' => simp [objects, entries?, eq_comm]
  | null => simp [objects, entries?]
  | bool b => simp [objects, entries?]
  | number n => simp [objects, entries?]
  | string s => simp [objects, entries?]

theorem isGroup_iff {value : Json} :
    value.IsGroup ↔ value.isObject = true ∨
      value.IsArray ∧ ∀ items, value = .array items → ∀ item ∈ items, item.isObject = true := by
  cases value <;> simp [IsGroup, IsArray, isObject]

theorem objects_string (s : String) : (Json.string s).objects = [] :=
  rfl

/-! ## Visiting objects -/

theorem isObject_mapObject (f : List (String × Json) → List (String × Json)) (value : Json) :
    (mapObject f value).isObject = value.isObject := by
  cases value <;> rfl

theorem entries?_mapObject (f : List (String × Json) → List (String × Json)) (value : Json) :
    (mapObject f value).entries? = value.entries?.map f := by
  cases value <;> rfl

/-- A function visits each object of a value. -/
theorem objects_mapObjects (f : List (String × Json) → List (String × Json)) (value : Json) :
    (mapObjects f value).objects = value.objects.map f := by
  cases value with
  | array items =>
      simp only [mapObjects, objects, List.filterMap_map, List.map_filterMap]
      congr 1
      funext item
      exact entries?_mapObject f item
  | object entries => rfl
  | null => rfl
  | bool b => rfl
  | number n => rfl
  | string s => rfl

/-- A visit leaves nothing but objects exactly where there was nothing else before. -/
theorem isGroup_mapObjects (f : List (String × Json) → List (String × Json)) (value : Json) :
    (mapObjects f value).IsGroup ↔ value.IsGroup := by
  cases value with
  | array items => simp [mapObjects, IsGroup, isObject_mapObject]
  | object entries => simp [mapObjects, mapObject, IsGroup, isObject]
  | null => exact Iff.rfl
  | bool b => exact Iff.rfl
  | number n => exact Iff.rfl
  | string s => exact Iff.rfl

theorem mapObject_mapObject (f g : List (String × Json) → List (String × Json)) (value : Json) :
    mapObject f (mapObject g value) = mapObject (f ∘ g) value := by
  cases value <;> rfl

theorem mapObjects_mapObjects (f g : List (String × Json) → List (String × Json)) (value : Json) :
    mapObjects f (mapObjects g value) = mapObjects (f ∘ g) value := by
  cases value with
  | array items => simp [mapObjects, mapObject_mapObject]
  | null | bool _ | number _ | string _ | object _ => rfl

/-- Two visits are the same when they do the same to each object of the value. -/
theorem mapObjects_congr {f g : List (String × Json) → List (String × Json)} {value : Json}
    (h : ∀ entries ∈ value.objects, f entries = g entries) :
    mapObjects f value = mapObjects g value := by
  cases value with
  | array items =>
      simp only [mapObjects, array.injEq]
      refine List.map_congr_left fun item hitem => ?_
      cases item with
      | object entries => simp only [mapObject, h entries (mem_objects_array.mpr hitem)]
      | null | bool _ | number _ | string _ | array _ => rfl
  | object entries => simp only [mapObjects, mapObject, h entries (List.mem_singleton.mpr rfl)]
  | null | bool _ | number _ | string _ => rfl

theorem mapObjects_wrapObject (f : List (String × Json) → List (String × Json)) (value : Json) :
    mapObjects f value.wrapObject = (mapObjects f value).wrapObject := by
  cases value <;> rfl

theorem objects_wrapObject (value : Json) : value.wrapObject.objects = value.objects := by
  cases value <;> rfl

/-- Where there is nothing but objects, putting an object into an array makes an array of
objects. -/
theorem isGroup_wrapObject {value : Json} (h : value.IsGroup) :
    value.wrapObject.IsGroup ∧ value.wrapObject.IsArray := by
  cases value with
  | array items => exact ⟨h, items, rfl⟩
  | object entries => exact ⟨by simp [wrapObject, IsGroup, isObject], _, rfl⟩
  | null => cases h
  | bool b => cases h
  | number n => cases h
  | string s => cases h

section

variable {ε : Type} {f : ObjectStep ε}

section

variable {g : ObjectStep ε} {change : List (String × Json) → List (String × Json)}

theorem mapObjectM_map (h : ∀ place entries, g place entries = (f place entries).map change)
    (path : Path) (value : Json) :
    mapObjectM g path value = (mapObjectM f path value).map (mapObject change) := by
  cases value with
  | object entries =>
      rw [mapObjectM, mapObjectM, h]
      cases f path entries <;> rfl
  | null | bool _ | number _ | string _ | array _ => rfl

theorem mapItemsM_map (h : ∀ place entries, g place entries = (f place entries).map change)
    (path : Path) (n : Nat) (items : List Json) :
    mapItemsM g path n items = (mapItemsM f path n items).map (List.map (mapObject change)) := by
  induction items generalizing n with
  | nil => rfl
  | cons item rest ih =>
      rw [mapItemsM, mapItemsM, mapObjectM_map h, ih]
      cases mapObjectM f (path.item n) item with
      | error e => rfl
      | ok item' => cases mapItemsM f path (n + 1) rest <;> rfl

/-- A change to what a visit makes of each object is made to the value afterwards. -/
theorem mapObjectsM_map (h : ∀ place entries, g place entries = (f place entries).map change)
    (path : Path) (value : Json) :
    mapObjectsM g path value = (mapObjectsM f path value).map (mapObjects change) := by
  cases value with
  | array items =>
      rw [mapObjectsM, mapObjectsM, mapItemsM_map h]
      cases mapItemsM f path 0 items <;> rfl
  | object entries =>
      simp only [mapObjectsM, mapObjectM, h]
      cases f path entries <;> rfl
  | null | bool _ | number _ | string _ => rfl

end

section

variable {δ : Type} {g : ObjectStep δ} {fail : ε → δ}

theorem mapObjectM_mapError
    (h : ∀ place entries, g place entries = (f place entries).mapError fail) (path : Path)
    (value : Json) :
    mapObjectM g path value = (mapObjectM f path value).mapError fail := by
  cases value with
  | object entries => rw [mapObjectM, mapObjectM, h, Outcome.mapError_map]
  | null | bool _ | number _ | string _ | array _ => rfl

theorem mapItemsM_mapError
    (h : ∀ place entries, g place entries = (f place entries).mapError fail) (path : Path)
    (n : Nat) (items : List Json) :
    mapItemsM g path n items = (mapItemsM f path n items).mapError fail := by
  induction items generalizing n with
  | nil => rfl
  | cons item rest ih =>
      rw [mapItemsM, mapItemsM, mapObjectM_mapError h, ih]
      cases mapObjectM f (path.item n) item with
      | error e => rfl
      | ok item' => exact (Outcome.mapError_map ..).symm

/-- A visit by a function with other errors ends with those errors. -/
theorem mapObjectsM_mapError
    (h : ∀ place entries, g place entries = (f place entries).mapError fail) (path : Path)
    (value : Json) :
    mapObjectsM g path value = (mapObjectsM f path value).mapError fail := by
  cases value with
  | array items => rw [mapObjectsM, mapObjectsM, mapItemsM_mapError h, Outcome.mapError_map]
  | null | bool _ | number _ | string _ | object _ =>
      simp only [mapObjectsM, mapObjectM_mapError h]

end

/-! ### Visits that succeed alike -/

section

variable {g : ObjectStep ε}

theorem toOption_mapObjectM
    (h : ∀ place entries, (g place entries).toOption = (f place entries).toOption) (path : Path)
    (value : Json) :
    (mapObjectM g path value).toOption = (mapObjectM f path value).toOption := by
  cases value with
  | object entries => rw [mapObjectM, mapObjectM, Outcome.toOption_map, Outcome.toOption_map, h]
  | null | bool _ | number _ | string _ | array _ => rfl

theorem mapItemsM_cons (path : Path) (n : Nat) (item : Json) (rest : List Json) :
    mapItemsM f path n (item :: rest) =
      mapObjectM f (path.item n) item >>= fun item' =>
        (mapItemsM f path (n + 1) rest).map (item' :: ·) := by
  rw [mapItemsM]
  cases mapObjectM f (path.item n) item <;> rfl

theorem toOption_mapItemsM
    (h : ∀ place entries, (g place entries).toOption = (f place entries).toOption) (path : Path)
    (n : Nat) (items : List Json) :
    (mapItemsM g path n items).toOption = (mapItemsM f path n items).toOption := by
  induction items generalizing n with
  | nil => rfl
  | cons item rest ih =>
      simp only [mapItemsM_cons, Outcome.toOption_bind, Outcome.toOption_map,
        toOption_mapObjectM h, ih]

/-- Visits by two functions that succeed alike do so as well. -/
theorem toOption_mapObjectsM
    (h : ∀ place entries, (g place entries).toOption = (f place entries).toOption) (path : Path)
    (value : Json) :
    (mapObjectsM g path value).toOption = (mapObjectsM f path value).toOption := by
  cases value with
  | array items =>
      rw [mapObjectsM, mapObjectsM, Outcome.toOption_map, Outcome.toOption_map,
        toOption_mapItemsM h]
  | null | bool _ | number _ | string _ | object _ =>
      simp only [mapObjectsM, toOption_mapObjectM h]

end

/-! ### Objects after a visit -/

theorem mapObjectM_eq_object {path : Path} {value : Json} {entries : List (String × Json)}
    (h : mapObjectM f path value = .ok (.object entries)) :
    ∃ before, value = .object before ∧ f path before = .ok entries := by
  cases value with
  | object before =>
      obtain ⟨after, hafter, heq⟩ := Outcome.map_eq_ok.mp h
      cases heq
      exact ⟨before, rfl, hafter⟩
  | array items => cases h
  | null => cases h
  | bool b => cases h
  | number n => cases h
  | string s => cases h

/-- An object among the items that a visit leaves was made from an object. -/
theorem mem_items_of_mapItemsM {path : Path} {n : Nat} {items items' : List Json}
    (h : mapItemsM f path n items = .ok items') {entries : List (String × Json)}
    (hmem : .object entries ∈ items') :
    ∃ place before, .object before ∈ items ∧ f place before = .ok entries := by
  induction items generalizing n items' with
  | nil =>
      cases h
      cases hmem
  | cons item rest ih =>
      simp only [mapItemsM] at h
      split at h
      · cases h
      · next item' hitem =>
        obtain ⟨rest', hrest, rfl⟩ := Outcome.map_eq_ok.mp h
        rcases List.mem_cons.mp hmem with heq | hmem
        · rw [← heq] at hitem
          obtain ⟨before, rfl, hbefore⟩ := mapObjectM_eq_object hitem
          exact ⟨_, before, List.mem_cons_self, hbefore⟩
        · obtain ⟨place, before, hbefore, hresult⟩ := ih hrest hmem
          exact ⟨place, before, List.mem_cons_of_mem _ hbefore, hresult⟩

/-- Each object of a value that a visit leaves was made from an object of the value before. -/
theorem mem_objects_of_mapObjectsM {path : Path} {value value' : Json}
    (h : mapObjectsM f path value = .ok value') {entries : List (String × Json)}
    (hmem : entries ∈ value'.objects) :
    ∃ place, ∃ before ∈ value.objects, f place before = .ok entries := by
  cases value with
  | array items =>
      obtain ⟨items', hitems, rfl⟩ := Outcome.map_eq_ok.mp h
      obtain ⟨place, before, hbefore, hresult⟩ :=
        mem_items_of_mapItemsM hitems (mem_objects_array.mp hmem)
      exact ⟨place, before, mem_objects_array.mpr hbefore, hresult⟩
  | object before =>
      obtain ⟨after, hafter, rfl⟩ := Outcome.map_eq_ok.mp h
      rw [List.mem_singleton.mp hmem]
      exact ⟨path, before, List.mem_singleton.mpr rfl, hafter⟩
  | null => cases h; cases hmem
  | bool b => cases h; cases hmem
  | number n => cases h; cases hmem
  | string s => cases h; cases hmem

end

end Json

/-! ## Accepting objects -/

section

variable {check : Path → Entries Json → Except Violation Unit}

/-- Items are accepted when all of them are objects and each of these is. -/
theorem items_of_validateItems {path : Path} {n : Nat} {items : List Json}
    (h : validateItems check path n items = .ok ()) :
    ∀ item ∈ items, ∃ place entries, item = .object entries ∧ check place entries = .ok () := by
  induction items generalizing n with
  | nil => simp
  | cons item rest ih =>
      cases item with
      | object entries =>
          obtain ⟨_, hfirst, hrest⟩ := Outcome.bind_eq_ok.mp h
          intro item hitem
          rcases List.mem_cons.mp hitem with rfl | hitem
          · exact ⟨path.item n, entries, rfl, hfirst⟩
          · exact ih hrest item hitem
      | array items => cases h
      | null => cases h
      | bool b => cases h
      | number n => cases h
      | string s => cases h

/-- A value is accepted when there is nothing but objects and each of these is. -/
theorem objects_of_validateObjects {path : Path} {value : Json}
    (h : validateObjects check path value = .ok ()) :
    value.IsGroup ∧ ∀ entries ∈ value.objects, ∃ place, check place entries = .ok () := by
  cases value with
  | object entries =>
      refine ⟨rfl, ?_⟩
      intro entries' hentries
      rw [List.mem_singleton.mp hentries]
      exact ⟨path, h⟩
  | array items =>
      have hitems := items_of_validateItems h
      constructor
      · intro item hitem
        obtain ⟨_, entries, rfl, -⟩ := hitems item hitem
        rfl
      · intro entries hentries
        obtain ⟨place, entries', heq, hcheck⟩ :=
          hitems _ (Json.mem_objects_array.mp hentries)
        cases heq
        exact ⟨place, hcheck⟩
  | null => cases h
  | bool b => cases h
  | number n => cases h
  | string s => cases h

theorem validateItems_eq_ok_congr {check' : Path → Entries Json → Except Violation Unit}
    (h : ∀ place entries, check' place entries = .ok () ↔ check place entries = .ok ())
    {path : Path} (n : Nat) (items : List Json) :
    validateItems check' path n items = .ok () ↔ validateItems check path n items = .ok () := by
  induction items generalizing n with
  | nil => exact Iff.rfl
  | cons item rest ih =>
      cases item with
      | object entries =>
          simp only [validateItems, Outcome.test_bind_eq_ok, h, ih]
      | null | bool _ | number _ | string _ | array _ =>
          simp only [validateItems, reduceCtorEq]

/-- Two checks that accept the same objects accept the same values. -/
theorem validateObjects_eq_ok_congr {check' : Path → Entries Json → Except Violation Unit}
    (h : ∀ place entries, check' place entries = .ok () ↔ check place entries = .ok ())
    {path : Path} (value : Json) :
    validateObjects check' path value = .ok () ↔ validateObjects check path value = .ok () := by
  cases value with
  | object entries => exact h path entries
  | array items => exact validateItems_eq_ok_congr h 0 items
  | null | bool _ | number _ | string _ => exact Iff.rfl

/-- Items that are changed are accepted as those before the change are. -/
theorem validateItems_map {check' : Path → Entries Json → Except Violation Unit}
    {change : List (String × Json) → List (String × Json)} {path : Path} (n : Nat)
    {items : List Json}
    (h : ∀ place entries, .object entries ∈ items →
      check' place (change entries) = check place entries) :
    validateItems check' path n (items.map (Json.mapObject change)) =
      validateItems check path n items := by
  induction items generalizing n with
  | nil => rfl
  | cons item rest ih =>
      have hrest := ih (n + 1) fun place entries hmem => h place entries (.tail _ hmem)
      cases item with
      | object entries =>
          simp only [List.map_cons, Json.mapObject, validateItems]
          rw [h _ entries List.mem_cons_self, hrest]
      | null | bool _ | number _ | string _ | array _ => rfl

/-- A value whose objects are changed is accepted as the value before the change is. -/
theorem validateObjects_mapObjects {check' : Path → Entries Json → Except Violation Unit}
    {change : List (String × Json) → List (String × Json)} {path : Path} {value : Json}
    (h : ∀ place, ∀ entries ∈ value.objects,
      check' place (change entries) = check place entries) :
    validateObjects check' path (Json.mapObjects change value) =
      validateObjects check path value := by
  cases value with
  | object entries => exact h path entries (List.mem_singleton.mpr rfl)
  | array items =>
      exact validateItems_map 0 fun place entries hmem =>
        h place entries (Json.mem_objects_array.mpr hmem)
  | null | bool _ | number _ | string _ => rfl

end

/-! ## Conversions -/

namespace Conversion

/-- A change of texts leaves the objects of a value alone. -/
theorem objects_onTexts {f : String → String} {value value' : Json}
    (h : onTexts f value = .ok value') : value'.objects = value.objects := by
  cases value with
  | array items =>
      cases h
      simp only [Json.objects, List.filterMap_map]
      congr 1
      funext item
      cases item <;> rfl
  | object entries => cases h; rfl
  | null => cases h; rfl
  | bool b => cases h; rfl
  | number n => cases h; rfl
  | string s => cases h; rfl

/-- What the conversion of identifiers gives has no objects. -/
theorem objects_uuid {value value' : Json} (h : uuid value = .ok value') :
    value'.objects = value.objects := by
  cases value with
  | string s =>
      simp only [uuid] at h
      split at h
      · cases h
        rw [Json.objects_string, Json.objects_string]
      · cases h
  | null => cases h; rfl
  | array items => cases h
  | object entries => cases h
  | bool b => cases h
  | number n => cases h

/-- A change of texts and a visit of objects do not interfere. -/
theorem onTexts_mapObjects (f : String → String)
    (change : List (String × Json) → List (String × Json)) (value : Json) :
    onTexts f (Json.mapObjects change value) = (onTexts f value).map (Json.mapObjects change) := by
  cases value with
  | array items =>
      simp only [Json.mapObjects, onTexts, Except.map, List.map_map]
      congr 2
      refine List.map_congr_left fun item _ => ?_
      cases item <;> rfl
  | null | bool _ | number _ | string _ | object _ => rfl

theorem uuid_mapObjects (change : List (String × Json) → List (String × Json)) (value : Json) :
    uuid (Json.mapObjects change value) = (uuid value).map (Json.mapObjects change) := by
  cases value with
  | string s =>
      simp only [Json.mapObjects, Json.mapObject, uuid]
      cases Uuid.read? (Text.trim s) <;> rfl
  | null | bool _ | number _ | array _ | object _ => rfl

/-- What holds of changes of texts and of the conversion of identifiers holds of the ready-made
conversions. -/
theorem standard_induction {P : Conversion → Prop} (htexts : ∀ f, P (onTexts f)) (huuid : P uuid)
    {name : String} {conversion : Conversion} (hname : standard.get? name = some conversion) :
    P conversion := by
  unfold standard at hname
  have hmem := Entries.mem_of_mem_ofList (Entries.mem_of_get?_eq_some hname)
  simp only [List.mem_cons, Prod.mk.injEq, List.not_mem_nil, or_false] at hmem
  rcases hmem with ⟨-, rfl⟩ | ⟨-, rfl⟩ | ⟨-, rfl⟩ | ⟨-, rfl⟩
  · exact htexts _
  · exact htexts _
  · exact htexts _
  · exact huuid

/-- The ready-made conversions and a visit of objects do not interfere. -/
theorem standard_mapObjects {name : String} {conversion : Conversion}
    (hname : standard.get? name = some conversion)
    (change : List (String × Json) → List (String × Json)) (value : Json) :
    conversion (Json.mapObjects change value) =
      (conversion value).map (Json.mapObjects change) :=
  standard_induction
    (P := fun conversion => conversion (Json.mapObjects change value) =
      (conversion value).map (Json.mapObjects change))
    (fun f => onTexts_mapObjects f change value) (uuid_mapObjects change value) hname

/-- The ready-made conversions leave the objects of a value alone. -/
theorem objects_of_standard {name : String} {conversion : Conversion}
    (hname : standard.get? name = some conversion) {value value' : Json}
    (h : conversion value = .ok value') : value'.objects = value.objects := by
  revert h
  exact standard_induction (P := fun conversion => conversion value = .ok value' → _)
    (fun _ => objects_onTexts) objects_uuid hname

end Conversion

end Intake
