import Intake.Proofs.Coerce
import Intake.Proofs.IntCoercion
import Intake.Proofs.Schema
import Mathlib.Data.List.DropRight

/-!
# Coercion once and again

A value that has been moved towards a type stays there: a second coercion finds nothing to do.  The
same goes for objects, as long as no two fields share a key, and what no field declares is never
touched.

Main results:

- Theorem {lit}`Json.Number.not_isBlank_of_mem_write`: a written number has no white space, so that
  an identifier made of a number is not trimmed.
- Theorem {lit}`coerce_coerce`: a second coercion of a value changes nothing.
- {lit}`Schema.Settled` says what coercion by a schema may make of an object at every depth: the
  keys stay, undeclared values stay, and in a group only objects change.
- Theorem {lit}`Schema.settled_coerceObject`: coercion does that, and a second one changes nothing.
-/

namespace Intake

/-! ## Written numbers -/

theorem Text.not_isBlank_of_any {cs : List Char} (h : cs.any Text.isBlank = false) :
    ∀ c ∈ cs, Text.isBlank c = false :=
  fun c hc => eq_false_of_ne_true (List.any_eq_false.mp h c hc)

namespace DoubleLayout

theorem not_isBlank_of_mem_dropZeros {digits : List Char}
    (h : ∀ c ∈ digits, Text.isBlank c = false) :
    ∀ c ∈ dropZeros digits, Text.isBlank c = false := by
  intro c hc
  have hmem := (List.dropWhile_sublist _).mem (List.mem_reverse.mp hc)
  exact h c (List.mem_reverse.mp hmem)

theorem not_isBlank_of_mem_positionalForm (layout : DoubleLayout) {digits : List Char}
    (h : ∀ c ∈ digits, Text.isBlank c = false) (first : Int) :
    ∀ c ∈ layout.positionalForm digits first, Text.isBlank c = false := by
  have hzeros : ∀ n, ∀ c ∈ List.replicate n '0', Text.isBlank c = false := by
    intro n c hc
    rw [List.eq_of_mem_replicate hc]
    decide
  have htail : ∀ c ∈ (if layout.keepsPoint then ['.', '0'] else []), Text.isBlank c = false := by
    split <;> exact Text.not_isBlank_of_any rfl
  unfold positionalForm
  simp only
  split
  · simp only [List.forall_mem_append]
    exact ⟨⟨Text.not_isBlank_of_any rfl, hzeros _⟩, h⟩
  split
  · simp only [List.forall_mem_append]
    exact ⟨⟨h, hzeros _⟩, htail⟩
  · simp only [List.forall_mem_append]
    exact ⟨⟨fun c hc => h c (List.mem_of_mem_take hc), Text.not_isBlank_of_any rfl⟩,
      fun c hc => h c (List.mem_of_mem_drop hc)⟩

theorem not_isBlank_of_mem_exponentForm {digits : List Char}
    (h : ∀ c ∈ digits, Text.isBlank c = false) (first : Int) :
    ∀ c ∈ exponentForm digits first, Text.isBlank c = false := by
  have hdrop : ∀ c ∈ digits.drop 1, Text.isBlank c = false :=
    fun c hc => h c (List.mem_of_mem_drop hc)
  have hsign : ∀ c ∈ ['e', if first < 0 then '-' else '+'], Text.isBlank c = false := by
    split <;> exact Text.not_isBlank_of_any rfl
  unfold exponentForm
  simp only [List.forall_mem_append]
  refine ⟨⟨⟨fun c hc => h c (List.mem_of_mem_take hc), ?_⟩, hsign⟩,
    (isDigits_toDigits _).not_isBlank⟩
  split
  · exact List.forall_mem_nil _
  · exact List.forall_mem_cons.mpr ⟨by decide, hdrop⟩

/-- A written double has no white space. -/
theorem not_isBlank_of_mem_write (layout : DoubleLayout) (x : Double) :
    ∀ c ∈ (layout.write x).toList, Text.isBlank c = false := by
  have hdigits : ∀ n, ∀ c ∈ dropZeros (Nat.toDigits 10 n), Text.isBlank c = false :=
    fun n => not_isBlank_of_mem_dropZeros (isDigits_toDigits n).not_isBlank
  have hdecimal : ∀ d, ∀ c ∈ layout.decimalForm d, Text.isBlank c = false := by
    intro d
    unfold decimalForm
    simp only
    split
    · exact not_isBlank_of_mem_positionalForm layout (hdigits _) _
    split
    · exact not_isBlank_of_mem_positionalForm layout (hdigits _) _
    · exact not_isBlank_of_mem_exponentForm (hdigits _) _
  unfold write
  simp only [String.toList_ofList]
  have hmagnitude : ∀ c ∈ (if x.units = 0 then layout.positionalForm ['0'] 0
      else layout.decimalForm (shortest layout.tie x.units)), Text.isBlank c = false := by
    split
    · exact not_isBlank_of_mem_positionalForm layout (Text.not_isBlank_of_any rfl) 0
    · exact hdecimal _
  split
  · exact List.forall_mem_cons.mpr ⟨by decide, hmagnitude⟩
  · exact hmagnitude

end DoubleLayout

/-- A written number has no white space. -/
theorem Json.Number.not_isBlank_of_mem_write (n : Json.Number) :
    ∀ c ∈ n.write.toList, Text.isBlank c = false := by
  cases n with
  | integer n => exact (SpellsInteger.toString n.val).not_isBlank
  | double x => exact DoubleLayout.not_isBlank_of_mem_write DoubleLayout.json x

/-! ## Trimmed texts -/

namespace Text

/-- What is removed from both ends is not found there again. -/
theorem stripBoth_stripBoth (p : Char → Bool) (cs : List Char) :
    stripBoth p (stripBoth p cs) = stripBoth p cs := by
  have hlast : ∀ ds : List Char, stripBoth p ds = (ds.dropWhile p).rdropWhile p := fun _ => rfl
  have hfirst : (stripBoth p cs).dropWhile p = stripBoth p cs := by
    have hprefix := List.rdropWhile_prefix p (cs.dropWhile p)
    rw [← hlast] at hprefix
    cases hstart : stripBoth p cs with
    | nil => rfl
    | cons c rest =>
        -- The first character is the first one of the list without its beginning.
        rw [hstart] at hprefix
        obtain ⟨after, hafter⟩ := hprefix
        have hc : p c = false := by
          have hne : cs.dropWhile p ≠ [] := by
            rw [← hafter]
            exact List.cons_ne_nil _ _
          have hhead := List.head_dropWhile_not p hne
          simpa only [← hafter, List.cons_append, List.head_cons] using hhead
        rw [List.dropWhile_cons_of_neg (by rw [hc]; exact Bool.false_ne_true)]
  rw [hlast (stripBoth p cs), hfirst, hlast, List.rdropWhile_idempotent]

theorem trim_trim (s : String) : trim (trim s) = trim s := by
  rw [trim, trim, String.toList_ofList, trimChars, trimChars, stripBoth_stripBoth]

/-- A text without white space is not trimmed. -/
theorem trim_of_not_isBlank {s : String} (h : ∀ c ∈ s.toList, isBlank c = false) : trim s = s := by
  have hpadded : Padded s s.toList :=
    ⟨[], [], List.forall_mem_nil _, List.forall_mem_nil _,
      by rw [List.nil_append, List.append_nil]⟩
  exact String.toList_inj.mp (trim_of_padded hpadded (bare_of_not_isBlank h))

end Text

/-! ## Single values -/

/-- The value that a value is moved to, if it can be moved towards the type. -/
def Json.moved? (type : FieldType) (value : Json) : Option Json :=
  match type with
  | .int => value.asInt?
  | .float => value.asFloat?
  | .bool => value.asBool?
  | .string => value.asText?
  | .uuid => value.asUuid?
  | .array => value.asArray?
  | .any | .object => none

theorem coerce_eq_getD_moved? (type : FieldType) (value : Json) :
    coerce type value = (value.moved? type).getD value :=
  rfl

/-- An integer that a value is moved to is one with a sign. -/
theorem Json.exists_integer_of_asInt? {value moved : Json} (h : value.asInt? = some moved) :
    ∃ m : Json.Integer, moved = .number (.integer m) ∧ m.val ≤ maxInt64 := by
  have hofInt : ∀ {n : Int}, n ≤ maxInt64 → Json.ofInt? n = some moved →
      ∃ m : Json.Integer, moved = .number (.integer m) ∧ m.val ≤ maxInt64 := by
    intro n hle hn
    obtain ⟨m, hm, rfl⟩ := Option.map_eq_some_iff.mp hn
    refine ⟨m, rfl, ?_⟩
    unfold Json.Integer.ofInt? at hm
    split at hm
    · cases hm
      exact hle
    · cases hm
  cases value with
  | string s =>
      obtain ⟨n, hread, hn⟩ := Option.bind_eq_some_iff.mp h
      obtain ⟨_, _, _, _, hle⟩ := readInt?_trim_eq_some_iff.mp hread
      exact hofInt hle hn
  | number n =>
      obtain ⟨k, hwhole, hk⟩ := Option.bind_eq_some_iff.mp h
      refine hofInt ?_ hk
      by_cases hover : n.Overstated
      · rw [Json.Number.wholeInt64?_of_overstated hover] at hwhole
        cases hwhole
        exact le_rfl
      · exact ((Json.Number.wholeInt64?_eq_some_iff hover).mp hwhole).2.1
  | bool b =>
      cases h
      cases b
      · exact ⟨.ofBool false, rfl, by decide⟩
      · exact ⟨.ofBool true, rfl, by decide⟩
  | null | array _ | object _ => cases h

/-- A double that a value is moved to is finite. -/
theorem Json.exists_double_of_asFloat? {value moved : Json} (h : value.asFloat? = some moved) :
    ∃ x : Double, moved = .number (.double x) := by
  have hofBinary64 : ∀ {x : Binary64}, Json.ofBinary64? x = some moved →
      ∃ x : Double, moved = .number (.double x) := by
    intro x hx
    cases x with
    | finite x => exact ⟨x, (Option.some.inj hx).symm⟩
    | infinite _ | nan => cases hx
  cases value with
  | string s =>
      simp only [Json.asFloat?] at h
      obtain ⟨x, -, hx⟩ := Option.bind_eq_some_iff.mp h
      exact hofBinary64 hx
  | bool b =>
      simp only [Json.asFloat?] at h
      exact hofBinary64 h
  | null | number _ | array _ | object _ => cases h

/-- A value that another one is moved to stays as it is. -/
theorem coerce_of_moved? {type : FieldType} {value moved : Json}
    (h : value.moved? type = some moved) : coerce type moved = moved := by
  cases type with
  | any | object => cases h
  | int =>
      obtain ⟨m, rfl, hle⟩ := Json.exists_integer_of_asInt? h
      refine coerce_int_of_wholeInt64? ?_
      rw [Json.Number.wholeInt64?, Json.Number.toInt64?, Json.Integer.toInt64?, if_pos hle]
  | float =>
      obtain ⟨x, rfl⟩ := Json.exists_double_of_asFloat? h
      rfl
  | bool =>
      cases value with
      | string s =>
          obtain ⟨b, -, rfl⟩ := Option.map_eq_some_iff.mp h
          rfl
      | number n =>
          cases h
          rfl
      | null | bool _ | array _ | object _ => cases h
  | string =>
      cases value with
      | number _ | bool _ =>
          cases h
          rfl
      | null | string _ | array _ | object _ => cases h
  | uuid =>
      cases value with
      | number n =>
          cases h
          exact congrArg Json.string (Text.trim_of_not_isBlank n.not_isBlank_of_mem_write)
      | string s =>
          cases h
          exact congrArg Json.string (Text.trim_trim s)
      | null | bool _ | array _ | object _ => cases h
  | array =>
      cases value with
      | null | array _ => cases h
      | bool _ | number _ | string _ | object _ =>
          cases h
          rfl

/-- A second coercion of a value changes nothing. -/
theorem coerce_coerce (type : FieldType) (value : Json) :
    coerce type (coerce type value) = coerce type value := by
  cases hmoved : value.moved? type with
  | none =>
      have hsame : coerce type value = value := by
        rw [coerce_eq_getD_moved?, hmoved, Option.getD_none]
      rw [hsame, hsame]
  | some moved =>
      have hvalue : coerce type value = moved := by
        rw [coerce_eq_getD_moved?, hmoved, Option.getD_some]
      rw [hvalue, coerce_of_moved? hmoved]

/-! ## Objects -/

theorem Entries.adjust_adjust {α : Type} (d : Entries α) (key : String) (f g : α → α) :
    (d.adjust key f).adjust key g = d.adjust key (g ∘ f) := by
  simp only [adjust, List.map_map]
  refine List.map_congr_left fun entry _ => ?_
  simp only [Function.comp_apply]
  by_cases heq : entry.1 = key
  · simp only [if_pos heq]
  · simp only [if_neg heq]

theorem Json.wrapObject_wrapObject (value : Json) :
    value.wrapObject.wrapObject = value.wrapObject := by
  cases value <;> rfl

namespace Field

/-- A change under a key that no field has may be made before coercion or after it. -/
theorem coerceAll_adjust {fields : Schema} {key : String} (h : ∀ f ∈ fields, f.key ≠ key)
    (entries : Entries Json) (change : Json → Json) :
    coerceAll (entries.adjust key change) fields =
      (coerceAll entries fields).adjust key change := by
  induction fields generalizing entries with
  | nil => rfl
  | cons f rest ih =>
      obtain ⟨hf, hrest⟩ := List.forall_mem_cons.mp h
      rw [coerceAll, coerceAll, Entries.adjust_comm entries (Ne.symm hf), ih hrest]

/-- Where a second coercion does nothing to the values of single fields, it does nothing to an
object whose fields have different keys. -/
theorem coerceAll_coerceAll {fields : Schema} (hkeys : (fields.map key).Nodup)
    (hfields : ∀ f ∈ fields, f.coerce ∘ f.coerce = f.coerce) (entries : Entries Json) :
    coerceAll (coerceAll entries fields) fields = coerceAll entries fields := by
  induction fields generalizing entries with
  | nil => rfl
  | cons f rest ih =>
      obtain ⟨hf, hrest⟩ := List.nodup_cons.mp hkeys
      obtain ⟨hfield, hothers⟩ := List.forall_mem_cons.mp hfields
      have hne : ∀ g ∈ rest, g.key ≠ f.key := by
        intro g hg heq
        exact hf (heq ▸ List.mem_map_of_mem hg)
      rw [coerceAll, coerceAll, ← coerceAll_adjust hne, Entries.adjust_adjust, hfield,
        ih hrest hothers]

/-- A second coercion of a group changes nothing, if it does nothing to the objects in it. -/
theorem coerce_comp_coerce_group (a : Attributes) {fields : Schema}
    (h : ∀ entries, coerceAll (coerceAll entries fields) fields = coerceAll entries fields) :
    Field.coerce (.group a fields) ∘ Field.coerce (.group a fields) =
      Field.coerce (.group a fields) := by
  have hvisits : ((fun entries => coerceAll entries fields) ∘ fun entries =>
      coerceAll entries fields) = fun entries => coerceAll entries fields := funext h
  funext value
  simp only [Function.comp_apply, Field.coerce]
  split
  · rw [Json.mapObjects_wrapObject, Json.mapObjects_mapObjects, hvisits,
      Json.wrapObject_wrapObject]
  · rw [Json.mapObjects_mapObjects, hvisits]

end Field

/-! ## Schemas -/

/-- The fields of one object have different keys, at every depth. -/
inductive Schema.DistinctKeys : Schema → Prop
  /-- The keys of the fields differ, and so do those in every group among them. -/
  | intro {schema : Schema} (nodup : (schema.map Field.key).Nodup)
    (inner : ∀ a fields, Field.group a fields ∈ schema → Schema.DistinctKeys fields) :
    Schema.DistinctKeys schema

/-- The fields of a schema that can be served have different keys. -/
theorem Schema.WellFormed.distinctKeys {settings : Settings} {schema : Schema}
    (h : schema.WellFormed settings) : schema.DistinctKeys := by
  induction schema using Schema.induction with
  | level schema ih => exact ⟨h.nodup_keys, fun a fields hf => ih a fields hf (h.nested hf)⟩

/-- A second coercion of an object changes nothing. -/
theorem coerceObject_coerceObject {schema : Schema} (h : schema.DistinctKeys)
    (entries : Entries Json) :
    coerceObject schema (coerceObject schema entries) = coerceObject schema entries := by
  induction schema using Schema.induction generalizing entries with
  | level schema ih =>
      obtain ⟨hnodup, hinner⟩ := h
      refine Field.coerceAll_coerceAll hnodup ?_ entries
      intro f hf
      cases f with
      | leaf a => exact funext (coerce_coerce a.type)
      | group a fields =>
          exact Field.coerce_comp_coerce_group a (ih a fields hf (hinner a fields hf))

namespace Json

/-- The items of an array, or the value on its own. -/
def parts : Json → List Json
  | .array items => items
  | value => [value]

/-- One value is an object where the other one is, and what is no object is the same. -/
def SameButObjects (value value' : Json) : Prop :=
  value'.isObject = value.isObject ∧ (value.isObject = false → value' = value)

theorem sameButObjects_mapObject (f : List (String × Json) → List (String × Json))
    (value : Json) : value.SameButObjects (mapObject f value) := by
  cases value with
  | object entries => exact ⟨rfl, fun h => nomatch h⟩
  | null | bool _ | number _ | string _ | array _ => exact ⟨rfl, fun _ => rfl⟩

theorem parts_mapObjects (f : List (String × Json) → List (String × Json)) (value : Json) :
    (mapObjects f value).parts = value.parts.map (mapObject f) := by
  cases value <;> rfl

theorem parts_wrapObject (value : Json) : value.wrapObject.parts = value.parts := by
  cases value <;> rfl

/-- Beside an object there is what a visit makes of it. -/
theorem eq_of_mem_zip_map_mapObject {f : List (String × Json) → List (String × Json)}
    {values : List Json} {entries entries' : List (String × Json)}
    (h : (object entries, object entries') ∈ values.zip (values.map (mapObject f))) :
    entries' = f entries := by
  rw [List.zip_map_right, List.zip_eq_zipWith, List.zipWith_self, List.map_map] at h
  obtain ⟨value, -, heq⟩ := List.mem_map.mp h
  obtain ⟨rfl, hvisit⟩ := Prod.mk.inj heq
  exact (object.inj hvisit).symm

end Json

/-- The parts of a group are visited one by one. -/
theorem Field.parts_coerce_group (a : Attributes) (fields : Schema) (value : Json) :
    (Field.coerce (.group a fields) value).parts =
      value.parts.map (Json.mapObject fun entries => Field.coerceAll entries fields) := by
  rw [Field.coerce]
  split
  · rw [Json.parts_wrapObject, Json.parts_mapObjects]
  · rw [Json.parts_mapObjects]

/-- A group is an array after coercion if it was one, or if it was an object where an array is
declared. -/
theorem Field.isArray_coerce_group (a : Attributes) (fields : Schema) (value : Json) :
    (Field.coerce (.group a fields) value).IsArray ↔
      value.IsArray ∨ a.type = .array ∧ value.isObject = true := by
  rw [Field.coerce]
  split
  · next htype =>
    cases value <;> simp [Json.mapObjects, Json.mapObject, Json.wrapObject, Json.IsArray,
      Json.isObject, htype]
  · next htype =>
    cases value <;> simp [Json.mapObjects, Json.mapObject, Json.IsArray, Json.isObject, htype]

/-- The second object is what a schema may make of the first one at every depth: nothing is left
to be done, keys and undeclared values are the same, and of a group only objects are changed. -/
inductive Schema.Settled : Schema → Entries Json → Entries Json → Prop
  /-- A group keeps its parts but the objects among them, it becomes an array only where it was an
  object and an array is declared, and each object in it is settled by the schema of the group. -/
  | intro {schema : Schema} {before after : Entries Json}
    (again : coerceObject schema after = after)
    (keys : after.keys = before.keys)
    (undeclared : ∀ key, (∀ f ∈ schema, f.key ≠ key) → after.get? key = before.get? key)
    (kind : ∀ a fields value value', Field.group a fields ∈ schema →
      before.get? a.key = some value → after.get? a.key = some value' →
        (value'.IsArray ↔ value.IsArray ∨ a.type = .array ∧ value.isObject = true))
    (parts : ∀ a fields value value', Field.group a fields ∈ schema →
      before.get? a.key = some value → after.get? a.key = some value' →
        List.Forall₂ Json.SameButObjects value.parts value'.parts)
    (inner : ∀ a fields value value' object object', Field.group a fields ∈ schema →
      before.get? a.key = some value → after.get? a.key = some value' →
        (Json.object object, Json.object object') ∈ value.parts.zip value'.parts →
          Schema.Settled fields object object') :
    Schema.Settled schema before after

/-- Coercion by a schema whose fields have different keys settles every object: a second coercion
changes nothing, no key comes or goes, undeclared values stay, and in the groups the same holds of
every object, while all that is no object stays. -/
theorem Schema.settled_coerceObject {schema : Schema} (h : schema.DistinctKeys)
    (entries : Entries Json) : schema.Settled entries (coerceObject schema entries) := by
  induction schema using Schema.induction generalizing entries with
  | level schema ih =>
      have hagain := coerceObject_coerceObject h entries
      obtain ⟨hnodup, hinner⟩ := h
      have hgroup : ∀ {a : Attributes} {fields : Schema} {value value' : Json},
          Field.group a fields ∈ schema → entries.get? a.key = some value →
            (coerceObject schema entries).get? a.key = some value' →
              value' = Field.coerce (.group a fields) value := by
        intro a fields value value' hf hvalue hvalue'
        have hget : (coerceObject schema entries).get? a.key =
            (entries.get? a.key).map (Field.coerce (.group a fields)) :=
          Field.get?_coerceAll hnodup hf
        rw [hvalue, hvalue'] at hget
        exact Option.some.inj hget
      refine ⟨hagain, Field.keys_coerceAll entries schema,
        fun key hkey => Field.get?_coerceAll_of_not_mem hkey, ?_, ?_, ?_⟩
      · intro a fields value value' hf hvalue hvalue'
        rw [hgroup hf hvalue hvalue']
        exact Field.isArray_coerce_group a fields value
      · intro a fields value value' hf hvalue hvalue'
        rw [hgroup hf hvalue hvalue', Field.parts_coerce_group, List.forall₂_map_right_iff,
          List.forall₂_same]
        intro part _
        exact Json.sameButObjects_mapObject _ part
      · intro a fields value value' object object' hf hvalue hvalue' hpair
        rw [hgroup hf hvalue hvalue', Field.parts_coerce_group] at hpair
        have hsettled := ih a fields hf (hinner a fields hf) object
        rwa [Json.eq_of_mem_zip_map_mapObject hpair]

/-- A ticket with a number for an identifier, a flag and a list of seats. -/
def ticket : Schema :=
  [.leaf { name := "id", type := .uuid }, .leaf { name := "paid", type := .bool },
    .group { name := "seats", type := .array } [.leaf { name := "row", type := .string }]]

/-- A ticket with a single seat, which is no list yet, and a comment that is not declared. -/
def looseTicket : Entries Json :=
  [("comment", .string " 7 "), ("id", .number (.integer ⟨7, by decide, by decide⟩)),
    ("paid", .string "yes"), ("seats", .object [("aisle", .string "yes"), ("row", .bool true)])]

theorem ticket_settled_coerceObject :
    ticket.DistinctKeys ∧ ticket.Settled looseTicket (coerceObject ticket looseTicket) ∧
      coerceObject ticket looseTicket =
        [("comment", .string " 7 "), ("id", .string "7"), ("paid", .bool true),
          ("seats", .array [.object [("aisle", .string "yes"), ("row", .string "true")]])] := by
  have hkeys : ticket.DistinctKeys := by
    have hcheck : ticket.check ⟨∅, ∅, ⟨1024, 100, 8⟩⟩ = .ok () := by decide
    exact (Schema.wellFormed_of_check hcheck).distinctKeys
  exact ⟨hkeys, Schema.settled_coerceObject hkeys looseTicket, rfl⟩

end Intake
