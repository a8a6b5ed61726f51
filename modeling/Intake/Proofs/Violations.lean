import Intake.Proofs.Objects
import Intake.Proofs.Schema

/-!
# Violations

What a schema demands of picked values, and how they can fall short of it, without regard to the
order in which validation looks at them.

Main results:

- {lit}`Schema.Valid` says that entries are what the schema demands, at every depth.
- {lit}`Schema.Violates` says which violations entries have, each with its place and its turn, the
  positions of the fields, items and rules that lead to it.
- Theorem {lit}`Schema.valid_iff`: entries are valid exactly when they have no violations.
-/

namespace Intake

/-! ## Violations and their turns -/

/-- The positions that lead to a violation, from the root on. -/
abbrev Turn := List Nat

/-- A fault that the rule with a name has to find with a value. -/
inductive Refuses (rules : Dict Rule) (value : Json) (name : String) : Fault → Prop
  /-- There may be no rule with the name. -/
  | unregistered (hget : rules.get? name = none) : Refuses rules value name (.unregistered name)
  /-- The rule may refuse the value. -/
  | refused {rule : Rule} {reason : Reason} (hget : rules.get? name = some rule)
    (hrule : rule value = .error reason) : Refuses rules value name (.refused name reason)

mutual

/-- A violation of the schema by the entries of the object at a place of the given depth. -/
inductive Schema.Violates (settings : Settings) :
    Nat → Path → Schema → Entries Json → Turn → Violation → Prop
  /-- The object itself may be nested too deep. -/
  | tooDeep {depth : Nat} {path : Path} {schema : Schema} {entries : Entries Json}
    (hdepth : settings.limits.maxDepth < depth) :
    Schema.Violates settings depth path schema entries []
      ⟨path, .tooDeep settings.limits.maxDepth⟩
  /-- A field may be violated by what stands under its key. -/
  | field {depth : Nat} {path : Path} {schema : Schema} {entries : Entries Json} {j : Nat}
    {f : Field} {turn : Turn} {v : Violation} (hf : schema[j]? = some f)
    (hfield : Field.Violates settings depth (path.child f.name) f (entries.get? f.key) turn v) :
    Schema.Violates settings depth path schema entries (j :: turn) v

/-- A violation of a field at a place, by the value that stands under its key in an object of the
given depth. -/
inductive Field.Violates (settings : Settings) :
    Nat → Path → Field → Option Json → Turn → Violation → Prop
  /-- There may be no value where one is required. -/
  | required {depth : Nat} {path : Path} {f : Field} (hrequired : f.attributes.required = true) :
    Field.Violates settings depth path f none [] ⟨path, .required⟩
  /-- A rule of a leaf may be missing or refuse the value. -/
  | rule {depth : Nat} {path : Path} {a : Attributes} {value : Json} {k : Nat} {name : String}
    {fault : Fault} (hname : a.rules[k]? = some name)
    (hfault : Refuses settings.rules value name fault) :
    Field.Violates settings depth path (.leaf a) (some value) [k] ⟨path, fault⟩
  /-- The value of a group may be neither an object nor an array. -/
  | notObject {depth : Nat} {path : Path} {a : Attributes} {fields : Schema} {value : Json}
    (hobject : value.isObject = false) (harray : ¬ value.IsArray) :
    Field.Violates settings depth path (.group a fields) (some value) [] ⟨path, .notObject⟩
  /-- An item of an array may be no object. -/
  | item {depth : Nat} {path : Path} {a : Attributes} {fields : Schema} {items : List Json}
    {i : Nat} {item : Json} (hitem : items[i]? = some item) (hobject : item.isObject = false) :
    Field.Violates settings depth path (.group a fields) (some (.array items)) [i]
      ⟨path.item i, .notObject⟩
  /-- An object may violate the schema of the group. -/
  | object {depth : Nat} {path : Path} {a : Attributes} {fields : Schema} {entries : Entries Json}
    {turn : Turn} {v : Violation}
    (hinner : Schema.Violates settings (depth + 1) path fields entries turn v) :
    Field.Violates settings depth path (.group a fields) (some (.object entries)) turn v
  /-- So may an object that is an item of an array. -/
  | element {depth : Nat} {path : Path} {a : Attributes} {fields : Schema} {items : List Json}
    {i : Nat} {entries : Entries Json} {turn : Turn} {v : Violation}
    (hitem : items[i]? = some (.object entries))
    (hinner : Schema.Violates settings (depth + 1) (path.item i) fields entries turn v) :
    Field.Violates settings depth path (.group a fields) (some (.array items)) (i :: turn) v

end

/-! ## Valid values -/

/-- The entries of an object at the given depth are what the schema demands. -/
inductive Schema.Valid (settings : Settings) : Nat → Schema → Entries Json → Prop
  /-- The object is not too deep, what is required is there, leaves have values that all their rules
  accept, and the values of groups are objects, or arrays of objects, that are valid one level
  deeper. -/
  | intro {depth : Nat} {schema : Schema} {entries : Entries Json}
    (depth_le : depth ≤ settings.limits.maxDepth)
    (required : ∀ f ∈ schema, f.attributes.required = true →
      ∃ value, entries.get? f.key = some value)
    (rules : ∀ a value, Field.leaf a ∈ schema → entries.get? a.key = some value →
      ∀ name ∈ a.rules, ∃ rule, settings.rules.get? name = some rule ∧ rule value = .ok ())
    (kind : ∀ a fields value, Field.group a fields ∈ schema → entries.get? a.key = some value →
      value.IsGroup)
    (inner : ∀ a fields value, Field.group a fields ∈ schema → entries.get? a.key = some value →
      ∀ object ∈ value.objects, Schema.Valid settings (depth + 1) fields object) :
    Schema.Valid settings depth schema entries

/-! ## Valid values have no violations -/

section

variable {settings : Settings} {depth : Nat} {path : Path}

theorem not_refuses_iff {rules : Dict Rule} {value : Json} {name : String} :
    (∀ fault, ¬ Refuses rules value name fault) ↔
      ∃ rule, rules.get? name = some rule ∧ rule value = .ok () := by
  constructor
  · intro h
    cases hget : rules.get? name with
    | none => exact absurd (.unregistered hget) (h _)
    | some rule =>
        cases hvalue : rule value with
        | ok => exact ⟨rule, rfl, hvalue⟩
        | error reason => exact absurd (.refused hget hvalue) (h _)
  · rintro ⟨rule, hget, haccepts⟩ fault hfault
    cases hfault with
    | unregistered hnone => rw [hget] at hnone; cases hnone
    | refused hsome hrefuses =>
        rw [hget] at hsome
        cases hsome
        rw [haccepts] at hrefuses
        cases hrefuses

namespace Field

theorem not_violates_none_iff {f : Field} :
    (∀ turn v, ¬ Field.Violates settings depth path f none turn v) ↔
      f.attributes.required = false := by
  rw [← Bool.not_eq_true]
  constructor
  · intro h hrequired
    exact h _ _ (.required hrequired)
  · intro h turn v hviolates
    cases hviolates with
    | required hrequired => exact h hrequired

theorem not_violates_leaf_iff {a : Attributes} {value : Json} :
    (∀ turn v, ¬ Field.Violates settings depth path (.leaf a) (some value) turn v) ↔
      ∀ name ∈ a.rules, ∃ rule, settings.rules.get? name = some rule ∧ rule value = .ok () := by
  simp only [← not_refuses_iff]
  constructor
  · intro h name hname fault hfault
    obtain ⟨k, hk⟩ := List.mem_iff_getElem?.mp hname
    exact h _ _ (.rule hk hfault)
  · intro h turn v hviolates
    cases hviolates with
    | rule hname hfault => exact h _ (List.mem_of_getElem? hname) _ hfault

/-- The value of a group has no violations when there is nothing but objects, and none of them has
any. -/
theorem not_violates_group_iff {a : Attributes} {fields : Schema} {value : Json}
    {R : Entries Json → Prop}
    (hinner : ∀ place entries,
      R entries ↔ ∀ turn v, ¬ Schema.Violates settings (depth + 1) place fields entries turn v) :
    (∀ turn v, ¬ Field.Violates settings depth path (.group a fields) (some value) turn v) ↔
      value.IsGroup ∧ ∀ object ∈ value.objects, R object := by
  constructor
  · intro h
    constructor
    · rw [Json.isGroup_iff]
      by_contra hneither
      obtain ⟨hobject, harray⟩ := not_or.mp hneither
      refine h _ _ (.notObject (Bool.not_eq_true _ |>.mp hobject) ?_)
      intro hitems
      refine harray ⟨hitems, ?_⟩
      rintro items rfl item hitem
      by_contra hobject
      obtain ⟨i, hi⟩ := List.mem_iff_getElem?.mp hitem
      exact h _ _ (.item hi (Bool.not_eq_true _ |>.mp hobject))
    · intro object hobject
      rcases Json.mem_objects_iff.mp hobject with rfl | ⟨items, rfl, hitem⟩
      · exact (hinner path object).mpr fun turn v hviolates => h turn v (.object hviolates)
      · obtain ⟨i, hi⟩ := List.mem_iff_getElem?.mp hitem
        exact (hinner (path.item i) object).mpr fun turn v hviolates =>
          h (i :: turn) v (.element hi hviolates)
  · rintro ⟨hkind, hobjects⟩ turn v hviolates
    cases hviolates with
    | notObject hobject harray =>
        rcases Json.isGroup_iff.mp hkind with h | h
        · rw [hobject] at h
          cases h
        · exact harray h.1
    | @item _ _ _ _ items _ item hitem hobject =>
        rw [hkind item (List.mem_of_getElem? hitem)] at hobject
        cases hobject
    | @object _ _ _ _ entries _ _ hviolates =>
        have hvalid := hobjects entries (Json.mem_objects_iff.mpr (.inl rfl))
        exact (hinner _ entries).mp hvalid _ _ hviolates
    | @element _ _ _ _ items _ entries _ _ hitem hviolates =>
        have hmem := Json.mem_objects_array.mpr (List.mem_of_getElem? hitem)
        exact (hinner _ entries).mp (hobjects entries hmem) _ _ hviolates

end Field

namespace Schema

theorem not_violates_iff {schema : Schema} {entries : Entries Json} :
    (∀ turn v, ¬ schema.Violates settings depth path entries turn v) ↔
      depth ≤ settings.limits.maxDepth ∧ ∀ f ∈ schema, ∀ turn v,
        ¬ Field.Violates settings depth (path.child f.name) f (entries.get? f.key) turn v := by
  constructor
  · intro h
    constructor
    · by_contra hdepth
      exact h _ _ (.tooDeep (by omega))
    · intro f hf turn v hviolates
      obtain ⟨j, hj⟩ := List.mem_iff_getElem?.mp hf
      exact h (j :: turn) v (.field hj hviolates)
  · rintro ⟨hdepth, hfields⟩ turn v hviolates
    cases hviolates with
    | tooDeep h => omega
    | field hf hfield => exact hfields _ (List.mem_of_getElem? hf) _ _ hfield

/-- Entries are valid exactly when they do not violate the schema. -/
theorem valid_iff {schema : Schema} {entries : Entries Json} :
    schema.Valid settings depth entries ↔
      ∀ turn v, ¬ schema.Violates settings depth path entries turn v := by
  induction schema using Schema.induction generalizing depth path entries with
  | level schema ih =>
      rw [not_violates_iff]
      constructor
      · rintro ⟨depth_le, required, rules, kind, inner⟩
        refine ⟨depth_le, ?_⟩
        intro f hf
        cases hfound : entries.get? f.key with
        | none =>
            rw [Field.not_violates_none_iff, ← Bool.not_eq_true]
            intro hrequired
            obtain ⟨value, hvalue⟩ := required f hf hrequired
            rw [hfound] at hvalue
            cases hvalue
        | some value =>
            cases f with
            | leaf a => exact Field.not_violates_leaf_iff.mpr (rules a value hf hfound)
            | group a fields =>
                exact (Field.not_violates_group_iff fun place object => ih a fields hf).mpr
                  ⟨kind a fields value hf hfound, inner a fields value hf hfound⟩
      · rintro ⟨depth_le, hfields⟩
        have hgroups : ∀ a fields value, Field.group a fields ∈ schema →
            entries.get? a.key = some value →
            value.IsGroup ∧ ∀ object ∈ value.objects, Valid settings (depth + 1) fields object := by
          intro a fields value hf hfound
          have hgroup := hfields _ hf
          have hkey : entries.get? (Field.group a fields).key = some value := hfound
          rw [hkey] at hgroup
          exact (Field.not_violates_group_iff fun place object => ih a fields hf).mp hgroup
        refine ⟨depth_le, ?_, ?_, ?_, ?_⟩
        · intro f hf hrequired
          cases hfound : entries.get? f.key with
          | some value => exact ⟨value, rfl⟩
          | none =>
              have hmissing := hfields f hf
              rw [hfound, Field.not_violates_none_iff, hrequired] at hmissing
              cases hmissing
        · intro a value hf hfound
          have hleaf := hfields _ hf
          have hkey : entries.get? (Field.leaf a).key = some value := hfound
          rw [hkey] at hleaf
          exact Field.not_violates_leaf_iff.mp hleaf
        · intro a fields value hf hfound
          exact (hgroups a fields value hf hfound).1
        · intro a fields value hf hfound
          exact (hgroups a fields value hf hfound).2

end Schema

end

end Intake
