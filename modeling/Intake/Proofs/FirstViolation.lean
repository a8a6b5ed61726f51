import Intake.Proofs.Violations

/-!
# The first violation

Validation stops at the first violation that it meets.  The turns of violations are compared like
words in a dictionary, so that a level comes ahead of its fields, and a field with all that stands
below it ahead of the next one.

Main results:

- {lit}`Finds` says that an outcome is the first of the violations, and theorem {lit}`Finds.cons`
  has it for two checks that are made one after the other.
- Theorem {lit}`finds_enter`: that is so for the objects that validation enters.
- Theorem {lit}`validate_exact`: picked values are accepted exactly when they are valid, and refused
  with their first violation otherwise.
-/

namespace Intake

/-! ## Order -/

/-- The violation has its turn before all others. -/
def First (P : Turn → Violation → Prop) (v : Violation) : Prop :=
  ∃ turn, P turn v ∧
    ∀ turn' v', P turn' v' → (turn' = turn ∧ v' = v) ∨ List.Lex (· < ·) turn turn'

/-- There is one first violation at most. -/
theorem First.unique {P : Turn → Violation → Prop} {v w : Violation} (hv : First P v)
    (hw : First P w) : v = w := by
  obtain ⟨turn, hturn, hfirst⟩ := hv
  obtain ⟨turn', hturn', hfirst'⟩ := hw
  rcases hfirst turn' w hturn' with ⟨-, heq⟩ | hlt
  · exact heq.symm
  · rcases hfirst' turn v hturn with ⟨-, heq⟩ | hlt'
    · exact heq
    · exact absurd hlt' (List.lt_asymm hlt)

/-! ## Outcomes -/

/-- The outcome is the first of the violations, or success if there is none. -/
structure Finds (P : Turn → Violation → Prop) (outcome : Except Violation Unit) : Prop where
  /-- With success there is no violation. -/
  none : outcome = .ok () → ∀ turn v, ¬ P turn v
  /-- A failure is the first violation. -/
  first : ∀ v, outcome = .error v → First P v

namespace Finds

variable {P : Turn → Violation → Prop} {outcome : Except Violation Unit}

theorem congr {P' : Turn → Violation → Prop} (h : Finds P outcome)
    (hiff : ∀ turn v, P' turn v ↔ P turn v) : Finds P' outcome := by
  have heq : P' = P := by
    funext turn v
    exact propext (hiff turn v)
  rw [heq]
  exact h

theorem ok (h : ∀ turn v, ¬ P turn v) : Finds P (.ok ()) := by
  refine ⟨fun _ => h, ?_⟩
  intro v hv
  cases hv

/-- A violation at the root comes first. -/
theorem error {v : Violation} (hv : P [] v) (hroot : ∀ w, P [] w → w = v) :
    Finds P (.error v) := by
  constructor
  · intro hok
    cases hok
  · intro w hw
    cases hw
    refine ⟨[], hv, ?_⟩
    intro turn' w hw
    cases turn' with
    | nil => exact .inl ⟨rfl, hroot w hw⟩
    | cons j turn' => exact .inr .nil

/-- An outcome is found where nothing else is looked at. -/
theorem root (outcome : Except Violation Unit) :
    Finds (fun turn v => turn = [] ∧ outcome = .error v) outcome := by
  cases outcome with
  | ok =>
      apply Finds.ok
      rintro turn v ⟨-, hv⟩
      cases hv
  | error v =>
      apply Finds.error ⟨rfl, rfl⟩
      rintro w ⟨-, hw⟩
      cases hw
      rfl

theorem eq_ok_iff (h : Finds P outcome) : outcome = .ok () ↔ ∀ turn v, ¬ P turn v := by
  refine ⟨h.none, ?_⟩
  intro hnone
  cases houtcome : outcome with
  | ok => rfl
  | error v =>
      obtain ⟨turn, hturn, -⟩ := h.first v houtcome
      exact absurd hturn (hnone turn v)

theorem eq_error_iff (h : Finds P outcome) {v : Violation} :
    outcome = .error v ↔ First P v := by
  refine ⟨h.first v, ?_⟩
  intro hfirst
  cases houtcome : outcome with
  | ok =>
      obtain ⟨turn, hturn, -⟩ := hfirst
      exact absurd hturn (h.none houtcome turn v)
  | error w => rw [(h.first w houtcome).unique hfirst]

end Finds

/-! ## Checks one after the other -/

section

variable {α : Type} {Q : Nat → α → Turn → Violation → Prop}

/-- A violation by one of the elements of a list, the first of which is at position {lit}`n`. -/
inductive Among (Q : Nat → α → Turn → Violation → Prop) (n : Nat) (xs : List α) :
    Turn → Violation → Prop
  /-- The turn begins with the position of the element. -/
  | intro {j : Nat} {x : α} {turn : Turn} {v : Violation} (hx : xs[j]? = some x)
    (h : Q (n + j) x turn v) : Among Q n xs ((n + j) :: turn) v

theorem among_cons_iff {n : Nat} {x : α} {xs : List α} {turn : Turn} {v : Violation} :
    Among Q n (x :: xs) turn v ↔
      (∃ rest, turn = n :: rest ∧ Q n x rest v) ∨ Among Q (n + 1) xs turn v := by
  constructor
  · intro hamong
    cases hamong with
    | @intro j _ rest _ hx h =>
        cases j with
        | zero =>
            cases hx
            exact .inl ⟨rest, rfl, h⟩
        | succ j =>
            have hposition : n + (j + 1) = n + 1 + j := by omega
            rw [hposition] at h ⊢
            exact .inr (.intro hx h)
  · rintro (⟨rest, rfl, h⟩ | hamong)
    · exact Among.intro (j := 0) rfl h
    · cases hamong with
      | @intro j _ rest _ hx h =>
          have hposition : n + 1 + j = n + (j + 1) := by omega
          rw [hposition] at h ⊢
          exact .intro hx h

theorem Among.lt {n : Nat} {xs : List α} {turn rest : Turn} {v : Violation}
    (h : Among Q (n + 1) xs turn v) : List.Lex (· < ·) (n :: rest) turn := by
  cases h with
  | intro hx h => exact .rel (by omega)

namespace Finds

theorem nil (n : Nat) : Finds (Among Q n []) (.ok ()) := by
  apply Finds.ok
  rintro turn v ⟨hx, -⟩
  cases hx

/-- Of two checks one after the other the first failure is found. -/
theorem cons {n : Nat} {x : α} {xs : List α} {c d : Except Violation Unit}
    (hc : Finds (Q n x) c) (hd : Finds (Among Q (n + 1) xs) d) :
    Finds (Among Q n (x :: xs)) (c >>= fun _ => d) := by
  cases c with
  | ok =>
      refine hd.congr ?_
      intro turn v
      rw [among_cons_iff, or_iff_right]
      rintro ⟨rest, -, h⟩
      exact hc.none rfl rest v h
  | error v =>
      constructor
      · intro hok
        cases hok
      · intro w hw
        cases hw
        obtain ⟨turn, hturn, hfirst⟩ := hc.first v rfl
        refine ⟨n :: turn, among_cons_iff.mpr (.inl ⟨turn, rfl, hturn⟩), ?_⟩
        intro turn' v' h
        rcases among_cons_iff.mp h with ⟨rest, rfl, hx⟩ | hrest
        · rcases hfirst rest v' hx with ⟨rfl, rfl⟩ | hlt
          · exact .inl ⟨rfl, rfl⟩
          · exact .inr (.cons hlt)
        · exact .inr hrest.lt

end Finds

end

/-! ## What validation finds -/

section

variable {settings : Settings} {depth : Nat} {path : Path}

/-- Applies the rule with a name to the value at {lit}`path`. -/
def applyRule (rules : Dict Rule) (path : Path) (value : Json) (name : String) :
    Except Violation Unit :=
  match rules.get? name with
  | none => .error ⟨path, .unregistered name⟩
  | some rule => (rule value).mapError fun reason => ⟨path, .refused name reason⟩

theorem applyRules_cons (rules : Dict Rule) (value : Json) (name : String) (rest : List String) :
    applyRules rules path value (name :: rest) =
      applyRule rules path value name >>= fun _ => applyRules rules path value rest := by
  rw [applyRules, applyRule]
  cases rules.get? name with
  | none => rfl
  | some rule =>
      cases hvalue : rule value with
      | ok => simp only [hvalue]; rfl
      | error reason => simp only [hvalue]; rfl

theorem applyRule_eq_error {rules : Dict Rule} {value : Json} {name : String} {v : Violation} :
    applyRule rules path value name = .error v ↔
      ∃ fault, Refuses rules value name fault ∧ v = ⟨path, fault⟩ := by
  unfold applyRule
  constructor
  · intro h
    split at h
    · next hget =>
      cases h
      exact ⟨_, .unregistered hget, rfl⟩
    · next rule hget =>
      cases hvalue : rule value with
      | ok => rw [hvalue] at h; cases h
      | error reason =>
          rw [hvalue] at h
          cases h
          exact ⟨_, .refused hget hvalue, rfl⟩
  · rintro ⟨fault, hfault, rfl⟩
    cases hfault with
    | unregistered hget => rw [hget]
    | refused hget hvalue =>
        rw [hget]
        simp only [hvalue]
        rfl

/-- The rules of a leaf are applied until one has a fault to find. -/
theorem finds_applyRules (rules : Dict Rule) (value : Json) (n : Nat) (names : List String) :
    Finds
      (Among (fun _ name turn v => turn = [] ∧ applyRule rules path value name = .error v) n names)
      (applyRules rules path value names) := by
  induction names generalizing n with
  | nil => exact .nil n
  | cons name rest ih =>
      rw [applyRules_cons]
      exact .cons (.root _) (ih (n + 1))

theorem finds_leaf (a : Attributes) (value : Json) :
    Finds (Field.Violates settings depth path (.leaf a) (some value))
      (Field.validate settings depth path value (.leaf a)) := by
  rw [Field.validate]
  refine (finds_applyRules settings.rules value 0 a.rules).congr ?_
  intro turn v
  constructor
  · intro hviolates
    cases hviolates with
    | @rule _ _ _ _ k _ fault hname hfault =>
        rw [← Nat.zero_add k]
        exact .intro hname ⟨rfl, applyRule_eq_error.mpr ⟨fault, hfault, rfl⟩⟩
  · rintro ⟨hname, rfl, herror⟩
    obtain ⟨fault, hfault, rfl⟩ := applyRule_eq_error.mp herror
    rw [Nat.zero_add]
    exact .rule hname hfault

/-! ### Groups -/

/-- The violations of an item of an array, given those of objects. -/
def atItem (P : Path → Entries Json → Turn → Violation → Prop) (place : Path) :
    Json → Turn → Violation → Prop
  | .object entries, turn, v => P place entries turn v
  | _, turn, v => turn = [] ∧ v = ⟨place, .notObject⟩

theorem atItem_iff {P : Path → Entries Json → Turn → Violation → Prop} {place : Path} {item : Json}
    {turn : Turn} {v : Violation} :
    atItem P place item turn v ↔
      (item.isObject = false ∧ turn = [] ∧ v = ⟨place, .notObject⟩) ∨
        ∃ entries, item = .object entries ∧ P place entries turn v := by
  cases item <;> simp [atItem, Json.isObject]

variable {check : Path → Entries Json → Except Violation Unit}
  {P : Path → Entries Json → Turn → Violation → Prop}

theorem finds_notObject (place : Path) :
    Finds (fun turn v => turn = [] ∧ v = ⟨place, .notObject⟩) (.error ⟨place, .notObject⟩) :=
  .error ⟨rfl, rfl⟩ fun _ h => h.2

/-- The items of an array are visited until one is no object or has a violation. -/
theorem finds_validateItems (h : ∀ place entries, Finds (P place entries) (check place entries))
    (n : Nat) (items : List Json) :
    Finds (Among (fun i item => atItem P (path.item i) item) n items)
      (validateItems check path n items) := by
  induction items generalizing n with
  | nil => exact .nil n
  | cons item rest ih =>
      match item with
      | .object entries => exact .cons (h (path.item n) entries) (ih (n + 1))
      | .null | .bool _ | .number _ | .string _ | .array _ =>
          exact Finds.cons (c := .error ⟨path.item n, .notObject⟩) (finds_notObject (path.item n))
            (ih (n + 1))

/-- A value without objects is refused as a whole. -/
theorem finds_neither {a : Attributes} {fields : Schema} {value : Json}
    (hobject : value.isObject = false) (harray : ¬ value.IsArray) :
    Finds (Field.Violates settings depth path (.group a fields) (some value))
      (.error ⟨path, .notObject⟩) := by
  refine (finds_notObject path).congr ?_
  intro turn v
  constructor
  · intro hviolates
    cases hviolates with
    | notObject => exact ⟨rfl, rfl⟩
    | @item _ _ _ _ items => exact absurd ⟨items, rfl⟩ harray
    | object => cases hobject
    | @element _ _ _ _ items => exact absurd ⟨items, rfl⟩ harray
  · rintro ⟨rfl, rfl⟩
    exact .notObject hobject harray

/-- The objects of a group are entered one after the other. -/
theorem finds_group {a : Attributes} {fields : Schema}
    (h : ∀ place entries, Finds (Schema.Violates settings (depth + 1) place fields entries)
      (enter settings.limits (depth + 1) place
        (Field.validateAll settings (depth + 1) place entries fields))) (value : Json) :
    Finds (Field.Violates settings depth path (.group a fields) (some value))
      (Field.validate settings depth path value (.group a fields)) := by
  rw [Field.validate]
  cases value with
  | object entries =>
      refine (h path entries).congr ?_
      intro turn v
      refine ⟨?_, .object⟩
      intro hviolates
      cases hviolates with
      | notObject hobject => cases hobject
      | object hinner => exact hinner
  | array items =>
      refine (finds_validateItems h 0 items).congr ?_
      intro turn v
      constructor
      · intro hviolates
        cases hviolates with
        | notObject hobject harray => exact absurd ⟨items, rfl⟩ harray
        | @item _ _ _ _ _ i _ hitem hobject =>
            rw [← Nat.zero_add i]
            exact .intro hitem (atItem_iff.mpr (.inl ⟨hobject, rfl, rfl⟩))
        | @element _ _ _ _ _ i entries _ _ hitem hinner =>
            rw [← Nat.zero_add i] at hinner ⊢
            exact .intro hitem (atItem_iff.mpr (.inr ⟨entries, rfl, hinner⟩))
      · rintro ⟨hitem, hviolates⟩
        rw [Nat.zero_add] at hviolates ⊢
        rcases atItem_iff.mp hviolates with ⟨hobject, rfl, rfl⟩ | ⟨entries, rfl, hinner⟩
        · exact .item hitem hobject
        · exact .element hitem hinner
  | null => exact finds_neither rfl (by simp [Json.IsArray])
  | bool b => exact finds_neither rfl (by simp [Json.IsArray])
  | number n => exact finds_neither rfl (by simp [Json.IsArray])
  | string s => exact finds_neither rfl (by simp [Json.IsArray])

/-! ### Objects -/

/-- Checks what stands under the key of a field. -/
def Field.validateFound (settings : Settings) (depth : Nat) (path : Path) (f : Field) :
    Option Json → Except Violation Unit
  | some value => Field.validate settings depth path value f
  | none => if f.attributes.required then .error ⟨path, .required⟩ else .ok ()

theorem validateAll_cons (entries : Entries Json) (f : Field) (rest : Schema) :
    Field.validateAll settings depth path entries (f :: rest) =
      f.validateFound settings depth (path.child f.name) (entries.get? f.key) >>= fun _ =>
        Field.validateAll settings depth path entries rest := by
  rw [Field.validateAll]
  cases entries.get? f.key with
  | some value => rfl
  | none =>
      simp only [Field.validateFound]
      cases f.attributes.required <;> rfl

/-- Two objects are held against two schemas alike when they are so field by field. -/
theorem validateAll_congr {entries entries' : Entries Json} {fields fields' : Schema}
    (h : List.Forall₂ (fun f g =>
      g.validateFound settings depth (path.child g.name) (entries'.get? g.key) =
        f.validateFound settings depth (path.child f.name) (entries.get? f.key)) fields fields') :
    Field.validateAll settings depth path entries' fields' =
      Field.validateAll settings depth path entries fields := by
  induction h with
  | nil => rfl
  | cons hfield _ ih => rw [validateAll_cons, validateAll_cons, hfield, ih]

theorem finds_validateFound {f : Field}
    (h : ∀ a fields, f = .group a fields → ∀ place entries,
      Finds (Schema.Violates settings (depth + 1) place fields entries)
        (enter settings.limits (depth + 1) place
          (Field.validateAll settings (depth + 1) place entries fields))) (found : Option Json) :
    Finds (Field.Violates settings depth path f found)
      (f.validateFound settings depth path found) := by
  cases found with
  | some value =>
      cases f with
      | leaf a => exact finds_leaf a value
      | group a fields => exact finds_group (h a fields rfl) value
  | none =>
      refine (Finds.root _).congr ?_
      intro turn v
      simp only [Field.validateFound]
      constructor
      · intro hviolates
        cases hviolates with
        | required hrequired =>
            rw [if_pos hrequired]
            exact ⟨rfl, rfl⟩
      · rintro ⟨rfl, herror⟩
        split at herror
        · next hrequired =>
          cases herror
          exact .required hrequired
        · cases herror

/-- The fields of an object are visited until one is violated. -/
theorem finds_validateAll {entries : Entries Json} {fields : Schema}
    (h : ∀ f ∈ fields, Finds
      (Field.Violates settings depth (path.child f.name) f (entries.get? f.key))
      (f.validateFound settings depth (path.child f.name) (entries.get? f.key))) (n : Nat) :
    Finds
      (Among (fun _ f => Field.Violates settings depth (path.child f.name) f (entries.get? f.key)) n
        fields)
      (Field.validateAll settings depth path entries fields) := by
  induction fields generalizing n with
  | nil => exact .nil n
  | cons f rest ih =>
      obtain ⟨hf, hrest⟩ := List.forall_mem_cons.mp h
      rw [validateAll_cons]
      exact .cons hf (ih hrest (n + 1))

/-- An object is entered if it is not too deep, and then its fields are visited. -/
theorem finds_enter (schema : Schema) (entries : Entries Json) :
    Finds (Schema.Violates settings depth path schema entries)
      (enter settings.limits depth path
        (Field.validateAll settings depth path entries schema)) := by
  -- The objects of a group are entered one level deeper with the schema of the group.
  induction schema using Schema.induction generalizing depth path entries with
  | level schema ih =>
      by_cases hdepth : settings.limits.maxDepth < depth
      · rw [enter, if_pos hdepth]
        refine .error (.tooDeep hdepth) ?_
        intro w hw
        cases hw
        rfl
      · rw [enter, if_neg hdepth]
        have hfields : ∀ f ∈ schema, Finds
            (Field.Violates settings depth (path.child f.name) f (entries.get? f.key))
            (f.validateFound settings depth (path.child f.name) (entries.get? f.key)) := by
          intro f hf
          refine finds_validateFound ?_ (entries.get? f.key)
          rintro a fields rfl place inner
          exact ih a fields hf inner
        refine (finds_validateAll hfields 0).congr ?_
        intro turn v
        constructor
        · intro hviolates
          cases hviolates with
          | tooDeep h => exact absurd h hdepth
          | @field _ _ _ _ j _ _ _ hf hfield =>
              rw [← Nat.zero_add j]
              exact .intro hf hfield
        · rintro ⟨hf, hfield⟩
          rw [Nat.zero_add]
          exact .field hf hfield

end

/-! ## Main result -/

/-- Validation accepts picked values exactly when they are valid, and gives their first violation
otherwise, which is told to clients with the text of its place. -/
theorem validate_exact (settings : Settings) (schema : Schema) (picked : Entries Json) :
    (validate settings schema picked = .ok () ↔ schema.Valid settings 1 picked) ∧
      (∀ v, validate settings schema picked = .error v ↔
        First (Schema.Violates settings 1 [] schema picked) v) ∧
      ∀ v : Violation, v.toError.field = v.path.text := by
  have hfinds : Finds (Schema.Violates settings 1 [] schema picked)
      (validate settings schema picked) := finds_enter schema picked
  refine ⟨?_, ?_, ?_⟩
  · rw [hfinds.eq_ok_iff]
    exact Schema.valid_iff.symm
  · intro v
    exact hfinds.eq_error_iff
  · intro v
    exact v.field_toError

example :
    (validate .standard
      [.group { name := "items", alias? := some "lines" }
        [.leaf { name := "sku", alias? := some "article", required := true }]]
      [("lines", .array [.object [("article", .string "x1")], .object [], .null])]).mapError
        Violation.toError =
      .error (.required "items[1].sku") := by
  rfl

end Intake
