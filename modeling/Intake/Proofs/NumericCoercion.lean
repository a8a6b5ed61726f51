import Intake.Handler
import Intake.Proofs.FirstViolation
import Intake.Proofs.NumericRules
import Intake.Proofs.RepeatedCoercion

/-!
# Numbers after coercion

Values are held against rules before they are moved towards their types.  A text that spells an
integer is compared as a double then, and the integer that it becomes may be compared as another
double: rounding, both zeros, and the integers that 64 bits do not hold might each make a
difference.  They make none, so that what a rule about numbers accepted is what the destination
gets.

Main results:

- {lit}`Binary64.SameValue` says that no comparison tells two doubles apart.
- Theorem {lit}`SpellsInteger.exists_spellsDouble`: the digits of an integer spell the double that
  the integer rounds to, up to the sign of zero.
- Theorem {lit}`Rule.numberOf?_coerce`: coercion to a numeric type keeps the number of a value.
- Theorem {lit}`Schema.numbersAccepted_coerceObject`: the numeric rules of a schema accept the
  values of a valid object after coercion, at every depth.
- Theorem {lit}`Handler.numeric_rules_coerce` puts this together for values and for handlers.
-/

namespace Intake

namespace Binary64

/-! ## Doubles that compare alike -/

/-- The doubles are the same, or they are finite and have the same value, as both zeros have. -/
inductive SameValue : Binary64 → Binary64 → Prop where
  /-- A double compares like itself. -/
  | refl (x : Binary64) : SameValue x x
  /-- The sign of zero counts for nothing. -/
  | finite {x y : Double} (h : x.value = y.value) : SameValue (.finite x) (.finite y)

namespace SameValue

variable {x y : Binary64}

theorem lt_left (h : SameValue x y) (z : Binary64) : x.lt z = y.lt z := by
  cases h with
  | refl => rfl
  | finite h => cases z <;> simp [lt, h]

theorem lt_right (h : SameValue x y) (z : Binary64) : z.lt x = z.lt y := by
  cases h with
  | refl => rfl
  | finite h => cases z <;> simp [lt, h]

theorem le_right (h : SameValue x y) (z : Binary64) : z.le x = z.le y := by
  cases h with
  | refl => rfl
  | finite h => cases z <;> simp [le, lt, eq, h]

end SameValue

/-- Zero rounds to one of the zeros. -/
theorem Rounds.exists_of_zero {negative : Bool} {x : Binary64} (h : Rounds negative 0 x) :
    ∃ y : Double, x = .finite y ∧ y.value = 0 := by
  have hzero : IsNearest (0 * unitsPerOne) 0 := by
    have hnearest := IsMagnitude.isNearest (Nat.dvd_zero (spacing 0))
    rwa [Nat.cast_zero, ← zero_mul (unitsPerOne : ℚ)] at hnearest
  cases h with
  | finite y hsign hnearest =>
      refine ⟨y, rfl, ?_⟩
      rw [Double.value, hnearest.unique hzero]
      split <;> rfl
  | infinite units hlimit hnearest =>
      rw [hnearest.unique hzero] at hlimit
      exact absurd unitLimit_pos (Nat.not_lt_of_le hlimit)

/-- A number rounds to doubles that compare alike if the sign is the same or there is none. -/
theorem Rounds.sameValue {negative negative' : Bool} {q : ℚ} {x y : Binary64}
    (hx : Rounds negative q x) (hy : Rounds negative' q y)
    (hsign : negative = negative' ∨ q = 0) : SameValue x y := by
  rcases hsign with rfl | rfl
  · rw [hx.unique hy]
    exact .refl y
  · obtain ⟨x, rfl, hvalue⟩ := hx.exists_of_zero
    obtain ⟨y, rfl, hvalue'⟩ := hy.exists_of_zero
    exact .finite (hvalue.trans hvalue'.symm)

/-- A sign and a magnitude round to what the integer that they make up rounds to. -/
theorem Rounds.sameValue_ofInt {negative : Bool} {n : Int} {x : Binary64}
    (h : Rounds negative n.natAbs x) (hsign : if negative then n ≤ 0 else 0 ≤ n) :
    SameValue x (ofInt n) := by
  refine h.sameValue (rounds_natAbs_iff.mpr rfl) ?_
  rw [Nat.cast_eq_zero, Int.natAbs_eq_zero]
  cases negative with
  | false => exact .inl (decide_eq_false (not_lt.mpr hsign)).symm
  | true =>
      rcases lt_or_eq_of_le hsign with hlt | hzero
      · exact .inl (decide_eq_true hlt).symm
      · exact .inr hzero

/-- A double with the value of an integer compares like the double of the integer. -/
theorem sameValue_ofInt {x : Double} {n : Int} (h : (n : ℚ) = x.toRat) :
    SameValue (.finite x) (ofInt n) := by
  have hpos : (0 : Int) < unitsPerOne := Nat.cast_pos.mpr (twoPow_pos 1074)
  have hvalue := Double.eq_toRat_iff.mp h
  have hunits : x.units = n.natAbs * unitsPerOne := by
    have habs : x.value.natAbs = x.units := by
      rw [Double.value]
      split <;> simp
    rw [← habs, ← hvalue, Int.natAbs_mul, Int.natAbs_natCast]
  have hnearest : IsNearest (n.natAbs * unitsPerOne) x.units := by
    have hself := IsMagnitude.isNearest x.spacing_dvd
    rwa [hunits, Nat.cast_mul, ← hunits] at hself
  refine Rounds.sameValue_ofInt (.finite x rfl hnearest) ?_
  rw [Double.value] at hvalue
  split at hvalue <;> rename_i hnegative
  · rw [if_pos hnegative]
    by_contra hgt
    have hmul := mul_pos (not_le.mp hgt) hpos
    omega
  · rw [if_neg hnegative]
    by_contra hlt
    have hmul := mul_neg_of_neg_of_pos (not_le.mp hlt) hpos
    omega

end Binary64

/-- The text of an integer spells a double, and it is the one that the integer rounds to, up to the
sign of zero. -/
theorem SpellsInteger.exists_spellsDouble {cs : List Char} {n : Int} (h : SpellsInteger cs n) :
    ∃ x, SpellsDouble cs x ∧ Binary64.SameValue x (.ofInt n) := by
  cases h with
  | @intro sign digits negative hsign hdigits =>
      have hdecimal : SpellsDecimal digits ⟨foldDigits digits, 0⟩ := by
        have hspelled := SpellsDecimal.intro (.whole digits)
          (by rwa [List.append_nil]) .absent
        rwa [List.append_nil, List.length_nil, Nat.cast_zero, sub_zero] at hspelled
      have hrat : Decimal.toRat ⟨foldDigits digits, 0⟩ = foldDigits digits := by
        simp [Decimal.toRat, tenPow]
      obtain ⟨x, hrounds⟩ : ∃ x, Binary64.Rounds negative
          (Decimal.toRat ⟨foldDigits digits, 0⟩) x := ⟨_, Decimal.rounds_iff.mpr rfl⟩
      refine ⟨x, .decimal hsign hdecimal hrounds, ?_⟩
      have hnatAbs : (if negative then -(foldDigits digits : Int) else foldDigits digits).natAbs =
          foldDigits digits := by
        cases negative <;> simp
      rw [hrat, ← hnatAbs] at hrounds
      refine hrounds.sameValue_ofInt ?_
      cases negative <;> simp

/-! ## The number of a value -/

/-- Overstated numbers are one double. -/
theorem Json.Number.toBinary64_of_overstated {n : Json.Number} (h : n.Overstated) :
    n.toBinary64 = .ofInt maxInt64 := by
  -- The greatest integer with a sign rounds up to the first one without.
  have hround : Binary64.ofInt maxInt64 =
      (Json.Number.integer ⟨9223372036854775808, by decide, by decide⟩).toBinary64 := by
    decide +kernel
  have hleast : (Json.Number.integer ⟨9223372036854775808, by decide, by decide⟩).Overstated := by
    rw [Json.Number.overstated_integer_iff]
    decide
  have hunits : ∀ {m : Json.Number}, m.Overstated → ∃ x, m.toBinary64 = .finite x ∧
      x.negative = false ∧ x.units = unitsBeyondInt64 := by
    intro m hm
    obtain ⟨x, hx, hsign, hnearest⟩ :=
      Json.Number.exists_toBinary64_eq_finite (lt_of_lt_of_le (by norm_num) hm.1)
    exact ⟨x, hx, hsign, hnearest.unique (isNearest_unitsBeyondInt64 hm.1 hm.2)⟩
  obtain ⟨x, hx, hsign, hxunits⟩ := hunits h
  obtain ⟨y, hy, hsign', hyunits⟩ := hunits hleast
  rw [hround, hx, hy, Binary64.finite.injEq, Double.mk.injEq]
  exact ⟨hsign.trans hsign'.symm, hxunits.trans hyunits.symm⟩

/-- The integer that a number stands for compares like the number. -/
theorem Json.Number.sameValue_of_wholeInt64? {n : Json.Number} {m : Int}
    (h : n.wholeInt64? = some m) : Binary64.SameValue n.toBinary64 (.ofInt m) := by
  by_cases hover : n.Overstated
  · rw [Json.Number.wholeInt64?_of_overstated hover] at h
    rw [← Option.some.inj h, Json.Number.toBinary64_of_overstated hover]
    exact .refl _
  · obtain ⟨-, -, hvalue⟩ := (Json.Number.wholeInt64?_eq_some_iff hover).mp h
    cases n with
    | integer n =>
        rw [Json.Number.toRat_integer, Int.cast_inj] at hvalue
        rw [hvalue]
        exact .refl _
    | double x => exact Binary64.sameValue_ofInt hvalue

namespace Rule

theorem rel_numberOf?_refl (value : Json) :
    Option.Rel Binary64.SameValue (numberOf? value) (numberOf? value) := by
  cases numberOf? value with
  | none => exact .none
  | some x => exact .some (.refl x)

/-- An integer is compared as its double. -/
theorem numberOf?_of_ofInt? {m : Int} {moved : Json} (h : Json.ofInt? m = some moved) :
    numberOf? moved = some (.ofInt m) := by
  obtain ⟨n, hn, rfl⟩ := Option.map_eq_some_iff.mp h
  obtain ⟨hrange, hval⟩ := Option.dite_none_right_eq_some.mp hn
  cases hval
  rfl

/-- The integer that a value is moved to is compared like the value. -/
theorem rel_numberOf?_of_asInt? {value moved : Json} (hvalue : ∀ b, value ≠ .bool b)
    (h : value.asInt? = some moved) :
    Option.Rel Binary64.SameValue (numberOf? value) (numberOf? moved) := by
  cases value with
  | string s =>
      obtain ⟨m, hread, hmoved⟩ := Option.bind_eq_some_iff.mp h
      obtain ⟨cs, hpadded, hspelled, -⟩ := readInt?_trim_eq_some_iff.mp hread
      obtain ⟨x, hdouble, hsame⟩ := hspelled.exists_spellsDouble
      rw [numberOf?_of_ofInt? hmoved, numberOf?,
        Binary64.read?_trim_eq_some_iff.mpr ⟨cs, hpadded, hdouble⟩]
      exact .some hsame
  | number n =>
      obtain ⟨m, hwhole, hmoved⟩ := Option.bind_eq_some_iff.mp h
      rw [numberOf?_of_ofInt? hmoved, numberOf?]
      exact .some (Json.Number.sameValue_of_wholeInt64? hwhole)
  | bool b => exact absurd rfl (hvalue b)
  | null | array _ | object _ => cases h

/-- The double that a value is moved to is the number of the value. -/
theorem numberOf?_of_asFloat? {value moved : Json} (hvalue : ∀ b, value ≠ .bool b)
    (h : value.asFloat? = some moved) : numberOf? moved = numberOf? value := by
  cases value with
  | string s =>
      simp only [Json.asFloat?] at h
      obtain ⟨x, hread, hmoved⟩ := Option.bind_eq_some_iff.mp h
      cases x with
      | finite x =>
          cases hmoved
          rw [numberOf?, numberOf?, hread]
          rfl
      | infinite _ | nan => cases hmoved
  | bool b => exact absurd rfl (hvalue b)
  | null | number _ | array _ | object _ => cases h

/-- Coercion to a numeric type leaves a value that is no number none, and a number one that compares
like it. -/
theorem rel_numberOf?_coerce {type : FieldType} (htype : type = .int ∨ type = .float)
    {value : Json} (hvalue : ∀ b, value ≠ .bool b) :
    Option.Rel Binary64.SameValue (numberOf? value) (numberOf? (coerce type value)) := by
  rw [coerce_eq_getD_moved?]
  cases hmoved : value.moved? type with
  | none => exact rel_numberOf?_refl value
  | some moved =>
      rw [Option.getD_some]
      rcases htype with rfl | rfl
      · exact rel_numberOf?_of_asInt? hvalue hmoved
      · rw [numberOf?_of_asFloat? hvalue hmoved]
        exact rel_numberOf?_refl value

/-! ## Numeric rules -/

/-- The rule is one about numbers. -/
inductive Numeric : Rule → Prop where
  /-- The number is above zero. -/
  | positive : Numeric positive
  /-- The number is not below zero. -/
  | nonNegative : Numeric nonNegative
  /-- The number is not outside of two bounds. -/
  | range (least greatest : Binary64) : Numeric (range least greatest)

/-- A numeric rule tells no values apart whose numbers compare alike. -/
theorem Numeric.congr {rule : Rule} (h : rule.Numeric) {value value' : Json}
    (hvalues : Option.Rel Binary64.SameValue (numberOf? value) (numberOf? value')) :
    rule value' = rule value := by
  generalize hx : numberOf? value = x at hvalues
  generalize hy : numberOf? value' = y at hvalues
  cases hvalues with
  | none => cases h <;> simp only [Rule.positive, Rule.nonNegative, Rule.range, hx, hy]
  | some hsame =>
      cases h with
      | positive => simp only [Rule.positive, hx, hy, hsame.lt_right]
      | nonNegative => simp only [Rule.nonNegative, hx, hy, hsame.le_right]
      | range => simp only [Rule.range, hx, hy, hsame.lt_left, hsame.lt_right]

/-- A numeric rule gives the same result after coercion to a numeric type as before it. -/
theorem Numeric.coerce {rule : Rule} (h : rule.Numeric) {type : FieldType}
    (htype : type = .int ∨ type = .float) {value : Json} (hvalue : ∀ b, value ≠ .bool b) :
    rule (Intake.coerce type value) = rule value :=
  h.congr (rel_numberOf?_coerce htype hvalue)

/-- A numeric rule accepts no truth value. -/
theorem Numeric.ne_bool {rule : Rule} (h : rule.Numeric) {value : Json}
    (hvalue : rule value = .ok ()) (b : Bool) : value ≠ .bool b := by
  rintro rfl
  cases h <;> cases hvalue

end Rule

/-! ## Schemas and handlers -/

/-- The leaves with a numeric type have values that their numeric rules accept, at every depth. -/
inductive Schema.NumbersAccepted (settings : Settings) : Schema → Entries Json → Prop where
  /-- The leaves of the object do, and so do those of every object in its groups. -/
  | intro {schema : Schema} {entries : Entries Json}
    (leaves : ∀ a value, Field.leaf a ∈ schema → a.type = .int ∨ a.type = .float →
      entries.get? a.key = some value → ∀ name ∈ a.rules, ∀ rule,
        settings.rules.get? name = some rule → rule.Numeric → rule value = .ok ())
    (inner : ∀ a fields value, Field.group a fields ∈ schema → entries.get? a.key = some value →
      ∀ object ∈ value.objects, Schema.NumbersAccepted settings fields object) :
    Schema.NumbersAccepted settings schema entries

/-- What the numeric rules of a schema accept they accept after coercion. -/
theorem Schema.numbersAccepted_coerceObject {settings : Settings} {depth : Nat} {schema : Schema}
    {entries : Entries Json} (hkeys : schema.DistinctKeys)
    (h : schema.Valid settings depth entries) :
    schema.NumbersAccepted settings (coerceObject schema entries) := by
  induction schema using Schema.induction generalizing depth entries with
  | level schema ih =>
      obtain ⟨hnodup, hinner⟩ := hkeys
      obtain ⟨-, -, rules, kind, inner⟩ := h
      have hcoerced : ∀ {f : Field} {value : Json}, f ∈ schema →
          (coerceObject schema entries).get? f.key = some value →
            ∃ before, entries.get? f.key = some before ∧ f.coerce before = value := by
        intro f value hf hget
        rw [coerceObject, Field.get?_coerceAll hnodup hf] at hget
        exact Option.map_eq_some_iff.mp hget
      refine ⟨?_, ?_⟩
      · intro a value hf htype hget name hname rule hrule hnumeric
        obtain ⟨before, hbefore, rfl⟩ := hcoerced hf hget
        obtain ⟨rule', hrule', haccepts⟩ := rules a before hf hbefore name hname
        obtain rfl : rule' = rule := Option.some.inj (hrule'.symm.trans hrule)
        rw [Field.coerce, hnumeric.coerce htype (hnumeric.ne_bool haccepts)]
        exact haccepts
      · intro a fields value hf hget object hobject
        obtain ⟨before, hbefore, rfl⟩ := hcoerced hf hget
        rw [(Field.coerce_group a fields (kind a fields before hf hbefore)).2.2] at hobject
        obtain ⟨object', hobject', rfl⟩ := List.mem_map.mp hobject
        have hvalid := inner a fields before hf hbefore object' hobject'
        exact ih a fields hf (hinner a fields hf) hvalid

namespace Handler

/-- The rules about numbers give the same result before and after coercion to a numeric type, for
all values but the two truth values, which they refuse.  So whatever a handler gives for a request
is read from values that the numeric rules of the schema accept as they accepted the picked ones,
at every depth. -/
theorem numeric_rules_coerce :
    (∀ (rule : Rule) (type : FieldType) (value : Json), rule.Numeric →
      type = .int ∨ type = .float → (∀ b, value ≠ .bool b) →
        rule (coerce type value) = rule value) ∧
      ∀ {α : Type} (handler : Handler α) (r : Request) (value : α), handler.handle r = .ok value →
        ∃ picked, pick handler.settings handler.schema r = .ok picked ∧
          validate handler.settings handler.schema picked.entries = .ok () ∧
          handler.destination (.object (coerceObject handler.schema picked.entries)) = .ok value ∧
          handler.schema.NumbersAccepted handler.settings
            (coerceObject handler.schema picked.entries) := by
  refine ⟨fun rule type value hrule htype hvalue => hrule.coerce htype hvalue, ?_⟩
  intro α handler r value h
  have hschema := Schema.wellFormed_of_check handler.check_eq
  obtain ⟨picked, hpick, hrest⟩ := Outcome.bind_eq_ok.mp h
  obtain ⟨hvalidate, hdecode⟩ := Outcome.test_bind_eq_ok.mp hrest
  rw [Outcome.mapError_eq_ok] at hpick hvalidate hdecode
  have hvalid : handler.schema.Valid handler.settings 1 picked.entries :=
    Schema.valid_iff.mpr ((finds_enter handler.schema picked.entries).eq_ok_iff.mp hvalidate)
  exact ⟨picked, hpick, hvalidate, hdecode,
    Schema.numbersAccepted_coerceObject hschema.distinctKeys hvalid⟩

/-- A handler for orders, with a rule about a number at either level. -/
def orders : Handler Json where
  schema :=
    [.leaf { name := "buyer", type := .int, rules := ["positive"] },
      .group { name := "items", type := .array }
        [.leaf { name := "price", type := .float, rules := ["non_negative"] }]]
  settings := .standard
  destination := .any
  check_eq := by decide

/-- An order with texts for numbers, one of them a zero with a sign. -/
def ordersRequest : Request where
  body := some (.object
    [("buyer", .string " 9007199254740993 "),
      ("items", .array [.object [("price", .string "-0")]])])

theorem orders_numeric_rules_coerce :
    Rule.range .zero (.ofInt 120) (coerce .int (.string " -0 ")) =
        Rule.range .zero (.ofInt 120) (.string " -0 ") ∧
      orders.schema.NumbersAccepted orders.settings
        [("buyer", .number (.integer ⟨9007199254740993, by decide, by decide⟩)),
          ("items", .array [.object [("price", .number (.double (.zero true)))]])] := by
  have hpick : pick orders.settings orders.schema ordersRequest =
      .ok (.ofList [("buyer", .string " 9007199254740993 "),
        ("items", .array [.object [("price", .string "-0")]])]) := by
    rfl
  have hvalidate : validate orders.settings orders.schema
      [("buyer", .string " 9007199254740993 "),
        ("items", .array [.object [("price", .string "-0")]])] = .ok () := by
    apply Outcome.toOption_eq_some.mp
    decide +kernel
  have hhandle := handle_of_valid hpick hvalidate
  obtain ⟨picked, hpicked, -, -, haccepted⟩ := numeric_rules_coerce.2 orders ordersRequest
    (.object [("buyer", .number (.integer ⟨9007199254740993, by decide, by decide⟩)),
      ("items", .array [.object [("price", .number (.double (.zero true)))]])]) hhandle
  rw [hpick] at hpicked
  cases hpicked
  exact ⟨numeric_rules_coerce.1 _ _ _ (.range _ _) (.inl rfl) (by rintro b ⟨⟩), haccepted⟩

end Handler

end Intake
