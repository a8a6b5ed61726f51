import Intake.Coerce
import Intake.Proofs.Spelling

/-!
# Coercion to integers

A number that is moved towards the integers keeps its value: it becomes the integer that it is, or
stays as it was.  The one exception is two to the power 63, which no integer with a sign holds: it,
and the integers that round to it, become the greatest integer.

Main results:

- {lit}`Json.Number.toRat` is the exact value of a number.
- Theorem {lit}`Double.toInt?_eq_some_iff`: a double is an integer when it has the value of one.
- Theorems {lit}`Json.Number.wholeInt64?_of_overstated` and
  {lit}`Json.Number.wholeInt64?_eq_some_iff`: the integer that a number stands for.
- Theorem {lit}`coerce_int_exact`: which numbers keep their value, and that the text of an integer
  is moved back to it.
-/

namespace Intake

/-! ## Exact values -/

/-- The exact value of a double. -/
def Double.toRat (x : Double) : ℚ :=
  x.value / unitsPerOne

/-- The exact value of a number. -/
def Json.Number.toRat : Json.Number → ℚ
  | .integer n => n.val
  | .double x => x.toRat

@[simp]
theorem Json.Number.toRat_integer (n : Json.Integer) : (Json.Number.integer n).toRat = n.val :=
  rfl

@[simp]
theorem Json.Number.toRat_double (x : Double) : (Json.Number.double x).toRat = x.toRat :=
  rfl

theorem unitsPerOne_pos : (0 : ℚ) < unitsPerOne := by
  exact_mod_cast twoPow_pos 1074

namespace Double

/-- A double has the value of an integer when its units are those of the integer. -/
theorem eq_toRat_iff {x : Double} {m : Int} : (m : ℚ) = x.toRat ↔ m * unitsPerOne = x.value := by
  rw [toRat, eq_div_iff (ne_of_gt unitsPerOne_pos)]
  exact_mod_cast Iff.rfl

/-- A double is an integer when it has the value of one. -/
theorem toInt?_eq_some_iff {x : Double} {m : Int} : x.toInt? = some m ↔ (m : ℚ) = x.toRat := by
  have hpos : (unitsPerOne : Int) ≠ 0 := by exact_mod_cast Nat.ne_of_gt (twoPow_pos 1074)
  rw [eq_toRat_iff, toInt?, value]
  split
  · next hdvd =>
    obtain ⟨k, hk⟩ := hdvd
    have hunits : (x.units : Int) = k * unitsPerOne := by
      rw [hk, Nat.mul_comm, Nat.cast_mul]
    have hquotient : x.units / unitsPerOne = k := by
      rw [hk]
      exact Nat.mul_div_cancel_left k (twoPow_pos 1074)
    rw [hunits, hquotient, Option.some.injEq]
    cases x.negative with
    | false => exact (mul_left_inj' hpos).symm.trans eq_comm
    | true =>
        rw [if_pos rfl, if_pos rfl, ← neg_mul, mul_left_inj' hpos]
        exact eq_comm
  · next hdvd =>
    constructor
    · intro hnone
      cases hnone
    · intro hvalue
      have hunits : (unitsPerOne : Int) ∣ (x.units : Int) := by
        cases hnegative : x.negative with
        | false =>
            rw [hnegative] at hvalue
            exact ⟨m, by rw [mul_comm]; exact hvalue.symm⟩
        | true =>
            rw [hnegative, if_pos rfl] at hvalue
            exact ⟨-m, by rw [mul_comm, neg_mul, hvalue, neg_neg]⟩
      exact absurd (Int.natCast_dvd_natCast.mp hunits) hdvd

end Double

/-! ## Two to the power 63 -/

/-- The units of two to the power 63. -/
def unitsBeyondInt64 : Nat :=
  9223372036854775808 * unitsPerOne

/-- Two to the power 63 counted in steps of 2048. -/
theorem unitsBeyondInt64_eq : unitsBeyondInt64 = twoPow 52 * (2048 * unitsPerOne) := by
  have hbits : 9223372036854775808 = twoPow 52 * 2048 := by decide
  rw [unitsBeyondInt64, hbits, Nat.mul_assoc]

theorem mul_unitsPerOne_eq : 2048 * unitsPerOne = twoPow (11 + 1074) := by
  have hstep : 2048 = twoPow 11 := by decide
  rw [twoPow_add, hstep, unitsPerOne]

/-- From two to the power 63 to the next double it is 2048. -/
theorem spacing_unitsBeyondInt64 : spacing unitsBeyondInt64 = 2048 * unitsPerOne := by
  rw [unitsBeyondInt64_eq, mul_unitsPerOne_eq, spacing_mul (by decide) (Or.inr (Nat.le_refl _))]

theorem unitsBeyondInt64_isMagnitude : IsMagnitude unitsBeyondInt64 := by
  rw [IsMagnitude, spacing_unitsBeyondInt64, unitsBeyondInt64_eq]
  exact Nat.dvd_mul_left _ _

theorem even_unitsBeyondInt64 : unitsBeyondInt64 / spacing unitsBeyondInt64 % 2 = 0 := by
  rw [spacing_unitsBeyondInt64, unitsBeyondInt64_eq, Nat.mul_div_cancel]
  · decide
  · exact Nat.mul_pos (by decide) (twoPow_pos 1074)

theorem cast_unitsBeyondInt64 :
    (unitsBeyondInt64 : ℚ) = 9223372036854775808 * (unitsPerOne : ℚ) := by
  rw [unitsBeyondInt64, Nat.cast_mul]
  rfl

theorem cast_spacing_unitsBeyondInt64 :
    (spacing unitsBeyondInt64 : ℚ) = 2048 * (unitsPerOne : ℚ) := by
  rw [spacing_unitsBeyondInt64, Nat.cast_mul]
  rfl

/-- What is at most halfway to the next double rounds to two to the power 63. -/
theorem isNearest_unitsBeyondInt64 {q : ℚ} (hlow : 9223372036854775808 ≤ q)
    (hhigh : q ≤ 9223372036854776832) : IsNearest (q * unitsPerOne) unitsBeyondInt64 := by
  have hpos := unitsPerOne_pos
  refine unitsBeyondInt64_isMagnitude.isNearest_of_le_half even_unitsBeyondInt64 ?_ ?_
  · rw [cast_unitsBeyondInt64]
    exact mul_le_mul_of_nonneg_right hlow hpos.le
  · rw [cast_unitsBeyondInt64, cast_spacing_unitsBeyondInt64, ← sub_mul, ← mul_assoc]
    exact mul_le_mul_of_nonneg_right (by linarith) hpos.le

/-- What is nearer to the next double rounds to no less than that. -/
theorem IsNearest.unitsBeyondInt64_lt {q : ℚ} {units : Nat}
    (h : IsNearest (q * unitsPerOne) units) (hq : 9223372036854776832 < q) :
    unitsBeyondInt64 < units := by
  refine h.lt_of_half_lt unitsBeyondInt64_isMagnitude ?_
  rw [cast_unitsBeyondInt64, cast_spacing_unitsBeyondInt64, ← sub_mul, ← mul_assoc]
  exact mul_lt_mul_of_pos_right (by linarith) unitsPerOne_pos

/-! ## The integer of a number -/

namespace Json.Number

/-- The number is two to the power 63 or rounds to it, so that the greatest integer takes its
place. -/
def Overstated (n : Number) : Prop :=
  9223372036854775808 ≤ n.toRat ∧ n.toRat ≤ 9223372036854776832

theorem overstated_integer_iff {n : Integer} : (integer n).Overstated ↔
    9223372036854775808 ≤ n.val ∧ n.val ≤ 9223372036854776832 := by
  rw [Overstated, toRat_integer]
  exact_mod_cast Iff.rfl

/-- An integer of 64 bits rounds to a finite double. -/
theorem exists_ofInt_eq_finite {n : Integer} (hpos : 0 ≤ n.val) :
    ∃ x, Binary64.ofInt n.val = .finite x ∧ x.negative = false ∧
      IsNearest ((n.val : ℚ) * unitsPerOne) x.units := by
  have hrounds := Binary64.rounds_natAbs_iff.mpr (Eq.refl (Binary64.ofInt n.val))
  rw [Nat.cast_natAbs, abs_of_nonneg hpos, decide_eq_false (not_lt.mpr hpos)] at hrounds
  generalize hx : Binary64.ofInt n.val = y at hrounds
  cases hrounds with
  | finite x hsign h => exact ⟨x, rfl, hsign, h⟩
  | infinite units hlimit h =>
      have hsmall : 2 * 18446744073709551615 * unitsPerOne < unitLimit := by decide +kernel
      have hcast : ((2 * 18446744073709551615 : Nat) : ℚ) = 2 * 18446744073709551615 := by
        norm_num
      have hval : (n.val : ℚ) ≤ 18446744073709551615 := by exact_mod_cast n.le_max
      have hposq : (0 : ℚ) ≤ n.val := by exact_mod_cast hpos
      have hle : (units : ℚ) ≤ (2 * 18446744073709551615 * unitsPerOne : Nat) :=
        calc (units : ℚ) ≤ 2 * (n.val * unitsPerOne) :=
              h.le_two_mul (mul_nonneg hposq unitsPerOne_pos.le)
          _ ≤ 2 * (18446744073709551615 * unitsPerOne) :=
              mul_le_mul_of_nonneg_left (mul_le_mul_of_nonneg_right hval unitsPerOne_pos.le)
                (by norm_num)
          _ = (2 * 18446744073709551615 * unitsPerOne : Nat) := by
              rw [Nat.cast_mul, hcast, mul_assoc]
      exact absurd (Nat.le_trans hlimit (Nat.cast_le.mp hle)) (Nat.not_le_of_lt hsmall)

/-- A number above zero rounds to a finite double, which is the nearest one. -/
theorem exists_toBinary64_eq_finite {n : Number} (hpos : 0 < n.toRat) :
    ∃ x, n.toBinary64 = .finite x ∧ x.negative = false ∧
      IsNearest (n.toRat * unitsPerOne) x.units := by
  cases n with
  | integer n =>
      rw [toRat_integer] at hpos ⊢
      have hval : 0 < n.val := by exact_mod_cast hpos
      exact exists_ofInt_eq_finite hval.le
  | double x =>
      rw [toRat_double] at hpos ⊢
      have hvalue : (0 : ℚ) < x.value := by
        rw [Double.toRat] at hpos
        exact (div_pos_iff_of_pos_right unitsPerOne_pos).mp hpos
      have hsign : x.negative = false := by
        by_contra hnegative
        rw [Double.value, if_pos (Bool.eq_true_of_not_eq_false hnegative)] at hvalue
        have hnonneg : (0 : ℚ) ≤ x.units := Nat.cast_nonneg _
        push_cast at hvalue
        linarith
      have hunits : x.toRat * unitsPerOne = x.units := by
        rw [Double.toRat, div_mul_cancel₀ _ (ne_of_gt unitsPerOne_pos), Double.value, hsign]
        rfl
      rw [hunits]
      exact ⟨x, rfl, hsign, IsMagnitude.isNearest x.spacing_dvd⟩

/-- An integer above the greatest one with a sign is none with a sign. -/
theorem toInt64?_of_lt {n : Integer} (h : maxInt64 < n.val) : (integer n).toInt64? = none := by
  rw [toInt64?, Integer.toInt64?, if_neg (not_le.mpr h)]

theorem toInt64?_of_overstated {n : Number} (h : n.Overstated) : n.toInt64? = none := by
  cases n with
  | integer n => exact toInt64?_of_lt (overstated_integer_iff.mp h).1
  | double x => rfl

/-- A number that is no integer with a sign stands for what its double stands for. -/
theorem wholeInt64?_of_toBinary64 {n : Number} {x : Double} (hnone : n.toInt64? = none)
    (hx : n.toBinary64 = .finite x) : n.wholeInt64? = (double x).wholeInt64? := by
  rw [wholeInt64?, hnone, hx]
  rfl

/-- A double stands for the integer whose value it has, if 64 bits with a sign hold it, and two to
the power 63 for the greatest one. -/
theorem wholeInt64?_double_eq_some_iff {x : Double} {m : Int} :
    (double x).wholeInt64? = some m ↔ ∃ k : Int, (k : ℚ) = x.toRat ∧ minInt64 ≤ k ∧
      k ≤ maxInt64 + 1 ∧ min k maxInt64 = m := by
  have hwhole : (double x).wholeInt64? = x.toInt?.bind fun k =>
      if minInt64 ≤ k ∧ k ≤ maxInt64 + 1 then some (min k maxInt64) else none := rfl
  rw [hwhole, Option.bind_eq_some_iff]
  refine exists_congr fun k => ?_
  rw [Double.toInt?_eq_some_iff, Option.ite_none_right_eq_some, Option.some.injEq, and_assoc]

/-- An overstated number stands for the greatest integer. -/
theorem wholeInt64?_of_overstated {n : Number} (h : n.Overstated) :
    n.wholeInt64? = some maxInt64 := by
  obtain ⟨x, hx, hsign, hnearest⟩ := exists_toBinary64_eq_finite (lt_of_lt_of_le (by norm_num) h.1)
  have hunits := hnearest.unique (isNearest_unitsBeyondInt64 h.1 h.2)
  have hvalue : ((maxInt64 + 1 : Int) : ℚ) = x.toRat := by
    rw [Double.eq_toRat_iff, Double.value, hsign, hunits, unitsBeyondInt64, Nat.cast_mul]
    rfl
  rw [wholeInt64?_of_toBinary64 (toInt64?_of_overstated h) hx, wholeInt64?_double_eq_some_iff]
  exact ⟨maxInt64 + 1, hvalue, by decide, le_rfl, by decide⟩

/-- An integer that rounds to more than two to the power 63 stands for none with a sign. -/
theorem wholeInt64?_of_lt {n : Integer} (h : 9223372036854776832 < n.val) :
    (integer n).wholeInt64? = none := by
  obtain ⟨x, hx, hsign, hnearest⟩ := exists_ofInt_eq_finite (show 0 ≤ n.val by omega)
  have hlt := hnearest.unitsBeyondInt64_lt (by exact_mod_cast h)
  have hgreat : maxInt64 < n.val := lt_trans (by decide) h
  rw [wholeInt64?_of_toBinary64 (toInt64?_of_lt hgreat) hx, Option.eq_none_iff_forall_ne_some]
  intro m hm
  obtain ⟨k, hvalue, -, hle, -⟩ := wholeInt64?_double_eq_some_iff.mp hm
  rw [Double.eq_toRat_iff, Double.value, hsign, if_neg Bool.false_ne_true] at hvalue
  have hunits : k * unitsPerOne ≤ 9223372036854775808 * (unitsPerOne : Int) :=
    mul_le_mul_of_nonneg_right hle (Nat.cast_nonneg _)
  have hunits' : (unitsBeyondInt64 : Int) < x.units := Nat.cast_lt.mpr hlt
  rw [unitsBeyondInt64, Nat.cast_mul, Nat.cast_ofNat, ← hvalue] at hunits'
  exact absurd hunits (not_le.mpr hunits')

/-- Any other number stands for an integer when it has its value. -/
theorem wholeInt64?_eq_some_iff {n : Number} (h : ¬ n.Overstated) {m : Int} :
    n.wholeInt64? = some m ↔ minInt64 ≤ m ∧ m ≤ maxInt64 ∧ (m : ℚ) = n.toRat := by
  cases n with
  | integer n =>
      rw [toRat_integer, Int.cast_inj]
      rcases le_or_gt n.val maxInt64 with hle | hgt
      · have hwhole : (integer n).wholeInt64? = some n.val := by
          rw [wholeInt64?, toInt64?, Integer.toInt64?, if_pos hle]
        rw [hwhole, Option.some.injEq]
        constructor
        · rintro rfl
          exact ⟨n.min_le, hle, rfl⟩
        · rintro ⟨-, -, rfl⟩
          rfl
      · have hhigh : 9223372036854776832 < n.val := by
          by_contra hle
          exact h (overstated_integer_iff.mpr ⟨hgt, not_lt.mp hle⟩)
        rw [wholeInt64?_of_lt hhigh]
        constructor
        · intro hnone
          cases hnone
        · rintro ⟨-, hle, rfl⟩
          exact absurd hle (not_le.mpr hgt)
  | double x =>
      rw [toRat_double, wholeInt64?_double_eq_some_iff]
      constructor
      · rintro ⟨k, hvalue, hmin, hmax, rfl⟩
        have hne : k ≠ maxInt64 + 1 := by
          rintro rfl
          refine h ?_
          rw [Overstated, toRat_double, ← hvalue, maxInt64]
          norm_num
        have hle : k ≤ maxInt64 := Int.lt_add_one_iff.mp (lt_of_le_of_ne hmax hne)
        rw [min_eq_left hle]
        exact ⟨hmin, hle, hvalue⟩
      · rintro ⟨hmin, hmax, hvalue⟩
        exact ⟨m, hvalue, hmin, Int.le_add_one hmax, min_eq_left hmax⟩

end Json.Number

/-! ## Coercion -/

/-- The greatest integer of 64 bits with a sign, as an integer of JSON. -/
def Json.Integer.greatest : Json.Integer :=
  ⟨maxInt64, by decide, by decide⟩

/-- The value is the number itself or the integer that it is. -/
def Json.Number.KeptBy (n : Json.Number) (value : Json) : Prop :=
  value = .number n ∨ ∃ m : Json.Integer, value = .number (.integer m) ∧ (m.val : ℚ) = n.toRat

theorem Json.ofInt?_val (m : Json.Integer) : Json.ofInt? m.val = some (.number (.integer m)) := by
  rw [Json.ofInt?, Json.Integer.ofInt?, dif_pos ⟨m.min_le, m.le_max⟩]
  rfl

/-- A number becomes the integer that it stands for. -/
theorem coerce_int_of_wholeInt64? {n : Json.Number} {m : Json.Integer}
    (h : n.wholeInt64? = some m.val) :
    coerce .int (.number n) = .number (.integer m) := by
  simp only [coerce, Json.asInt?, h, Option.bind_some, Json.ofInt?_val, Option.getD_some]

/-- A number that stands for no integer stays as it is. -/
theorem coerce_int_of_wholeInt64?_eq_none {n : Json.Number} (h : n.wholeInt64? = none) :
    coerce .int (.number n) = .number n := by
  simp only [coerce, Json.asInt?, h, Option.bind_none, Option.getD_none]

theorem coerce_int_of_overstated {n : Json.Number} (h : n.Overstated) :
    coerce .int (.number n) = .number (.integer .greatest) :=
  coerce_int_of_wholeInt64? (m := .greatest) (Json.Number.wholeInt64?_of_overstated h)

/-- Any other number that has the value of an integer with a sign becomes that integer. -/
theorem coerce_int_of_eq_toRat {n : Json.Number} (h : ¬ n.Overstated) {m : Json.Integer}
    (hle : m.val ≤ maxInt64) (hvalue : (m.val : ℚ) = n.toRat) :
    coerce .int (.number n) = .number (.integer m) :=
  coerce_int_of_wholeInt64?
    ((Json.Number.wholeInt64?_eq_some_iff h).mpr ⟨m.min_le, hle, hvalue⟩)

/-- Exactly the overstated numbers do not keep their value. -/
theorem keptBy_coerce_int_iff (n : Json.Number) :
    n.KeptBy (coerce .int (.number n)) ↔ ¬ n.Overstated := by
  constructor
  · intro hkept h
    rw [coerce_int_of_overstated h] at hkept
    have hvalue : ((maxInt64 : Int) : ℚ) = n.toRat := by
      rcases hkept with heq | ⟨m, heq, hvalue⟩
      · obtain rfl := Json.number.inj heq
        rfl
      · obtain rfl := Json.Number.integer.inj (Json.number.inj heq)
        exact hvalue
    have hlow := h.1
    rw [← hvalue, maxInt64] at hlow
    norm_num at hlow
  · intro h
    cases hwhole : n.wholeInt64? with
    | none => exact Or.inl (coerce_int_of_wholeInt64?_eq_none hwhole)
    | some k =>
        obtain ⟨hmin, hmax, hvalue⟩ := (Json.Number.wholeInt64?_eq_some_iff h).mp hwhole
        have hmax' : k ≤ Json.maxUInt64 := le_trans hmax (by decide)
        exact Or.inr ⟨⟨k, hmin, hmax'⟩, coerce_int_of_wholeInt64? hwhole, hvalue⟩

/-- The text of an integer with a sign, and white space around it, is moved to the integer. -/
theorem coerce_int_of_padded {s : String} {n : Json.Integer} (hle : n.val ≤ maxInt64)
    (h : Text.Padded s (toString n.val).toList) :
    coerce .int (.string s) = .number (.integer n) := by
  have hread : readInt? (Text.trim s) = some n.val :=
    readInt?_trim_eq_some_iff.mpr ⟨_, h, .toString n.val, n.min_le, hle⟩
  simp only [coerce, Json.asInt?, hread, Option.bind_some, Json.ofInt?_val, Option.getD_some]

/-- An integer with a sign that is moved to a text is moved back. -/
theorem coerce_int_coerce_string {n : Json.Integer} (hle : n.val ≤ maxInt64) :
    coerce .int (coerce .string (.number (.integer n))) = .number (.integer n) := by
  have htext : coerce .string (.number (.integer n)) = .string (toString n.val) := rfl
  rw [htext]
  refine coerce_int_of_padded hle ⟨[], [], ?_, ?_, ?_⟩
  · exact List.forall_mem_nil _
  · exact List.forall_mem_nil _
  · rw [List.nil_append, List.append_nil]

/-- A number that is moved to the integers keeps its value exactly when it is not overstated; an
overstated one becomes the greatest integer, and any other one with the value of an integer with a
sign becomes that integer.  The text of such an integer is moved back to it, with white space
around it or as the number is moved to a text. -/
theorem coerce_int_exact (n : Json.Number) :
    (n.KeptBy (coerce .int (.number n)) ↔ ¬ n.Overstated) ∧
      (n.Overstated → coerce .int (.number n) = .number (.integer .greatest)) ∧
      (∀ m : Json.Integer, ¬ n.Overstated → m.val ≤ maxInt64 → (m.val : ℚ) = n.toRat →
        coerce .int (.number n) = .number (.integer m)) ∧
      (∀ (m : Json.Integer) (s : String), m.val ≤ maxInt64 →
        Text.Padded s (toString m.val).toList →
          coerce .int (.string s) = .number (.integer m)) ∧
      ∀ m : Json.Integer, m.val ≤ maxInt64 →
        coerce .int (coerce .string (.number (.integer m))) = .number (.integer m) := by
  refine ⟨keptBy_coerce_int_iff n, coerce_int_of_overstated, ?_, ?_, ?_⟩
  · intro m h hle hvalue
    exact coerce_int_of_eq_toRat h hle hvalue
  · intro m s hle h
    exact coerce_int_of_padded hle h
  · intro m hle
    exact coerce_int_coerce_string hle

/-- Two to the power 63 is overstated and becomes the greatest integer, the first integer that
rounds to more keeps its value, and minus seven is read between white space and from its text. -/
theorem coerce_int_exact_at_limits :
    (Json.Number.integer ⟨9223372036854775808, by decide, by decide⟩).Overstated ∧
      coerce .int (.number (.integer ⟨9223372036854775808, by decide, by decide⟩)) =
        .number (.integer .greatest) ∧
      (Json.Number.integer ⟨9223372036854776833, by decide, by decide⟩).KeptBy
        (coerce .int (.number (.integer ⟨9223372036854776833, by decide, by decide⟩))) ∧
      coerce .int (.number (.double (.zero true))) =
        .number (.integer ⟨0, by decide, by decide⟩) ∧
      Text.Padded " -7\n" (toString (-7 : Int)).toList ∧
      coerce .int (.string " -7\n") = .number (.integer ⟨-7, by decide, by decide⟩) ∧
      coerce .int (coerce .string (.number (.integer ⟨-7, by decide, by decide⟩))) =
        .number (.integer ⟨-7, by decide, by decide⟩) := by
  have hover : (Json.Number.integer ⟨9223372036854775808, by decide, by decide⟩).Overstated := by
    rw [Json.Number.overstated_integer_iff]
    decide
  have hnot : ¬ (Json.Number.integer ⟨9223372036854776833, by decide, by decide⟩).Overstated := by
    rw [Json.Number.overstated_integer_iff]
    decide
  have hzero : (Json.Number.double (.zero true)).toRat = 0 := by
    rw [Json.Number.toRat_double, Double.toRat, show (Double.zero true).value = 0 from rfl,
      Int.cast_zero, zero_div]
  have hzero' : ¬ (Json.Number.double (.zero true)).Overstated := by
    rw [Json.Number.Overstated, hzero]
    norm_num
  have hpadded : Text.Padded " -7\n" (toString (-7 : Int)).toList :=
    ⟨[' '], ['\n'], by decide, by decide, by decide⟩
  obtain ⟨-, -, hwhole, htext, hback⟩ := coerce_int_exact (.double (.zero true))
  refine ⟨hover, (coerce_int_exact _).2.1 hover, (coerce_int_exact _).1.mpr hnot, ?_, hpadded, ?_,
    hback _ (by decide)⟩
  · refine hwhole _ hzero' (by decide) ?_
    rw [hzero]
    norm_num
  · exact htext ⟨-7, by decide, by decide⟩ " -7\n" (by decide) hpadded

end Intake
