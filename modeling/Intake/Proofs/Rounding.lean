import Intake.Number.Decimal
import Mathlib.Algebra.Order.Field.Basic
import Mathlib.Algebra.Order.Field.Rat
import Mathlib.Data.Nat.Cast.Order.Field
import Mathlib.Tactic.FieldSimp
import Mathlib.Tactic.Linarith
import Mathlib.Tactic.Ring

/-!
# Rounding to a double

A number rounds to the nearest magnitude of 53 bits, of two equally near ones to the even one, and
to an infinity if that magnitude is beyond every double.  The rule leaves one result for each
number, and it is the one that is computed.

Main results:

- {lit}`IsNearest` and {lit}`Binary64.Rounds` state the rule for exact numbers.
- Theorem {lit}`IsNearest.unique`: a number has one nearest magnitude.
- Theorem {lit}`isNearest_nearestUnits`: it is the one that {lit}`nearestUnits` computes.
- Theorem {lit}`Binary64.rounds_iff`: a quotient rounds to {lit}`Binary64.ofRatio` and to nothing
  else.
- Theorem {lit}`Decimal.rounds_iff`: a decimal number rounds to {lit}`Decimal.toBinary64` and to
  nothing else.
-/

namespace Intake

/-! ## Magnitudes of 53 bits -/

/-- The magnitude needs no more than 53 bits, be it in range or not. -/
def IsMagnitude (units : Nat) : Prop :=
  spacing units ∣ units

theorem spacing_pos (units : Nat) : 0 < spacing units :=
  twoPow_pos _

/-- Of two numbers the one with the greater logarithm has the greater spacing. -/
theorem spacing_dvd_spacing {m n : Nat} (h : m.log2 ≤ n.log2) : spacing m ∣ spacing n :=
  twoPow_dvd (by omega)

theorem log2_le_log2 {m n : Nat} (h : m ≤ n) : m.log2 ≤ n.log2 := by
  rcases Nat.eq_zero_or_pos m with rfl | hm
  · exact Nat.zero_le _
  · rw [Nat.le_log2 (by omega)]
    exact Nat.le_trans (Nat.log2_self_le (by omega)) h

/-- A number counted in its spacing has 53 bits, unless the spacing is the least one. -/
theorem twoPow_le_div_spacing {units : Nat} (h : 52 ≤ units.log2) :
    twoPow 52 ≤ units / spacing units := by
  have hne : units ≠ 0 := by
    rintro rfl
    exact absurd h (by decide)
  rw [Nat.le_div_iff_mul_le (spacing_pos _), spacing, ← twoPow_add,
    show 52 + (units.log2 - 52) = units.log2 by omega]
  exact Nat.log2_self_le hne

/-- The spacing of a number that is given in bits and a power. -/
theorem spacing_mul {bits exponent : Nat} (hbits : bits < twoPow 53)
    (hlow : exponent = 0 ∨ twoPow 52 ≤ bits) :
    spacing (bits * twoPow exponent) = twoPow exponent := by
  rcases Nat.eq_zero_or_pos bits with rfl | hpos
  · rcases hlow with rfl | hlow
    · rfl
    · exact absurd hlow (by decide)
  · have hne : bits * twoPow exponent ≠ 0 :=
      Nat.ne_of_gt (Nat.mul_pos hpos (twoPow_pos _))
    have hlt : (bits * twoPow exponent).log2 < 53 + exponent := by
      rw [log2_lt_iff hne, twoPow_add]
      exact Nat.mul_lt_mul_of_pos_right hbits (twoPow_pos _)
    rw [spacing]
    rcases hlow with rfl | hlow
    · rw [show (bits * twoPow 0).log2 - 52 = 0 by omega]
    · have hge : 52 + exponent ≤ (bits * twoPow exponent).log2 := by
        rw [Nat.le_log2 hne]
        calc twoPow (52 + exponent) = twoPow 52 * twoPow exponent := twoPow_add _ _
          _ ≤ bits * twoPow exponent := Nat.mul_le_mul_right _ hlow
      rw [show (bits * twoPow exponent).log2 - 52 = exponent by omega]

/-- An even number of at most 53 bits times a power is even when it is counted in its spacing. -/
theorem even_div_spacing {bits exponent : Nat} (hbits : bits ≤ twoPow 53)
    (hlow : exponent = 0 ∨ twoPow 52 ≤ bits) (heven : bits % 2 = 0) :
    bits * twoPow exponent / spacing (bits * twoPow exponent) % 2 = 0 := by
  rcases Nat.lt_or_eq_of_le hbits with hlt | rfl
  · rw [spacing_mul hlt hlow, Nat.mul_div_cancel _ (twoPow_pos _)]
    exact heven
  · -- The greatest bits carry into a new power, and 52 zeros remain behind the first bit.
    have hvalue : twoPow 53 * twoPow exponent = twoPow 52 * twoPow (exponent + 1) := by
      rw [← twoPow_add, ← twoPow_add, show 53 + exponent = 52 + (exponent + 1) by omega]
    rw [hvalue, spacing_mul (by decide) (Or.inr (Nat.le_refl _)),
      Nat.mul_div_cancel _ (twoPow_pos _)]
    decide

/-- A magnitude is its bits times a power, and the power is its spacing. -/
theorem IsMagnitude.exists_bits {units : Nat} (h : IsMagnitude units) :
    ∃ bits exponent, units = bits * twoPow exponent ∧ bits < twoPow 53 ∧
      (exponent = 0 ∨ twoPow 52 ≤ bits) := by
  refine ⟨units / spacing units, units.log2 - 52, (Nat.div_mul_cancel h).symm,
    div_spacing_lt units, ?_⟩
  rcases Nat.lt_or_ge units.log2 52 with hlow | hhigh
  · exact Or.inl (by omega)
  · exact Or.inr (twoPow_le_div_spacing hhigh)

/-- The next magnitude is one spacing further. -/
theorem IsMagnitude.next {units : Nat} (h : IsMagnitude units) :
    IsMagnitude (units + spacing units) := by
  obtain ⟨bits, exponent, rfl, hbits, hlow⟩ := h.exists_bits
  rw [spacing_mul hbits hlow, ← Nat.succ_mul]
  exact spacing_dvd_of_le _ _ hbits

/-- No magnitude lies between a magnitude and the next one. -/
theorem IsMagnitude.add_spacing_le {m n : Nat} (hm : IsMagnitude m) (hn : IsMagnitude n)
    (h : m < n) : m + spacing m ≤ n := by
  have hdvd : spacing m ∣ n - m := by
    refine Nat.dvd_sub (Nat.dvd_trans (spacing_dvd_spacing (log2_le_log2 ?_)) hn) hm
    exact Nat.le_of_lt h
  have hle := Nat.le_of_dvd (by omega) hdvd
  omega

/-- After an even magnitude comes an odd one. -/
theorem IsMagnitude.odd_next {units : Nat} (h : IsMagnitude units)
    (heven : units / spacing units % 2 = 0) :
    (units + spacing units) / spacing (units + spacing units) % 2 = 1 := by
  obtain ⟨bits, exponent, rfl, hbits, hlow⟩ := h.exists_bits
  rw [spacing_mul hbits hlow, Nat.mul_div_cancel _ (twoPow_pos _)] at heven
  have hbits' : bits + 1 < twoPow 53 := by
    have hlimit : twoPow 53 = 9007199254740992 := by decide
    omega
  have hlow' : exponent = 0 ∨ twoPow 52 ≤ bits + 1 := by omega
  rw [spacing_mul hbits hlow, ← Nat.succ_mul, spacing_mul hbits' hlow',
    Nat.mul_div_cancel _ (twoPow_pos _)]
  omega

/-! ## The nearest magnitude -/

/-- The magnitude is nearest to a number of units, and even if another one is as near. -/
structure IsNearest (q : ℚ) (units : Nat) : Prop where
  /-- It has no more than 53 bits. -/
  isMagnitude : IsMagnitude units
  /-- No magnitude is nearer. -/
  le : ∀ n, IsMagnitude n → |(units : ℚ) - q| ≤ |(n : ℚ) - q|
  /-- Counted in its spacing it is even if another magnitude is as near. -/
  even : ∀ n, IsMagnitude n → n ≠ units → |(n : ℚ) - q| = |(units : ℚ) - q| →
    units / spacing units % 2 = 0

/-- Of two nearest magnitudes neither is the lesser one. -/
theorem IsNearest.not_lt {q : ℚ} {m n : Nat} (hm : IsNearest q m) (hn : IsNearest q n) :
    ¬ m < n := by
  intro hlt
  have hdist : |(m : ℚ) - q| = |(n : ℚ) - q| :=
    le_antisymm (hm.le n hn.isMagnitude) (hn.le m hm.isMagnitude)
  have hltq : (m : ℚ) < n := by exact_mod_cast hlt
  -- The number is halfway between the two, so what lies between them would be nearer.
  have hmid : q - m = n - q := by
    rcases abs_eq_abs.mp hdist with h | h <;> linarith
  have hnext : n = m + spacing m := by
    refine Nat.le_antisymm ?_ (hm.isMagnitude.add_spacing_le hn.isMagnitude hlt)
    by_contra hgt
    have hgtq : (m : ℚ) + spacing m < n := by exact_mod_cast Nat.lt_of_not_le hgt
    have hpos : (0 : ℚ) < spacing m := by exact_mod_cast spacing_pos m
    have hle := hm.le _ hm.isMagnitude.next
    rw [abs_of_nonpos (by linarith : (m : ℚ) - q ≤ 0), Nat.cast_add] at hle
    rcases le_abs.mp hle with h | h <;> linarith
  have hmeven := hm.even n hn.isMagnitude (by omega) hdist.symm
  have hneven := hn.even m hm.isMagnitude (by omega) hdist
  have hodd := hm.isMagnitude.odd_next hmeven
  rw [← hnext] at hodd
  omega

/-- A number has one nearest magnitude. -/
theorem IsNearest.unique {q : ℚ} {m n : Nat} (hm : IsNearest q m) (hn : IsNearest q n) :
    m = n := by
  have hnot := hm.not_lt hn
  have hnot' := hn.not_lt hm
  omega

/-- A magnitude is nearest to itself. -/
theorem IsMagnitude.isNearest {units : Nat} (h : IsMagnitude units) : IsNearest units units := by
  refine ⟨h, ?_, ?_⟩
  · intro n _
    rw [sub_self, abs_zero]
    exact abs_nonneg _
  · intro n _ hne hdist
    rw [sub_self, abs_zero, abs_eq_zero, sub_eq_zero, Nat.cast_inj] at hdist
    exact absurd hdist hne

/-- An even magnitude is nearest to all that is at most halfway to the next one. -/
theorem IsMagnitude.isNearest_of_le_half {q : ℚ} {units : Nat} (h : IsMagnitude units)
    (heven : units / spacing units % 2 = 0) (hlow : units ≤ q)
    (hhigh : 2 * (q - units) ≤ spacing units) : IsNearest q units := by
  refine ⟨h, ?_, fun _ _ _ _ => heven⟩
  intro n hn
  rw [abs_sub_comm, abs_of_nonneg (sub_nonneg.mpr hlow)]
  rcases Nat.lt_or_ge units n with hlt | hge
  · have hnext : (units : ℚ) + spacing units ≤ n := by
      exact_mod_cast h.add_spacing_le hn hlt
    exact le_abs.mpr (Or.inl (by linarith))
  · have hle : (n : ℚ) ≤ units := by exact_mod_cast hge
    exact le_abs.mpr (Or.inr (by linarith))

/-- What is more than halfway to the next magnitude rounds to that one at least. -/
theorem IsNearest.lt_of_half_lt {q : ℚ} {m n : Nat} (hn : IsNearest q n) (hm : IsMagnitude m)
    (hhalf : spacing m < 2 * (q - m)) : m < n := by
  by_contra hnot
  have hle : (n : ℚ) ≤ m := by exact_mod_cast Nat.le_of_not_lt hnot
  have hpos : (0 : ℚ) < spacing m := by exact_mod_cast spacing_pos m
  have hnearest := hn.le _ hm.next
  rw [Nat.cast_add, abs_sub_comm, abs_of_nonneg (by linarith : 0 ≤ q - n)] at hnearest
  rcases le_abs.mp hnearest with h | h <;> linarith

/-- Rounding at most doubles a number, since zero is a magnitude. -/
theorem IsNearest.le_two_mul {q : ℚ} {n : Nat} (h : IsNearest q n) (hq : 0 ≤ q) :
    (n : ℚ) ≤ 2 * q := by
  have hzero := h.le 0 (Nat.dvd_zero _)
  rw [Nat.cast_zero, zero_sub, abs_neg, abs_of_nonneg hq] at hzero
  have hle := (abs_le.mp hzero).2
  linarith

/-! ## Rounding a quotient -/

/-- How far a whole number is from {lit}`num / den`, counted in parts of {lit}`1 / den`. -/
def gap (num den n : Nat) : Nat :=
  ((n * den : Nat) - (num : Int)).natAbs

/-- The distance from a quotient is the gap over the divisor. -/
theorem abs_sub_div {num den : Nat} (hden : 0 < den) (n : Nat) :
    |(n : ℚ) - num / den| = gap num den n / den := by
  have hpos : (0 : ℚ) < den := by exact_mod_cast hden
  have hdiff : (n : ℚ) - num / den = ((n * den : Nat) - (num : Int) : Int) / den := by
    push_cast
    field_simp
  rw [hdiff, abs_div, abs_of_pos hpos, gap, Nat.cast_natAbs, Int.cast_abs]

theorem gap_mul (num den step n : Nat) : gap num den (n * step) = gap num (den * step) n := by
  rw [gap, gap, Nat.mul_assoc, Nat.mul_comm step den]

theorem gap_floor (num den : Nat) : gap num den (num / den) = num % den := by
  have hdivmod := Nat.div_add_mod' num den
  rw [gap]
  omega

theorem gap_ceil (num : Nat) {den : Nat} (hden : 0 < den) :
    gap num den (num / den + 1) = den - num % den := by
  have hdivmod := Nat.div_add_mod' num den
  have hlt := Nat.mod_lt num hden
  rw [gap, Nat.succ_mul]
  omega

/-- All but the two whole numbers next to a quotient are further away than one divisor. -/
theorem lt_gap (num : Nat) {den n : Nat} (hden : 0 < den) (hfloor : n ≠ num / den)
    (hceil : n ≠ num / den + 1) : den ≤ gap num den n := by
  have hdivmod := Nat.div_add_mod' num den
  have hlt := Nat.mod_lt num hden
  rw [gap]
  rcases Nat.lt_or_ge n (num / den) with hlow | hhigh
  · have hmul := Nat.mul_le_mul_right den (Nat.succ_le_of_lt hlow)
    rw [Nat.succ_mul] at hmul
    omega
  · have hmul : (num / den + 2) * den ≤ n * den := Nat.mul_le_mul_right den (by omega)
    rw [Nat.add_mul] at hmul
    omega

/-- Rounding goes down below one half and up above it; at one half it goes to the even side. -/
theorem roundDiv_cases (num den : Nat) :
    (roundDiv num den = num / den ∧
      (2 * (num % den) < den ∨ 2 * (num % den) = den ∧ num / den % 2 = 0)) ∨
    (roundDiv num den = num / den + 1 ∧
      (den < 2 * (num % den) ∨ 2 * (num % den) = den ∧ num / den % 2 = 1)) := by
  simp only [roundDiv]
  split
  · next h => exact Or.inl ⟨rfl, h⟩
  · next h => exact Or.inr ⟨rfl, by omega⟩

/-- No whole number is nearer to a quotient than the rounded one, which is even if another one is
as near. -/
theorem gap_roundDiv (num : Nat) {den : Nat} (hden : 0 < den) (n : Nat) :
    gap num den (roundDiv num den) ≤ gap num den n ∧
      (n ≠ roundDiv num den → gap num den n = gap num den (roundDiv num den) →
        roundDiv num den % 2 = 0) := by
  have hfloor := gap_floor num den
  have hceil := gap_ceil num hden
  have hlt := Nat.mod_lt num hden
  by_cases hn : n = num / den
  · subst hn
    rcases roundDiv_cases num den with ⟨hr, h⟩ | ⟨hr, h⟩ <;> rw [hr] <;> omega
  · by_cases hn' : n = num / den + 1
    · subst hn'
      rcases roundDiv_cases num den with ⟨hr, h⟩ | ⟨hr, h⟩ <;> rw [hr] <;> omega
    · have hfar := lt_gap num hden hn hn'
      rcases roundDiv_cases num den with ⟨hr, h⟩ | ⟨hr, h⟩ <;> rw [hr] <;> omega

/-- A magnitude that is not counted in the spacing of a number is below the power of two at which
that spacing starts. -/
theorem IsMagnitude.lt_of_not_dvd {m n : Nat} (hm : IsMagnitude m) (h : ¬ spacing n ∣ m) :
    n ≠ 0 ∧ m < twoPow n.log2 := by
  have hlog : m.log2 < n.log2 := by
    by_contra hle
    exact h (Nat.dvd_trans (spacing_dvd_spacing (Nat.le_of_not_lt hle)) hm)
  refine ⟨?_, ?_⟩
  · rintro rfl
    exact absurd hlog (by rw [Nat.log2_zero]; exact Nat.not_lt_zero _)
  · exact Nat.lt_of_lt_of_le (lt_twoPow_log2 m) (twoPow_le hlog)

/-- A magnitude that is not counted in the spacing of the quotient is further away than some
multiple of that spacing. -/
theorem exists_gap_lt {num den n : Nat} (hden : 0 < den) (hn : IsMagnitude n)
    (h : ¬ spacing (num / den) ∣ n) :
    ∃ k, gap num den (k * spacing (num / den)) < gap num den n := by
  obtain ⟨hne, hlt⟩ := hn.lt_of_not_dvd h
  have hdvd : spacing (num / den) ∣ twoPow (num / den).log2 := twoPow_dvd (Nat.sub_le _ _)
  refine ⟨twoPow (num / den).log2 / spacing (num / den), ?_⟩
  rw [Nat.div_mul_cancel hdvd, gap, gap]
  have hle : twoPow (num / den).log2 * den ≤ num :=
    (Nat.le_div_iff_mul_le hden).mp (Nat.log2_self_le hne)
  have hmul := Nat.mul_lt_mul_of_pos_right hlt hden
  omega

/-- The rounded quotient counted in its spacing has at most 53 bits, and as many unless the
spacing is the least one. -/
theorem roundDiv_spacing_bounds (num den : Nat) :
    roundDiv num (den * spacing (num / den)) ≤ twoPow 53 ∧
      ((num / den).log2 - 52 = 0 ∨
        twoPow 52 ≤ roundDiv num (den * spacing (num / den))) := by
  have hbits : num / (den * spacing (num / den)) = num / den / spacing (num / den) :=
    (Nat.div_div_eq_div_mul _ _ _).symm
  have hlt := div_spacing_lt (num / den)
  have hround := roundDiv_cases num (den * spacing (num / den))
  rw [hbits] at hround
  refine ⟨by omega, ?_⟩
  rcases Nat.lt_or_ge (num / den).log2 52 with hlow | hhigh
  · exact Or.inl (by omega)
  · have hge := twoPow_le_div_spacing hhigh
    exact Or.inr (by omega)

/-- The computed magnitude is the nearest one. -/
theorem isNearest_nearestUnits (num : Nat) {den : Nat} (hden : 0 < den) :
    IsNearest ((num : ℚ) / den) (nearestUnits num den) := by
  have hpos : (0 : ℚ) < den := by exact_mod_cast hden
  have hstep : 0 < den * spacing (num / den) := Nat.mul_pos hden (spacing_pos _)
  have hmultiple : ∀ k, gap num den (nearestUnits num den) ≤
      gap num den (k * spacing (num / den)) := by
    intro k
    rw [nearestUnits, gap_mul, gap_mul]
    exact (gap_roundDiv num hstep k).1
  refine ⟨spacing_dvd_nearestUnits num den, ?_, ?_⟩
  · intro n hn
    rw [abs_sub_div hden, abs_sub_div hden, div_le_div_iff_of_pos_right hpos, Nat.cast_le]
    by_cases hdvd : spacing (num / den) ∣ n
    · obtain ⟨k, rfl⟩ := hdvd
      rw [Nat.mul_comm]
      exact hmultiple k
    · obtain ⟨k, hk⟩ := exists_gap_lt hden hn hdvd
      exact Nat.le_trans (hmultiple k) (Nat.le_of_lt hk)
  · intro n hn hne hdist
    rw [abs_sub_div hden, abs_sub_div hden, div_left_inj' (ne_of_gt hpos), Nat.cast_inj] at hdist
    have hdvd : spacing (num / den) ∣ n := by
      by_contra hnot
      obtain ⟨k, hk⟩ := exists_gap_lt hden hn hnot
      have hle := hmultiple k
      omega
    obtain ⟨k, rfl⟩ := hdvd
    rw [Nat.mul_comm] at hne hdist
    have hbounds := roundDiv_spacing_bounds num den
    refine even_div_spacing hbounds.1 hbounds.2 ((gap_roundDiv num hstep k).2 ?_ ?_)
    · rintro rfl
      exact hne rfl
    · rw [← gap_mul, ← gap_mul]
      exact hdist

/-! ## Doubles -/

namespace Binary64

/-- What a number with a sign and a magnitude rounds to: the nearest magnitude if a double has it,
else an infinity. -/
inductive Rounds (negative : Bool) (q : ℚ) : Binary64 → Prop where
  /-- The nearest magnitude is in range. -/
  | finite (x : Double) (hsign : x.negative = negative)
      (h : IsNearest (q * unitsPerOne) x.units) : Rounds negative q (.finite x)
  /-- The nearest magnitude is out of range. -/
  | infinite (units : Nat) (hlimit : unitLimit ≤ units)
      (h : IsNearest (q * unitsPerOne) units) : Rounds negative q (.infinite negative)

/-- A number rounds to one double. -/
theorem Rounds.unique {negative : Bool} {q : ℚ} {x y : Binary64} (hx : Rounds negative q x)
    (hy : Rounds negative q y) : x = y := by
  cases hx with
  | finite x hsign h =>
      cases hy with
      | finite y hsign' h' =>
          have hunits := h.unique h'
          rw [Binary64.finite.injEq, Double.mk.injEq]
          exact ⟨hsign.trans hsign'.symm, hunits⟩
      | infinite units hlimit h' =>
          exact absurd x.units_lt (Nat.not_lt_of_le (h.unique h' ▸ hlimit))
  | infinite units hlimit h =>
      cases hy with
      | finite y hsign' h' =>
          exact absurd y.units_lt (Nat.not_lt_of_le (h'.unique h ▸ hlimit))
      | infinite => rfl

/-- The computed double is the one that the quotient rounds to. -/
theorem rounds_ofRatio (negative : Bool) (num : Nat) {den : Nat} (hden : 0 < den) :
    Rounds negative ((num : ℚ) / den) (ofRatio negative num den) := by
  have hnearest := isNearest_nearestUnits (num * unitsPerOne) hden
  rw [Nat.cast_mul, mul_div_right_comm] at hnearest
  rw [ofRatio]
  split
  · exact .finite _ rfl hnearest
  · next hlimit => exact .infinite _ (Nat.le_of_not_lt hlimit) hnearest

/-- A quotient rounds to the computed double and to nothing else. -/
theorem rounds_iff {negative : Bool} {num den : Nat} (hden : 0 < den) {x : Binary64} :
    Rounds negative ((num : ℚ) / den) x ↔ x = ofRatio negative num den := by
  have hrounds := rounds_ofRatio negative num hden
  constructor
  · intro h
    exact h.unique hrounds
  · intro h
    rw [h]
    exact hrounds

/-- An integer rounds to the computed double and to nothing else. -/
theorem rounds_natAbs_iff {n : Int} {x : Binary64} :
    Rounds (decide (n < 0)) n.natAbs x ↔ x = ofInt n := by
  have hone : (n.natAbs : ℚ) = (n.natAbs : ℚ) / (1 : Nat) := by
    rw [Nat.cast_one, div_one]
  rw [hone]
  exact rounds_iff Nat.one_pos

end Binary64

/-! ## Decimal numbers -/

theorem unitLimit_isMagnitude : IsMagnitude unitLimit :=
  twoPow_dvd (by rw [unitLimit, log2_twoPow]; omega)

/-- A quotient of less than half a unit is no magnitude but zero. -/
theorem nearestUnits_eq_zero {num den : Nat} (h : 2 * num < den) : nearestUnits num den = 0 := by
  have hfloor : num / den = 0 := Nat.div_eq_of_lt (by omega)
  have hstep : den * spacing (num / den) = den := by
    rw [hfloor, show spacing 0 = 1 by decide, Nat.mul_one]
  have hround : roundDiv num den = 0 := by
    rw [roundDiv, hfloor, Nat.mod_eq_of_lt (by omega), if_pos (Or.inl h)]
  rw [nearestUnits, hstep, hround, Nat.zero_mul]

/-- A quotient of the limit or more rounds to the limit or more. -/
theorem unitLimit_le_nearestUnits {num den : Nat} (hden : 0 < den) (h : unitLimit * den ≤ num) :
    unitLimit ≤ nearestUnits num den := by
  by_contra hlt
  have hle := (isNearest_nearestUnits num hden).le unitLimit unitLimit_isMagnitude
  rw [abs_sub_div hden, abs_sub_div hden,
    div_le_div_iff_of_pos_right (by exact_mod_cast hden), Nat.cast_le, gap, gap] at hle
  have hmul := Nat.mul_lt_mul_of_pos_right (Nat.lt_of_not_le hlt) hden
  omega

namespace Binary64

/-- A quotient of less than half a unit rounds to zero. -/
theorem ofRatio_eq_zero (negative : Bool) {num den : Nat} (h : 2 * (num * unitsPerOne) < den) :
    ofRatio negative num den = .finite (.zero negative) := by
  simp only [ofRatio, nearestUnits_eq_zero h, Double.zero, dif_pos unitLimit_pos]

/-- A quotient of the limit or more rounds to an infinity. -/
theorem ofRatio_eq_infinite (negative : Bool) {num den : Nat} (hden : 0 < den)
    (h : unitLimit * den ≤ num * unitsPerOne) :
    ofRatio negative num den = .infinite negative := by
  rw [ofRatio, dif_neg (Nat.not_lt_of_le (unitLimit_le_nearestUnits hden h))]

end Binary64

namespace Decimal

/-- The exact number. -/
def toRat (d : Decimal) : ℚ :=
  (d.coefficient * tenPow d.exponent.toNat : Nat) / (tenPow (-d.exponent).toNat : Nat)

/-- A power of ten above 400 is beyond every double. -/
theorem unitLimit_le_of_exponent {coefficient exponent : Nat} (hpos : 0 < coefficient)
    (hexponent : 400 < exponent) : unitLimit ≤ coefficient * tenPow exponent * unitsPerOne := by
  have hlimit : unitLimit ≤ tenPow 401 * unitsPerOne := by decide +kernel
  refine Nat.le_trans hlimit (Nat.mul_le_mul_right _ ?_)
  calc tenPow 401 ≤ tenPow exponent := tenPow_le hexponent
    _ ≤ coefficient * tenPow exponent := Nat.le_mul_of_pos_left _ hpos

/-- A coefficient over a power of ten far above its size is less than half a unit. -/
theorem lt_of_exponent {coefficient exponent : Nat}
    (hexponent : 400 + coefficient.log2 < exponent) :
    2 * (coefficient * unitsPerOne) < tenPow exponent := by
  have hlimit : 2 * (twoPow 1 * unitsPerOne) ≤ tenPow 401 := by decide +kernel
  have hcoefficient : coefficient < twoPow coefficient.log2 * twoPow 1 := by
    rw [← twoPow_add]
    exact lt_twoPow_log2 coefficient
  calc 2 * (coefficient * unitsPerOne)
      < 2 * (twoPow coefficient.log2 * twoPow 1 * unitsPerOne) := by
        have hmul := Nat.mul_lt_mul_of_pos_right hcoefficient (twoPow_pos 1074)
        exact Nat.mul_lt_mul_of_pos_left hmul (by decide)
    _ = twoPow coefficient.log2 * (2 * (twoPow 1 * unitsPerOne)) := by ring
    _ ≤ tenPow coefficient.log2 * tenPow 401 :=
        Nat.mul_le_mul (twoPow_le_tenPow _) hlimit
    _ = tenPow (coefficient.log2 + 401) := (tenPow_add _ _).symm
    _ ≤ tenPow exponent := tenPow_le (by omega)

/-- The cases that need no division give what the division would give. -/
theorem toBinary64_eq (negative : Bool) (d : Decimal) :
    d.toBinary64 negative = .ofRatio negative (d.coefficient * tenPow d.exponent.toNat)
      (tenPow (-d.exponent).toNat) := by
  rw [toBinary64]
  split
  · next hzero =>
    rw [hzero, Nat.zero_mul, Binary64.ofRatio_eq_zero]
    rw [Nat.zero_mul]
    exact tenPow_pos _
  · next hzero =>
    split
    · next hhigh =>
      have hlimit : unitLimit ≤ d.coefficient * tenPow d.exponent.toNat * unitsPerOne :=
        unitLimit_le_of_exponent (Nat.pos_of_ne_zero hzero) (by omega)
      rw [show (-d.exponent).toNat = 0 by omega,
        Binary64.ofRatio_eq_infinite negative (tenPow_pos 0)]
      rwa [show tenPow 0 = 1 from rfl, Nat.mul_one]
    · split
      · next hlow =>
        have hlt : 2 * (d.coefficient * unitsPerOne) < tenPow (-d.exponent).toNat :=
          lt_of_exponent (by omega)
        rw [show d.exponent.toNat = 0 by omega, show tenPow 0 = 1 from rfl, Nat.mul_one,
          Binary64.ofRatio_eq_zero negative hlt]
      · split
        · rw [show (-d.exponent).toNat = 0 by omega]
          rfl
        · rw [show d.exponent.toNat = 0 by omega, show tenPow 0 = 1 from rfl, Nat.mul_one]

/-- A decimal number rounds to the computed double and to nothing else. -/
theorem rounds_iff {negative : Bool} {d : Decimal} {x : Binary64} :
    Binary64.Rounds negative d.toRat x ↔ x = d.toBinary64 negative := by
  rw [toBinary64_eq, toRat]
  exact Binary64.rounds_iff (tenPow_pos _)

end Decimal

end Intake
