import Intake.Number.Power

/-!
# Doubles as exact multiples of a unit

Every finite double is a whole multiple of the least positive one, so a double is kept as a sign
and a natural number of such units.  Rounding, comparing and testing for a whole number are then
exact arithmetic on natural numbers.

Main results:

- {lit}`Double` is a finite double, {lit}`Binary64` adds the infinities and the value that is no
  number.
- Definition {lit}`Binary64.ofRatio` rounds a quotient to the nearest double, ties going to the
  even neighbour.
- Theorem {lit}`spacing_dvd_nearestUnits` says that rounding ends on a double.
-/

namespace Intake

/-! ## Finite doubles -/

/-- How many units make the number one; a unit is two to the power -1074. -/
def unitsPerOne : Nat :=
  twoPow 1074

/-- The first number of units that is beyond every finite double. -/
def unitLimit : Nat :=
  twoPow 2098

/-- Zero units are in range. -/
theorem unitLimit_pos : 0 < unitLimit :=
  twoPow_pos _

/-- The distance from a magnitude to the next double above it: 53 bits are kept. -/
def spacing (units : Nat) : Nat :=
  twoPow (units.log2 - 52)

/-- A finite double: a sign and a magnitude in units.  Both zeros are kept apart. -/
structure Double where
  /-- Whether the sign bit is set. -/
  negative : Bool
  /-- The magnitude in units. -/
  units : Nat
  /-- The magnitude needs no more than 53 bits. -/
  spacing_dvd : spacing units ∣ units
  /-- The magnitude is in range. -/
  units_lt : units < unitLimit
  deriving DecidableEq

namespace Double

/-- The signed number of units; both zeros give zero. -/
def value (x : Double) : Int :=
  if x.negative then -(x.units : Int) else x.units

/-- The same magnitude with the other sign. -/
def neg (x : Double) : Double :=
  { x with negative := !x.negative }

/-- The number as an integer, if it is one. -/
def toInt? (x : Double) : Option Int :=
  if unitsPerOne ∣ x.units then
    let n := x.units / unitsPerOne
    some (if x.negative then -(n : Int) else n)
  else none

/-- Zero with the given sign. -/
def zero (negative : Bool) : Double :=
  ⟨negative, 0, Nat.dvd_zero _, unitLimit_pos⟩

end Double

/-- A double: a finite one, an infinity, or the value that is no number. -/
inductive Binary64 where
  /-- A finite double. -/
  | finite (x : Double)
  /-- An infinity. -/
  | infinite (negative : Bool)
  /-- Not a number. -/
  | nan
  deriving DecidableEq

/-! ## Rounding -/

/-- The whole number nearest to {lit}`num / den`; a tie goes to the even neighbour. -/
def roundDiv (num den : Nat) : Nat :=
  let quotient := num / den
  let twice := 2 * (num % den)
  if twice < den ∨ (twice = den ∧ quotient % 2 = 0) then quotient else quotient + 1

/-- Rounding moves a quotient up by at most one. -/
theorem roundDiv_le (num den : Nat) : roundDiv num den ≤ num / den + 1 := by
  simp only [roundDiv]
  split <;> omega

/-- The magnitude of 53 bits nearest to {lit}`num / den` units. -/
def nearestUnits (num den : Nat) : Nat :=
  let step := spacing (num / den)
  roundDiv num (den * step) * step

/-- A magnitude has less than 54 bits when counted in its spacing. -/
theorem div_spacing_lt (units : Nat) : units / spacing units < twoPow 53 := by
  refine Nat.div_lt_of_lt_mul ?_
  calc units < twoPow (units.log2 + 1) := lt_twoPow_log2 units
    _ ≤ twoPow (units.log2 - 52 + 53) := twoPow_le (by omega)
    _ = spacing units * twoPow 53 := twoPow_add _ _

/-- A magnitude of at most 53 bits above a power of two is a multiple of its own spacing. -/
theorem spacing_dvd_of_le (digits exponent : Nat) (h : digits ≤ twoPow 53) :
    spacing (digits * twoPow exponent) ∣ digits * twoPow exponent := by
  rcases Nat.lt_or_eq_of_le h with hlt | rfl
  · rcases Nat.eq_zero_or_pos (digits * twoPow exponent) with hzero | hpos
    · rw [hzero]
      exact Nat.dvd_zero _
    · have hlog : (digits * twoPow exponent).log2 < 53 + exponent := by
        rw [log2_lt_iff (Nat.ne_of_gt hpos), twoPow_add]
        exact Nat.mul_lt_mul_of_pos_right hlt (twoPow_pos _)
      exact Nat.dvd_trans (twoPow_dvd (by omega)) (Nat.dvd_mul_left _ _)
  · rw [← twoPow_add, spacing, log2_twoPow]
    exact twoPow_dvd (by omega)

/-- Rounding ends on a magnitude that a double has. -/
theorem spacing_dvd_nearestUnits (num den : Nat) :
    spacing (nearestUnits num den) ∣ nearestUnits num den := by
  refine spacing_dvd_of_le _ _ (Nat.le_trans (roundDiv_le _ _) ?_)
  rw [← Nat.div_div_eq_div_mul]
  exact div_spacing_lt _

namespace Binary64

/-- The double nearest to {lit}`num / den`; a magnitude that rounds out of range is infinite. -/
def ofRatio (negative : Bool) (num den : Nat) : Binary64 :=
  let units := nearestUnits (num * unitsPerOne) den
  if h : units < unitLimit then
    .finite ⟨negative, units, spacing_dvd_nearestUnits _ _, h⟩
  else .infinite negative

/-- The double nearest to an integer; the integer zero gives the positive zero. -/
def ofInt (n : Int) : Binary64 :=
  ofRatio (decide (n < 0)) n.natAbs 1

/-- The product, rounded once. -/
def mul (x y : Double) : Binary64 :=
  ofRatio (x.negative != y.negative) (x.units * y.units) (unitsPerOne * unitsPerOne)

/-- The quotient by a double other than zero, rounded once. -/
def div (x y : Double) : Binary64 :=
  ofRatio (x.negative != y.negative) x.units y.units

/-! ## Comparison -/

/-- Whether the first number is less than the second; never so when one is not a number. -/
def lt : Binary64 → Binary64 → Bool
  | .finite x, .finite y => decide (x.value < y.value)
  | .finite _, .infinite negative => !negative
  | .infinite negative, .finite _ => negative
  | .infinite negative, .infinite negative' => negative && !negative'
  | .nan, _ => false
  | _, .nan => false

/-- Whether the two numbers are equal; the two zeros are, and what is no number never is. -/
def eq : Binary64 → Binary64 → Bool
  | .finite x, .finite y => x.value == y.value
  | .infinite negative, .infinite negative' => negative == negative'
  | _, _ => false

/-- Whether the first number is at most the second. -/
def le (x y : Binary64) : Bool :=
  lt x y || eq x y

/-- The positive zero. -/
def zero : Binary64 :=
  .finite (Double.zero false)

end Binary64

end Intake
