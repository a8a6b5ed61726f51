import Intake.Number.Decimal

/-!
# Shortest decimals

The decimal with the fewest digits that lies among the numbers which round to a given double.

Main results:

- {lit}`Neighbourhood` holds the numbers that round to a magnitude.
- Definition {lit}`shortest` tries grids of one, two and more digits and takes the first grid
  with a point in the neighbourhood, of two such points the nearer one.
-/

namespace Intake

/-- Which of two equally near decimals is chosen. -/
inductive Tie where
  /-- The one with the even last digit. -/
  | toEven
  /-- The greater one. -/
  | up
  deriving DecidableEq

/-- The numbers that round to one magnitude, all counted in half units. -/
structure Neighbourhood where
  /-- The least of them. -/
  low : Nat
  /-- The magnitude itself. -/
  centre : Nat
  /-- The greatest of them. -/
  high : Nat
  /-- Whether the two ends round to the magnitude as well. -/
  closed : Bool

namespace Neighbourhood

/-- The neighbourhood of a magnitude other than zero: half the way to either neighbour, with the
ends if the last bit is zero. -/
def ofUnits (units : Nat) : Neighbourhood where
  low := 2 * units - spacing (units - 1)
  centre := 2 * units
  high := 2 * units + spacing units
  closed := units / spacing units % 2 = 0

/-- Whether the number {lit}`num / den` half units belongs to the neighbourhood. -/
def contains (hood : Neighbourhood) (num den : Nat) : Bool :=
  if hood.closed then hood.low * den ≤ num && num ≤ hood.high * den
  else hood.low * den < num && num < hood.high * den

end Neighbourhood

/-- The number of decimal digits of a number other than zero. -/
def digitCount (n : Nat) : Nat :=
  (Nat.toDigits 10 n).length

/-- The power of ten of the first digit of a magnitude other than zero. -/
def leadingExponent (units : Nat) : Int :=
  (digitCount (units * tenPow 324 / unitsPerOne) : Int) - 325

/-- The point of the grid {lit}`10 ^ exponent` that is nearest to the centre among those in the
neighbourhood. -/
def Neighbourhood.gridPoint? (hood : Neighbourhood) (tie : Tie) (exponent : Int) :
    Option Decimal :=
  let num := 2 * unitsPerOne * tenPow exponent.toNat
  let den := tenPow (-exponent).toNat
  let below := hood.centre * den / num
  let distanceBelow := hood.centre * den - below * num
  let distanceAbove := (below + 1) * num - hood.centre * den
  let above : Bool :=
    if distanceBelow = distanceAbove then
      match tie with
      | .toEven => below % 2 = 1
      | .up => true
    else distanceAbove < distanceBelow
  match hood.contains (below * num) den, hood.contains ((below + 1) * num) den with
  | true, true => some ⟨if above then below + 1 else below, exponent⟩
  | true, false => some ⟨below, exponent⟩
  | false, true => some ⟨below + 1, exponent⟩
  | false, false => none

/-- The shortest decimal that rounds to a magnitude other than zero; seventeen digits suffice. -/
def shortest (tie : Tie) (units : Nat) : Decimal :=
  let hood := Neighbourhood.ofUnits units
  let first := leadingExponent units
  let grids := (List.range 17).map fun (places : Nat) => first - (places : Int)
  (grids.findSome? (hood.gridPoint? tie)).getD ⟨units, 0⟩

end Intake
