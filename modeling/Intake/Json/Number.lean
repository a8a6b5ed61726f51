import Intake.Number.Layout

/-!
# Numbers of JSON values

A number is an integer that 64 bits hold, with or without a sign, or a finite double.  The two
kinds never compare equal.

Main results:

- {lit}`Json.Number` is the type of numbers, {lit}`Json.Integer` its integers.
- Definition {lit}`Json.Number.toBinary64` is the number as a double.
- Definition {lit}`Json.Numeral.toNumber?` is the number that a numeral of a JSON text stands for.
-/

namespace Intake.Json

/-! ## Integers -/

/-- The greatest integer of 64 bits without a sign. -/
def maxUInt64 : Int :=
  18446744073709551615

/-- An integer that 64 bits hold, with or without a sign. -/
structure Integer where
  /-- The integer itself. -/
  val : Int
  /-- It is at least the least integer with a sign. -/
  min_le : minInt64 ≤ val
  /-- It is at most the greatest integer without a sign. -/
  le_max : val ≤ maxUInt64
  deriving DecidableEq

namespace Integer

/-- An integer in range. -/
def ofInt? (n : Int) : Option Integer :=
  if h : minInt64 ≤ n ∧ n ≤ maxUInt64 then some ⟨n, h.1, h.2⟩ else none

/-- Zero or one. -/
def ofBool : Bool → Integer
  | false => ⟨0, by decide, by decide⟩
  | true => ⟨1, by decide, by decide⟩

/-- The integer if 64 bits with a sign hold it. -/
def toInt64? (n : Integer) : Option Int :=
  if n.val ≤ maxInt64 then some n.val else none

end Integer

/-! ## Numbers -/

/-- A number of a JSON value. -/
inductive Number where
  /-- An integer. -/
  | integer (n : Integer)
  /-- A finite double. -/
  | double (x : Double)
  deriving DecidableEq

namespace Number

/-- The number as a double; an integer is rounded. -/
def toBinary64 : Number → Binary64
  | integer n => .ofInt n.val
  | double x => .finite x

/-- The integer if the number is one that 64 bits with a sign hold. -/
def toInt64? : Number → Option Int
  | integer n => n.toInt64?
  | double _ => none

/-- The number in a JSON text. -/
def write : Number → String
  | integer n => toString n.val
  | double x => DoubleLayout.json.write x

/-- Equality of numbers: of the same kind and of the same value, so that both zeros are one. -/
def same : Number → Number → Bool
  | integer m, integer n => m.val == n.val
  | double x, double y => x.value == y.value
  | _, _ => false

end Number

/-! ## Numerals -/

/-- The parts of a number as it stands in a JSON text. -/
structure Numeral where
  /-- Whether it starts with a minus. -/
  negative : Bool
  /-- The digits before the point. -/
  whole : List Char
  /-- The digits after the point, if there is one. -/
  fraction : Option (List Char)
  /-- The exponent, if there is one: whether it has a minus, and its digits. -/
  exponent : Option (Bool × List Char)

namespace Numeral

/-- A coefficient that still fits 64 bits and the power of ten that goes with it. -/
structure Scaled where
  /-- The digits that were kept. -/
  coefficient : Nat
  /-- The power of ten. -/
  exponent : Int

/-- The greatest coefficient. -/
def coefficientLimit : Nat :=
  18446744073709551615

/-- Keeps the digits before the point while they fit 64 bits; each one after that counts as a
power of ten. -/
def keepWhole (s : Scaled) : List Char → Scaled
  | [] => s
  | c :: rest =>
    let next := 10 * s.coefficient + digitValue c
    if next ≤ coefficientLimit then keepWhole ⟨next, s.exponent⟩ rest
    else ⟨s.coefficient, s.exponent + (rest.length + 1 : Nat)⟩

/-- Keeps the digits after the point while they fit 64 bits and drops those after that. -/
def keepFraction (s : Scaled) : List Char → Scaled
  | [] => s
  | c :: rest =>
    let next := 10 * s.coefficient + digitValue c
    if next ≤ coefficientLimit then keepFraction ⟨next, s.exponent - 1⟩ rest else s

/-- A power of ten, rounded to a double. -/
def powerOfTen (n : Nat) : Binary64 :=
  .ofRatio false (tenPow n) 1

/-- The double if it is finite. -/
def finite? : Binary64 → Option Double
  | .finite x => some x
  | _ => none

/-- The product of a double and a power of ten that is a finite double itself. -/
def scaleUp (x : Double) (places : Nat) : Option Double :=
  (finite? (powerOfTen places)).bind fun power => finite? (Binary64.mul x power)

/-- The quotient of a double by a power of ten that is a finite double itself. -/
def scaleDown (x : Double) (places : Nat) : Option Double :=
  (finite? (powerOfTen places)).bind fun power => finite? (Binary64.div x power)

/-- The greatest power of ten that is a finite double. -/
def maxPower : Nat :=
  308

/-- The double of a coefficient and a power of ten: the coefficient is rounded, and so is its
product with the power or its quotient by it.  A power that is no finite double is divided by in
two steps, which leave zero if even the second one is too large.  A number out of range has
none. -/
def scaledDouble? (s : Scaled) : Option Double :=
  (finite? (.ofRatio false s.coefficient 1)).bind fun x =>
    let places := s.exponent.natAbs
    if 0 ≤ s.exponent then
      if places ≤ maxPower then scaleUp x places
      else if s.coefficient = 0 then some x
      else none
    else if places ≤ maxPower then scaleDown x places
    else (scaleDown x maxPower).bind fun y => scaleDown y (min (places - maxPower) maxPower)

/-- The exponent that a numeral writes, without the digits of its fraction. -/
def writtenExponent (numeral : Numeral) : Int :=
  match numeral.exponent with
  | none => 0
  | some (negative, digits) =>
    if negative then -(digitsValue digits : Int) else digitsValue digits

/-- The double of a numeral, if it is in range. -/
def toDouble? (numeral : Numeral) : Option Double :=
  let kept := keepFraction (keepWhole ⟨0, 0⟩ numeral.whole) (numeral.fraction.getD [])
  let scaled := ⟨kept.coefficient, kept.exponent + numeral.writtenExponent⟩
  (scaledDouble? scaled).map fun x => if numeral.negative then x.neg else x

/-- The number of a numeral: an integer if it has neither point nor exponent, fits 64 bits and is
no negative zero; else a double.  A number out of range has none. -/
def toNumber? (numeral : Numeral) : Option Number :=
  let n : Int := digitsValue numeral.whole
  let signed := if numeral.negative then -n else n
  let isWhole := numeral.fraction.isNone && numeral.exponent.isNone
  match Integer.ofInt? signed with
  | some m =>
    if isWhole && !(numeral.negative && n == 0) then some (.integer m)
    else numeral.toDouble?.map .double
  | none => numeral.toDouble?.map .double

end Numeral

end Intake.Json
