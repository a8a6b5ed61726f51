import Intake.Number.Binary64

/-!
# Decimal numbers as text

Reading an integer or a double from the digits of a text.

Main results:

- Theorem {lit}`digitsValue_eq` says that {lit}`digitsValue` takes a run of digits one by one.
- {lit}`Decimal` is a coefficient and a power of ten; {lit}`Decimal.toBinary64` rounds it once.
- Definition {lit}`readInt?` reads an optional sign and digits, and refuses what 64 bits cannot
  hold.
- Definition {lit}`Binary64.read?` reads a decimal number, an infinity or the word for no number.
-/

namespace Intake

/-! ## Digits -/

/-- The value of one decimal digit. -/
def digitValue (c : Char) : Nat :=
  c.toNat - '0'.toNat

/-- The number that a run of decimal digits spells, taken digit by digit. -/
def foldDigits (cs : List Char) : Nat :=
  cs.foldl (fun n c => 10 * n + digitValue c) 0

/-- The number that a run of decimal digits spells, with the run cut in two {lit}`depth` times, so
that a long run takes few products of large numbers. -/
def foldHalves : Nat → List Char → Nat
  | 0, cs => foldDigits cs
  | depth + 1, cs =>
    let half := cs.length / 2
    foldHalves depth (cs.take half) * tenPow (cs.length - half) + foldHalves depth (cs.drop half)

/-- The number that a run of decimal digits spells. -/
def digitsValue (cs : List Char) : Nat :=
  foldHalves (cs.length / 64).log2 cs

/-- Digits that go on after a number move it up by their count. -/
theorem foldl_digits (cs : List Char) (n : Nat) :
    cs.foldl (fun n c => 10 * n + digitValue c) n = n * tenPow cs.length + foldDigits cs := by
  induction cs generalizing n with
  | nil => simp [foldDigits, tenPow]
  | cons c rest ih =>
    have h : 10 * n * tenPow rest.length = n * (tenPow rest.length * 10) := by
      rw [Nat.mul_comm 10 n, Nat.mul_assoc, Nat.mul_comm 10]
    rw [foldDigits, List.foldl_cons, List.foldl_cons, ih, ih (10 * 0 + digitValue c),
      List.length_cons, tenPow_succ, Nat.mul_zero, Nat.zero_add, Nat.add_mul, h, Nat.add_assoc]

/-- The number of two runs, one after the other. -/
theorem foldDigits_append (cs ds : List Char) :
    foldDigits (cs ++ ds) = foldDigits cs * tenPow ds.length + foldDigits ds := by
  rw [foldDigits, List.foldl_append]
  exact foldl_digits ds _

/-- Cutting a run in two leaves its number. -/
theorem foldHalves_eq (depth : Nat) (cs : List Char) : foldHalves depth cs = foldDigits cs := by
  induction depth generalizing cs with
  | zero => rfl
  | succ depth ih =>
    have h := foldDigits_append (cs.take (cs.length / 2)) (cs.drop (cs.length / 2))
    rw [List.take_append_drop, List.length_drop] at h
    simp only [foldHalves, ih, h]

/-- The number of a run is the one taken digit by digit. -/
theorem digitsValue_eq (cs : List Char) : digitsValue cs = foldDigits cs :=
  foldHalves_eq _ cs

/-- Splits an optional sign off; the first part says whether it is a minus. -/
def splitSign : List Char → Bool × List Char
  | '-' :: rest => (true, rest)
  | '+' :: rest => (false, rest)
  | rest => (false, rest)

/-! ## Integers -/

/-- The least integer of 64 bits with a sign. -/
def minInt64 : Int :=
  -9223372036854775808

/-- The greatest integer of 64 bits with a sign. -/
def maxInt64 : Int :=
  9223372036854775807

/-- Reads an optional sign and one or more digits as an integer of 64 bits. -/
def readInt? (s : String) : Option Int :=
  let (negative, digits) := splitSign s.toList
  if digits.isEmpty || !digits.all Char.isDigit then none
  else
    let n := if negative then -(digitsValue digits : Int) else digitsValue digits
    if minInt64 ≤ n ∧ n ≤ maxInt64 then some n else none

/-! ## Decimals -/

/-- The number {lit}`coefficient * 10 ^ exponent`. -/
structure Decimal where
  /-- The digits as one number. -/
  coefficient : Nat
  /-- The power of ten that the digits are multiplied by. -/
  exponent : Int
  deriving DecidableEq

namespace Decimal

/-- The nearest double.  A power of ten above 400 is out of range for every coefficient other
than zero, and one far enough below the size of the coefficient gives zero. -/
def toBinary64 (negative : Bool) (d : Decimal) : Binary64 :=
  if d.coefficient = 0 then .finite (.zero negative)
  else if 400 < d.exponent then .infinite negative
  else if d.exponent < -(400 + d.coefficient.log2 : Int) then .finite (.zero negative)
  else if 0 ≤ d.exponent then
    .ofRatio negative (d.coefficient * tenPow d.exponent.toNat) 1
  else .ofRatio negative d.coefficient (tenPow (-d.exponent).toNat)

/-- Reads what follows the mark of an exponent: an optional sign and one or more digits. -/
def readExponent? (cs : List Char) : Option Int :=
  let (negative, digits) := splitSign cs
  if digits.isEmpty || !digits.all Char.isDigit then none
  else some (if negative then -(digitsValue digits : Int) else digitsValue digits)

/-- Reads digits with an optional point, at least one digit on either side of it, and an
optional exponent. -/
def read? (cs : List Char) : Option Decimal :=
  let whole := cs.takeWhile Char.isDigit
  let (fraction, rest) :=
    match cs.dropWhile Char.isDigit with
    | '.' :: rest => (rest.takeWhile Char.isDigit, rest.dropWhile Char.isDigit)
    | rest => ([], rest)
  if whole.isEmpty && fraction.isEmpty then none
  else
    let coefficient := digitsValue (whole ++ fraction)
    let places : Int := fraction.length
    match rest with
    | [] => some ⟨coefficient, -places⟩
    | mark :: rest =>
      if mark = 'e' ∨ mark = 'E' then
        (readExponent? rest).map fun exponent => ⟨coefficient, exponent - places⟩
      else none

end Decimal

/-! ## Doubles -/

/-- Reads a decimal number with an optional sign; in any letter case also an infinity, short or
in full, and the word for no number. -/
def Binary64.read? (s : String) : Option Binary64 :=
  let (negative, magnitude) := splitSign s.toList
  let word := String.ofList (magnitude.map Char.toLower)
  if word = "inf" ∨ word = "infinity" then some (.infinite negative)
  else if word = "nan" then some .nan
  else (Decimal.read? magnitude).map (Decimal.toBinary64 negative)

end Intake
