/-!
# Hexadecimal digits

The value of a hexadecimal digit, numbers written with the sixteen lower case digits, and bytes
written with two digits each.

Main results:

- Definition {lit}`hexValue?` is the value of a digit in either letter case.
- Definition {lit}`hexDigits` writes a number without leading zeros, and {lit}`hexWidth` with a
  fixed number of digits.
- Definition {lit}`hexBytes?` reads pairs of digits as bytes.
-/

namespace Intake.Text

/-- The value of a hexadecimal digit. -/
def hexValue? (c : Char) : Option Nat :=
  if '0' ≤ c ∧ c ≤ '9' then some (c.toNat - '0'.toNat)
  else if 'a' ≤ c ∧ c ≤ 'f' then some (c.toNat - 'a'.toNat + 10)
  else if 'A' ≤ c ∧ c ≤ 'F' then some (c.toNat - 'A'.toNat + 10)
  else none

/-- The hexadecimal digits of a number, in lower case and without leading zeros. -/
def hexDigits (n : Nat) : List Char :=
  Nat.toDigits 16 n

/-- The last hexadecimal digits of a number, in lower case, as many as {lit}`width` says. -/
def hexWidth (n : Nat) : (width : Nat) → List Char
  | 0 => []
  | width + 1 => hexWidth (n / 16) width ++ [Nat.digitChar (n % 16)]

/-- A fixed number of digits is written. -/
theorem length_hexWidth (n width : Nat) : (hexWidth n width).length = width := by
  induction width generalizing n with
  | zero => rfl
  | succ width ih => simp [hexWidth, ih]

/-- The number that a list of hexadecimal digits spells, if all of them are digits. -/
def hexNumber? (cs : List Char) : Option Nat :=
  (cs.mapM hexValue?).map fun values => values.foldl (fun n value => 16 * n + value) 0

/-- Reads pairs of hexadecimal digits as bytes. -/
def hexBytes? : List Char → Option (List UInt8)
  | [] => some []
  | [_] => none
  | high :: low :: rest => do
    let first ← hexValue? high
    let second ← hexValue? low
    return UInt8.ofNat (16 * first + second) :: (← hexBytes? rest)

end Intake.Text
