/-!
# Powers of two and of ten

Powers of the two bases of numbers: two, in which doubles are kept, and ten, in which they are
written.

Main results:

- Definitions {lit}`twoPow` and {lit}`tenPow` are the powers of two and of ten.
- Theorem {lit}`twoPow_add` turns a sum of exponents into a product, and theorem
  {lit}`log2_lt_iff` compares a logarithm with an exponent.
-/

namespace Intake

/-- Two to a power. -/
def twoPow (n : Nat) : Nat :=
  Nat.pow 2 n

/-- Ten to a power. -/
def tenPow (n : Nat) : Nat :=
  Nat.pow 10 n

/-- A power of two is positive. -/
theorem twoPow_pos (n : Nat) : 0 < twoPow n :=
  Nat.pow_pos (by decide)

/-- A sum of exponents is a product of powers. -/
theorem twoPow_add (m n : Nat) : twoPow (m + n) = twoPow m * twoPow n :=
  Nat.pow_add 2 m n

/-- A greater exponent gives a greater power. -/
theorem twoPow_le {m n : Nat} (h : m ≤ n) : twoPow m ≤ twoPow n :=
  Nat.pow_le_pow_right (by decide) h

/-- The next power of ten. -/
theorem tenPow_succ (n : Nat) : tenPow (n + 1) = tenPow n * 10 :=
  Nat.pow_succ 10 n

/-- A power of ten is positive. -/
theorem tenPow_pos (n : Nat) : 0 < tenPow n :=
  Nat.pow_pos (by decide)

/-- A sum of exponents is a product of powers. -/
theorem tenPow_add (m n : Nat) : tenPow (m + n) = tenPow m * tenPow n :=
  Nat.pow_add 10 m n

/-- A greater exponent gives a greater power. -/
theorem tenPow_le {m n : Nat} (h : m ≤ n) : tenPow m ≤ tenPow n :=
  Nat.pow_le_pow_right (by decide) h

/-- A power of ten is no less than that of two. -/
theorem twoPow_le_tenPow (n : Nat) : twoPow n ≤ tenPow n :=
  Nat.pow_le_pow_left (by decide) n

/-- A power of two divides those with a greater exponent. -/
theorem twoPow_dvd {m n : Nat} (h : m ≤ n) : twoPow m ∣ twoPow n :=
  Nat.pow_dvd_pow 2 h

/-- The logarithm of a number is below an exponent if the number is below the power. -/
theorem log2_lt_iff {n k : Nat} (h : n ≠ 0) : n.log2 < k ↔ n < twoPow k :=
  Nat.log2_lt h

/-- A number is below the power that follows its logarithm. -/
theorem lt_twoPow_log2 (n : Nat) : n < twoPow (n.log2 + 1) :=
  Nat.lt_log2_self

/-- The logarithm of a power is its exponent. -/
theorem log2_twoPow (n : Nat) : (twoPow n).log2 = n :=
  Nat.log2_two_pow

end Intake
