import Intake.Proofs.Spelling
import Intake.Rule

/-!
# Rules about numbers

Three rules compare the number that a value measures with bounds.  They are stated from the other
side: what a value measures is laid down by how numbers round and how texts spell them, and a rule
accepts exactly the values whose number compares as it should.  What is no number compares with
nothing; it is refused by the two rules that ask for a comparison to hold, and accepted by the one
that asks for comparisons not to hold.

Main results:

- {lit}`Json.Measures` says which number a value measures.
- Theorem {lit}`Rule.numberOf?_eq_some_iff`: the rules find the number that a value measures.
- Theorem {lit}`Binary64.lt_eq_false_iff`: among numbers, one that is not less is at least as great.
- Theorem {lit}`Rule.numeric_rules_exact`: which values the three rules accept.
-/

namespace Intake

/-! ## What a value measures -/

/-- The number that a value measures: that of an integer, rounded, that of a double, or the one
that a text spells between its white space. -/
inductive Json.Measures : Json → Binary64 → Prop where
  /-- An integer is rounded. -/
  | integer (n : Json.Integer) (x : Binary64)
      (h : Binary64.Rounds (decide (n.val < 0)) n.val.natAbs x) :
      Json.Measures (.number (.integer n)) x
  /-- A double measures itself. -/
  | double (x : Double) : Json.Measures (.number (.double x)) (.finite x)
  /-- A text measures what it spells. -/
  | text (s : String) (cs : List Char) (x : Binary64) (hpadded : Text.Padded s cs)
      (h : SpellsDouble cs x) : Json.Measures (.string s) x

namespace Rule

/-- The rules find the number that a value measures, and no number in any other value. -/
theorem numberOf?_eq_some_iff {value : Json} {x : Binary64} :
    numberOf? value = some x ↔ value.Measures x := by
  constructor
  · intro h
    cases value with
    | number n =>
        rw [numberOf?, Option.some.injEq] at h
        cases n with
        | integer n => exact .integer n x (Binary64.rounds_natAbs_iff.mpr h.symm)
        | double y =>
            rw [← h]
            exact .double y
    | string s =>
        rw [numberOf?, Binary64.read?_trim_eq_some_iff] at h
        obtain ⟨cs, hpadded, hspelled⟩ := h
        exact .text s cs x hpadded hspelled
    | null | bool _ | array _ | object _ => cases h
  · intro h
    cases h with
    | integer n x h =>
        rw [numberOf?, Json.Number.toBinary64, Binary64.rounds_natAbs_iff.mp h]
    | double x => rfl
    | text s cs x hpadded h =>
        rw [numberOf?, Binary64.read?_trim_eq_some_iff]
        exact ⟨cs, hpadded, h⟩

/-- A value measures one number. -/
theorem measures_unique {value : Json} {x y : Binary64} (hx : value.Measures x)
    (hy : value.Measures y) : x = y := by
  rw [← numberOf?_eq_some_iff] at hx hy
  exact Option.some.inj (hx.symm.trans hy)

end Rule

/-! ## Comparison -/

namespace Binary64

theorem nan_lt (x : Binary64) : nan.lt x = false := rfl

theorem lt_nan (x : Binary64) : x.lt nan = false := by
  cases x <;> rfl

/-- Among numbers, one that is not less than another is at least as great. -/
theorem lt_eq_false_iff {x y : Binary64} (hx : x ≠ nan) (hy : y ≠ nan) :
    x.lt y = false ↔ y.le x = true := by
  cases x with
  | nan => exact absurd rfl hx
  | finite x =>
      cases y with
      | nan => exact absurd rfl hy
      | finite y =>
          simp only [lt, le, eq, decide_eq_false_iff_not, Bool.or_eq_true, decide_eq_true_eq,
            beq_iff_eq]
          omega
      | infinite negative => cases negative <;> simp [lt, le, eq]
  | infinite negative =>
      cases y with
      | nan => exact absurd rfl hy
      | finite y => cases negative <;> simp [lt, le, eq]
      | infinite negative' => cases negative <;> cases negative' <;> decide

end Binary64

namespace Rule

variable {value : Json}

/-! ## The rules -/

theorem positive_eq_ok_iff :
    positive value = .ok () ↔ ∃ x, value.Measures x ∧ Binary64.zero.lt x = true := by
  unfold positive
  simp only [← numberOf?_eq_some_iff]
  cases numberOf? value with
  | none => simp
  | some x => cases hlt : Binary64.zero.lt x <;> simp [hlt]

theorem nonNegative_eq_ok_iff :
    nonNegative value = .ok () ↔ ∃ x, value.Measures x ∧ Binary64.zero.le x = true := by
  unfold nonNegative
  simp only [← numberOf?_eq_some_iff]
  cases numberOf? value with
  | none => simp
  | some x => cases hle : Binary64.zero.le x <;> simp [hle]

theorem range_eq_ok_iff {least greatest : Binary64} :
    range least greatest value = .ok () ↔
      ∃ x, value.Measures x ∧ x.lt least = false ∧ greatest.lt x = false := by
  unfold range
  simp only [← numberOf?_eq_some_iff]
  cases numberOf? value with
  | none => simp
  | some x =>
      cases hlow : x.lt least <;> cases hhigh : greatest.lt x <;> simp [hlow, hhigh]

/-- The two comparisons of a range let what is no number pass, and all that lies between the
bounds. -/
theorem not_lt_bounds_iff {least greatest x : Binary64} (hleast : least ≠ .nan)
    (hgreatest : greatest ≠ .nan) :
    (x.lt least = false ∧ greatest.lt x = false) ↔
      (x = .nan ∨ least.le x = true ∧ x.le greatest = true) := by
  by_cases hx : x = .nan
  · rw [hx]
    exact iff_of_true ⟨Binary64.nan_lt least, Binary64.lt_nan greatest⟩ (Or.inl rfl)
  · rw [Binary64.lt_eq_false_iff hx hleast, Binary64.lt_eq_false_iff hgreatest hx]
    exact (or_iff_right hx).symm

/-- A range accepts exactly the values whose number lies between the bounds and those that measure
no number; the positive numbers are those above zero, and the numbers that are not negative those
at least zero, with nothing else accepted. -/
theorem numeric_rules_exact {least greatest : Binary64} (hleast : least ≠ .nan)
    (hgreatest : greatest ≠ .nan) (value : Json) :
    (range least greatest value = .ok () ↔ ∃ x, value.Measures x ∧
        (x = .nan ∨ least.le x = true ∧ x.le greatest = true)) ∧
      (positive value = .ok () ↔ ∃ x, value.Measures x ∧ Binary64.zero.lt x = true) ∧
      (nonNegative value = .ok () ↔ ∃ x, value.Measures x ∧ Binary64.zero.le x = true) := by
  refine ⟨?_, positive_eq_ok_iff, nonNegative_eq_ok_iff⟩
  rw [range_eq_ok_iff]
  exact exists_congr fun x => and_congr_right fun _ => not_lt_bounds_iff hleast hgreatest

/-- Between 0 and 120 the bounds themselves are accepted and -1 is not, but the word for no number
is, in any letter case and with white space around it, which is not accepted as a number that is
at least zero. -/
theorem numeric_rules_exact_zero_to_120 :
    Binary64.zero ≠ .nan ∧ Binary64.ofInt 120 ≠ .nan ∧
      range .zero (.ofInt 120) (.number (.integer ⟨120, by decide, by decide⟩)) = .ok () ∧
      range .zero (.ofInt 120) (.number (.integer ⟨-1, by decide, by decide⟩)) ≠ .ok () ∧
      range .zero (.ofInt 120) (.string " NaN\n") = .ok () ∧
      nonNegative (.string " NaN\n") ≠ .ok () := by
  have hzero : Binary64.zero ≠ .nan := by decide +kernel
  have hbound : Binary64.ofInt 120 ≠ .nan := by decide +kernel
  have hexact := numeric_rules_exact hzero hbound
  have hmeasures : ∀ n : Json.Integer,
      (Json.number (.integer n)).Measures (Binary64.ofInt n.val) := by
    intro n
    exact .integer n _ (Binary64.rounds_natAbs_iff.mpr rfl)
  have hnan : (Json.string " NaN\n").Measures .nan := by
    refine .text _ ['N', 'a', 'N'] _ ⟨[' '], ['\n'], by decide, by decide, by decide⟩ ?_
    refine .nan .absent ?_
    rw [Text.sameButCase_word (by decide)]
    decide
  refine ⟨hzero, hbound, ?_, ?_, (hexact _).1.mpr ⟨.nan, hnan, Or.inl rfl⟩, ?_⟩
  · exact (hexact _).1.mpr ⟨_, hmeasures _, Or.inr (by decide +kernel)⟩
  · intro hok
    obtain ⟨x, hx, hrange⟩ := (hexact _).1.mp hok
    rw [measures_unique hx (hmeasures _)] at hrange
    revert hrange
    decide +kernel
  · intro hok
    obtain ⟨x, hx, hrange⟩ := (hexact _).2.2.mp hok
    rw [measures_unique hx hnan] at hrange
    exact absurd hrange (by decide)

end Rule

end Intake
