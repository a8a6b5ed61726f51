import Intake.Clause.Order
import Intake.Clause.Predicate
import Mathlib.Data.List.Forall2

/-!
# Tokens of clients

Clients name predicates and directions by words and symbols, in any letter case of ASCII.

Main results:

- Theorem {lit}`Text.sameButCase_iff`: two texts differ by letter case alone when they have the same
  lower case.
- Theorem {lit}`Predicate.parse?_eq_some_iff`: the tokens of predicates are the variants of the
  fourteen texts in {lit}`Predicate.spellings`.
- Theorem {lit}`Direction.parse?_eq_some_iff`: those of directions are the variants of the four
  texts in {lit}`Direction.spellings`.
-/

namespace Intake

/-! ## Letter case -/

namespace Text

/-- The texts have the same characters, up to the case of the letters A to Z. -/
def SameButCase (s t : String) : Prop :=
  List.Forall₂ (fun c d => c.toLower = d.toLower) s.toList t.toList

/-- Texts are the same up to letter case when they have the same lower case. -/
theorem sameButCase_iff {s t : String} : SameButCase s t ↔ asciiLower s = asciiLower t := by
  have hchars : SameButCase s t ↔ s.toList.map Char.toLower = t.toList.map Char.toLower := by
    rw [SameButCase, ← List.forall₂_eq_eq_eq, List.forall₂_map_left_iff,
      List.forall₂_map_right_iff]
  rw [hchars, asciiLower, asciiLower]
  constructor
  · intro h
    rw [h]
  · intro h
    have hlists := congrArg String.toList h
    rwa [String.toList_ofList, String.toList_ofList] at hlists

/-- The token is a variant of a text that stands for {lit}`x`. -/
def Spells {α : Type} (spellings : List (String × α)) (token : String) (x : α) : Prop :=
  ∃ s, (s, x) ∈ spellings ∧ SameButCase token s

/-- A token is a variant of a text in lower case when that text is its lower case. -/
theorem spells_iff {α : Type} {spellings : List (String × α)}
    (hlower : ∀ entry ∈ spellings, asciiLower entry.1 = entry.1) {token : String} {x : α} :
    Spells spellings token x ↔ (asciiLower token, x) ∈ spellings := by
  constructor
  · rintro ⟨s, hmem, hcase⟩
    have hs : asciiLower token = s := by
      rw [sameButCase_iff.mp hcase]
      exact hlower (s, x) hmem
    rw [hs]
    exact hmem
  · intro hmem
    refine ⟨asciiLower token, hmem, ?_⟩
    rw [sameButCase_iff, asciiLower_asciiLower]

end Text

/-! ## Predicates -/

namespace Predicate

/-- The texts that stand for predicates. -/
def spellings : List (String × Predicate) :=
  [("=", equal), ("eq", equal), ("!=", notEqual), ("ne", notEqual),
    (">", greater), ("gt", greater), (">=", greaterOrEqual), ("ge", greaterOrEqual),
    ("<", less), ("lt", less), ("<=", lessOrEqual), ("le", lessOrEqual),
    ("in", isIn), ("not_in", notIn)]

theorem lower_spellings : ∀ entry ∈ spellings, Text.asciiLower entry.1 = entry.1 := by
  decide

/-- A predicate is spelled by its symbol and its word. -/
theorem mem_spellings {s : String} {p : Predicate} :
    (s, p) ∈ spellings ↔ p.symbol = s ∨ p.mnemonic = s := by
  constructor
  · have hall : ∀ entry ∈ spellings, entry.2.symbol = entry.1 ∨ entry.2.mnemonic = entry.1 := by
      decide
    intro hmem
    exact hall (s, p) hmem
  · have hall : ∀ q ∈ all, (q.symbol, q) ∈ spellings ∧ (q.mnemonic, q) ∈ spellings := by
      decide
    have hp := hall p (by cases p <;> decide)
    rintro (rfl | rfl)
    · exact hp.1
    · exact hp.2

/-- No text spells two predicates. -/
theorem eq_of_mem_spellings {s : String} {p q : Predicate} (hp : (s, p) ∈ spellings)
    (hq : (s, q) ∈ spellings) : p = q := by
  have hall : ∀ a ∈ spellings, ∀ b ∈ spellings, a.1 = b.1 → a.2 = b.2 := by
    decide
  exact hall (s, p) hp (s, q) hq rfl

/-- A token names a predicate when it is a variant of one of its texts. -/
theorem parse?_eq_some_iff {token : String} {p : Predicate} :
    parse? token = some p ↔ Text.Spells spellings token p := by
  rw [Text.spells_iff lower_spellings, parse?]
  have hmatch : ∀ q : Predicate,
      (q.symbol == Text.asciiLower token || q.mnemonic == Text.asciiLower token) = true ↔
        (Text.asciiLower token, q) ∈ spellings := by
    intro q
    rw [mem_spellings, Bool.or_eq_true, beq_iff_eq, beq_iff_eq]
  constructor
  · intro h
    have hfound := List.find?_some h
    exact (hmatch p).mp hfound
  · intro hmem
    have hp : p ∈ all := by cases p <;> decide
    cases hfind : all.find? fun q =>
        q.symbol == Text.asciiLower token || q.mnemonic == Text.asciiLower token with
    | none => exact absurd ((hmatch p).mpr hmem) (List.find?_eq_none.mp hfind p hp)
    | some q =>
        have hfound := List.find?_some hfind
        have hq := (hmatch q).mp hfound
        rw [eq_of_mem_spellings hmem hq]

end Predicate

/-! ## Directions -/

namespace Direction

/-- The texts that stand for directions. -/
def spellings : List (String × Direction) :=
  [("asc", ascending), ("ascending", ascending), ("desc", descending), ("descending", descending)]

theorem lower_spellings : ∀ entry ∈ spellings, Text.asciiLower entry.1 = entry.1 := by
  decide

/-- A token names a direction when it is a variant of one of its texts. -/
theorem parse?_eq_some_iff {token : String} {d : Direction} :
    parse? token = some d ↔ Text.Spells spellings token d := by
  rw [Text.spells_iff lower_spellings, parse?]
  have hmem : (Text.asciiLower token, d) ∈ spellings ↔
      ((Text.asciiLower token = "asc" ∨ Text.asciiLower token = "ascending") ∧ d = ascending) ∨
        ((Text.asciiLower token = "desc" ∨ Text.asciiLower token = "descending") ∧
          d = descending) := by
    simp only [spellings, List.mem_cons, Prod.mk.injEq, List.not_mem_nil, or_false]
    rw [or_and_right, or_and_right, or_assoc]
  rw [hmem]
  by_cases hasc : Text.asciiLower token = "asc" ∨ Text.asciiLower token = "ascending"
  · have hnot : ¬ (Text.asciiLower token = "desc" ∨ Text.asciiLower token = "descending") := by
      rcases hasc with h | h <;> rw [h] <;> decide
    simp only [hasc, hnot, if_true, true_and, false_and, or_false, Option.some.injEq]
    exact eq_comm
  · by_cases hdesc : Text.asciiLower token = "desc" ∨ Text.asciiLower token = "descending"
    · simp only [hasc, hdesc, if_false, if_true, true_and, false_and, false_or,
        Option.some.injEq]
      exact eq_comm
    · simp [hasc, hdesc]

end Direction

end Intake
