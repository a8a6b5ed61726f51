/-!
# Cutting lists at separators

A list is cut at every separator, or at the first one.

Main results:

- Definition {lit}`splitAll` gives the pieces between separators, and theorem
  {lit}`splitAll_append` cuts a longer list at a separator within it.
- Definition {lit}`splitFirst?` gives the parts before and after the first separator, and theorem
  {lit}`splitFirst?_append` finds them in a list that is put together from them.
-/

namespace Intake.Text

variable {α : Type} [DecidableEq α]

/-- The pieces between the separators; {lit}`piece` holds the one that has begun, in reverse
order. -/
def splitFrom (separator : α) (piece : List α) : List α → List (List α)
  | [] => [piece.reverse]
  | x :: rest =>
    if x = separator then piece.reverse :: splitFrom separator [] rest
    else splitFrom separator (x :: piece) rest

/-- The pieces between the separators, one more than there are separators. -/
def splitAll (separator : α) (xs : List α) : List (List α) :=
  splitFrom separator [] xs

/-- The parts before and after the first separator, if there is one. -/
def splitFirst? (separator : α) : List α → Option (List α × List α)
  | [] => none
  | x :: rest =>
    if x = separator then some ([], rest)
    else (splitFirst? separator rest).map fun parts => (x :: parts.1, parts.2)

/-- A piece that has begun goes on in front of the first piece. -/
theorem splitFrom_append (separator : α) (piece xs ys : List α) :
    splitFrom separator piece (xs ++ separator :: ys)
      = splitFrom separator piece xs ++ splitAll separator ys := by
  induction xs generalizing piece with
  | nil => simp [splitFrom, splitAll]
  | cons x rest ih =>
    simp only [List.cons_append, splitFrom]
    split
    · rw [ih, List.cons_append]
    · exact ih _

/-- A separator between two lists parts their pieces. -/
theorem splitAll_append (separator : α) (xs ys : List α) :
    splitAll separator (xs ++ separator :: ys)
      = splitAll separator xs ++ splitAll separator ys :=
  splitFrom_append separator [] xs ys

/-- Two parts that are joined by the separator are found again if the first one has none. -/
theorem splitFirst?_append {separator : α} {before : List α} (h : separator ∉ before)
    (after : List α) :
    splitFirst? separator (before ++ separator :: after) = some (before, after) := by
  induction before with
  | nil => simp [splitFirst?]
  | cons x rest ih =>
    rw [List.mem_cons, not_or] at h
    simp [splitFirst?, Ne.symm h.1, ih h.2]

/-- Without a separator there are no two parts. -/
theorem splitFirst?_eq_none {separator : α} {xs : List α} :
    splitFirst? separator xs = none ↔ separator ∉ xs := by
  induction xs with
  | nil => simp [splitFirst?]
  | cons x rest ih =>
    by_cases h : x = separator
    · simp [splitFirst?, h]
    · simp [splitFirst?, h, ih, Ne.symm h]

end Intake.Text
