import Intake.Dict
import Intake.Json.Number

/-!
# JSON values

The values of JSON.  The entries of an object stand in a list: a value as it was read keeps them
in the order of the text, and a value in canonical form has them in key order without repeated
keys.

Main results:

- {lit}`Json` is the type of values.
- Definition {lit}`Json.textLength` counts the characters in the texts of a value.
- Definition {lit}`Json.same` compares two values, numbers by {lit}`Json.Number.same`.
-/

namespace Intake

/-- A JSON value. -/
inductive Json where
  /-- The null value. -/
  | null
  /-- A truth value. -/
  | bool (b : Bool)
  /-- A number. -/
  | number (n : Json.Number)
  /-- A text. -/
  | string (s : String)
  /-- An array of values. -/
  | array (items : List Json)
  /-- An object: values under keys. -/
  | object (entries : List (String × Json))

namespace Json

/-- The value is null unless something else is given. -/
instance : Inhabited Json := ⟨.null⟩

/-- Zero or one as a number. -/
def ofBit (b : Bool) : Json :=
  .number (.integer (.ofBool b))

/-- Whether the value is an object. -/
def isObject : Json → Bool
  | .object _ => true
  | _ => false

/-! ## Texts -/

mutual

/-- The number of characters in the texts of a value, keys included. -/
def textLength : Json → Nat
  | .string s => s.length
  | .array items => textLengthItems items
  | .object entries => textLengthEntries entries
  | _ => 0
termination_by structural value => value

/-- The number of characters in the texts of the items of an array. -/
def textLengthItems : List Json → Nat
  | [] => 0
  | item :: rest => textLength item + textLengthItems rest
termination_by structural items => items

/-- The number of characters in the keys and values of entries. -/
def textLengthEntries : List (String × Json) → Nat
  | [] => 0
  | (key, value) :: rest => key.length + textLength value + textLengthEntries rest
termination_by structural entries => entries

end

/-- Items that are put together have the characters of both parts. -/
theorem textLengthItems_append (xs ys : List Json) :
    textLengthItems (xs ++ ys) = textLengthItems xs + textLengthItems ys := by
  induction xs with
  | nil => simp [textLengthItems]
  | cons x xs ih => simp only [List.cons_append, textLengthItems, ih]; omega

/-- Items in reverse order have the same characters. -/
theorem textLengthItems_reverse (xs : List Json) :
    textLengthItems xs.reverse = textLengthItems xs := by
  induction xs with
  | nil => rfl
  | cons x xs ih =>
    simp only [List.reverse_cons, textLengthItems_append, textLengthItems, ih]
    omega

/-- Entries that are put together have the characters of both parts. -/
theorem textLengthEntries_append (xs ys : List (String × Json)) :
    textLengthEntries (xs ++ ys) = textLengthEntries xs + textLengthEntries ys := by
  induction xs with
  | nil => simp [textLengthEntries]
  | cons x xs ih => simp only [List.cons_append, textLengthEntries, ih]; omega

/-- Entries in reverse order have the same characters. -/
theorem textLengthEntries_reverse (xs : List (String × Json)) :
    textLengthEntries xs.reverse = textLengthEntries xs := by
  induction xs with
  | nil => rfl
  | cons x xs ih =>
    simp only [List.reverse_cons, textLengthEntries_append, textLengthEntries, ih]
    omega

/-! ## Equality -/

mutual

/-- Whether two values are equal; the two zeros of a double are. -/
def same : Json → Json → Bool
  | .null, .null => true
  | .bool a, .bool b => a == b
  | .number m, .number n => m.same n
  | .string s, .string t => s == t
  | .array xs, .array ys => sameItems xs ys
  | .object xs, .object ys => sameEntries xs ys
  | _, _ => false
termination_by structural value => value

/-- Whether two arrays have equal items. -/
def sameItems : List Json → List Json → Bool
  | [], [] => true
  | x :: xs, y :: ys => same x y && sameItems xs ys
  | _, _ => false
termination_by structural items => items

/-- Whether two objects have equal entries in the same order. -/
def sameEntries : List (String × Json) → List (String × Json) → Bool
  | [], [] => true
  | (key, x) :: xs, (key', y) :: ys => key == key' && same x y && sameEntries xs ys
  | _, _ => false
termination_by structural entries => entries

end

/-- Whether two values that may be absent are both absent or equal. -/
def sameOption : Option Json → Option Json → Bool
  | none, none => true
  | some x, some y => same x y
  | _, _ => false

end Json

end Intake
