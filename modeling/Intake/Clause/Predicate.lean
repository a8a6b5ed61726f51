import Intake.Text.Casing
import Intake.Clause.Error
import Intake.Clause.Form

/-!
# Predicates

The comparisons that a filter may ask for, and sets of them.

Main results:

- {lit}`Predicate` lists the comparisons; {lit}`Predicate.parse?` knows a symbol and a word for
  each, in any letter case.
- {lit}`PredicateSet` is a set of predicates, and theorems {lit}`PredicateSet.contains_union` and
  {lit}`PredicateSet.contains_insert` say what is in it.
-/

namespace Intake

/-! ## Predicates -/

/-- A comparison. -/
inductive Predicate where
  /-- Equal to the value. -/
  | equal
  /-- Not equal to the value. -/
  | notEqual
  /-- Greater than the value. -/
  | greater
  /-- Greater than or equal to the value. -/
  | greaterOrEqual
  /-- Less than the value. -/
  | less
  /-- Less than or equal to the value. -/
  | lessOrEqual
  /-- Among the values. -/
  | isIn
  /-- Not among the values. -/
  | notIn
  deriving DecidableEq

namespace Predicate

/-- All predicates in order. -/
def all : List Predicate :=
  [equal, notEqual, greater, greaterOrEqual, less, lessOrEqual, isIn, notIn]

/-- The name of a predicate. -/
def name : Predicate → String
  | equal => "Equal"
  | notEqual => "NotEqual"
  | greater => "Greater"
  | greaterOrEqual => "GreaterOrEqual"
  | less => "Less"
  | lessOrEqual => "LessOrEqual"
  | isIn => "In"
  | notIn => "NotIn"

/-- The symbol of a predicate; the last two have their word. -/
def symbol : Predicate → String
  | equal => "="
  | notEqual => "!="
  | greater => ">"
  | greaterOrEqual => ">="
  | less => "<"
  | lessOrEqual => "<="
  | isIn => "in"
  | notIn => "not_in"

/-- The word for a predicate. -/
def mnemonic : Predicate → String
  | equal => "eq"
  | notEqual => "ne"
  | greater => "gt"
  | greaterOrEqual => "ge"
  | less => "lt"
  | lessOrEqual => "le"
  | isIn => "in"
  | notIn => "not_in"

/-- The predicate that a text names by its symbol or word, in any letter case. -/
def parse? (token : String) : Option Predicate :=
  let token := Text.asciiLower token
  all.find? fun p => p.symbol == token || p.mnemonic == token

/-- Reads a predicate from a text, for no particular field. -/
def parse (token : String) : Except ClauseError Predicate :=
  match parse? token with
  | some p => .ok p
  | none => .error (.invalidPredicate "" token)

/-- Reads a predicate from a value. -/
def ofJson (value : Json) : Except FormError Predicate := do
  let token ← value.readText
  match parse? token with
  | some p => .ok p
  | none => .error (.unknownPredicate token)

/-- The predicate as a value. -/
def toJson (p : Predicate) : Json :=
  .string p.mnemonic

/-- The place of a predicate in the order. -/
def index : Predicate → Nat
  | equal => 0
  | notEqual => 1
  | greater => 2
  | greaterOrEqual => 3
  | less => 4
  | lessOrEqual => 5
  | isIn => 6
  | notIn => 7

/-- The place of a predicate tells it from all others. -/
theorem index_inj {p q : Predicate} (h : p.index = q.index) : p = q := by
  cases p <;> cases q <;> first | rfl | cases h

/-- There are eight predicates. -/
theorem index_lt (p : Predicate) : p.index < 8 := by
  cases p <;> decide

end Predicate

/-! ## Sets -/

/-- A set of predicates, with one bit for each. -/
structure PredicateSet where
  /-- The bits. -/
  bits : BitVec 8
  deriving DecidableEq

namespace PredicateSet

/-- The set without predicates. -/
def empty : PredicateSet :=
  ⟨0⟩

/-- The set of all predicates. -/
def full : PredicateSet :=
  ⟨BitVec.allOnes 8⟩

/-- The set with one more predicate. -/
def insert (s : PredicateSet) (p : Predicate) : PredicateSet :=
  ⟨s.bits ||| BitVec.twoPow 8 p.index⟩

/-- What is in one of two sets. -/
def union (s t : PredicateSet) : PredicateSet :=
  ⟨s.bits ||| t.bits⟩

/-- Whether a predicate is in the set. -/
def contains (s : PredicateSet) (p : Predicate) : Bool :=
  s.bits.getLsbD p.index

/-- Whether no predicate is in the set. -/
def isEmpty (s : PredicateSet) : Bool :=
  s.bits == 0

/-- The set of the predicates in a list. -/
def ofList (ps : List Predicate) : PredicateSet :=
  ps.foldl insert empty

/-- The predicates in the set, in order. -/
def toList (s : PredicateSet) : List Predicate :=
  Predicate.all.filter s.contains

/-- The names of the predicates in the set, between braces. -/
def text (s : PredicateSet) : String :=
  "\x7b" ++ ", ".intercalate (s.toList.map Predicate.name) ++ "\x7d"

/-- A predicate is in a union if it is in one of the sets. -/
theorem contains_union (s t : PredicateSet) (p : Predicate) :
    (s.union t).contains p = (s.contains p || t.contains p) := by
  simp [union, contains]

/-- After an insertion the predicate is in the set, and so is what was in it. -/
theorem contains_insert (s : PredicateSet) (p q : Predicate) :
    (s.insert p).contains q = (s.contains q || decide (p = q)) := by
  simp only [insert, contains, BitVec.getLsbD_or, BitVec.getLsbD_twoPow]
  by_cases h : p = q
  · subst h
    simp [p.index_lt]
  · have hne : p.index ≠ q.index := fun heq => h (Predicate.index_inj heq)
    simp [h, hne]

/-- No predicate is in the empty set. -/
theorem contains_empty (p : Predicate) : empty.contains p = false := by
  simp [empty, contains]

/-- Every predicate is in the full set. -/
theorem contains_full (p : Predicate) : full.contains p = true := by
  cases p <;> decide

/-- The set of equality alone. -/
def onlyEqual : PredicateSet :=
  ofList [.equal]

/-- Equality and its opposite. -/
def equalAndNotEqual : PredicateSet :=
  ofList [.equal, .notEqual]

/-- Greater, with and without equality. -/
def onlyGreater : PredicateSet :=
  ofList [.greater, .greaterOrEqual]

/-- Less, with and without equality. -/
def onlyLess : PredicateSet :=
  ofList [.less, .lessOrEqual]

/-- Membership and its opposite. -/
def onlyInAndNotIn : PredicateSet :=
  ofList [.isIn, .notIn]

end PredicateSet

end Intake
