import Intake.Text.Casing
import Intake.Text.Hex

/-!
# Universally unique identifiers

An identifier is a number of 128 bits.  It is read in four spellings and written in one.

Main results:

- {lit}`Uuid` is the type of identifiers.
- Definition {lit}`Uuid.read?` reads thirty-two digits, the hyphenated form, and the hyphenated
  form in braces or after its scheme.
- Definition {lit}`Uuid.write` is the hyphenated form in lower case.
-/

namespace Intake

open Text

/-- The number of values of 128 bits. -/
def Uuid.count : Nat :=
  0x100000000000000000000000000000000

/-- An identifier of 128 bits. -/
structure Uuid where
  /-- The bits as a number. -/
  value : Nat
  /-- There are 128 of them. -/
  value_lt : value < Uuid.count
  deriving DecidableEq

namespace Uuid

/-- The identifier whose bits are thirty-two hexadecimal digits. -/
def ofDigits? (cs : List Char) : Option Uuid :=
  if cs.length = 32 then
    (hexNumber? cs).bind fun n => if h : n < count then some ⟨n, h⟩ else none
  else none

/-- The digits of the hyphenated form: eight, three times four, and twelve, set off by hyphens. -/
def hyphenated? (cs : List Char) : Option (List Char) :=
  let first := cs.take 8
  let second := (cs.drop 9).take 4
  let third := (cs.drop 14).take 4
  let fourth := (cs.drop 19).take 4
  let fifth := cs.drop 24
  if cs.length = 36
      ∧ cs = first ++ '-' :: second ++ '-' :: third ++ '-' :: fourth ++ '-' :: fifth then
    some (first ++ second ++ third ++ fourth ++ fifth)
  else none

/-- The scheme and the namespace of a URN, which the hyphenated form may follow.  A URN tells no
letter cases apart in these two parts, and neither does the parser. -/
def scheme : List Char :=
  ['u', 'r', 'n', ':', 'u', 'u', 'i', 'd', ':']

/-- The hyphenated form without the braces around it or the scheme before it, if it has any. -/
def unwrap (cs : List Char) : List Char :=
  if cs.length = 38 ∧ cs.head? = some '\x7b' ∧ cs.getLast? = some '\x7d' then
    (cs.drop 1).dropLast
  else if cs.length = 45 ∧ (cs.take 9).map Char.toLower = scheme then cs.drop 9
  else cs

/-- Reads an identifier in any of its spellings. -/
def read? (s : String) : Option Uuid :=
  let cs := s.toList
  (ofDigits? cs).or ((hyphenated? (unwrap cs)).bind ofDigits?)

/-- The identifier in its hyphenated form, in lower case. -/
def write (id : Uuid) : String :=
  let digits := hexWidth id.value 32
  String.ofList (digits.take 8 ++ '-' :: (digits.drop 8).take 4 ++ '-' :: (digits.drop 12).take 4
    ++ '-' :: (digits.drop 16).take 4 ++ '-' :: digits.drop 20)

end Uuid

end Intake
