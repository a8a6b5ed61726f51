import Intake.Json.Value
import Intake.Text.Blank
import Intake.Text.Split
import Intake.Uuid

/-!
# Rules

A rule accepts a value or gives a reason why not.  The ready-made rules look for null, for blank
texts, for the form of a text, and for the size of a text, an array or a number.

Main results:

- {lit}`Rule` is the type of rules, {lit}`Reason` that of reasons with their wording.
- Definition {lit}`Rule.standard` lists the rules that every default configuration has.
- Definitions {lit}`Rule.length`, {lit}`Rule.range` and {lit}`Rule.oneOf` make rules from bounds
  and from a list of texts.
-/

namespace Intake

/-! ## Reasons -/

/-- Why a rule refuses a value. -/
inductive Reason where
  /-- It is null. -/
  | null
  /-- It is a blank text. -/
  | blank
  /-- It is no text. -/
  | notText
  /-- It is no address of electronic mail. -/
  | notEmail
  /-- It is a text of more bytes than allowed. -/
  | tooManyCharacters (limit : Nat)
  /-- It is no identifier. -/
  | notUuid
  /-- It is no number. -/
  | notNumber
  /-- It is a number that is not above zero. -/
  | notPositive
  /-- It is a number below zero. -/
  | negative
  /-- It has no length. -/
  | noLength
  /-- It is too short. -/
  | tooShort (least : Nat)
  /-- It is too long. -/
  | tooLong (greatest : Nat)
  /-- It is a number below the least one. -/
  | below (least : Binary64)
  /-- It is a number above the greatest one. -/
  | above (greatest : Binary64)
  /-- It is none of the texts. -/
  | notAmong (allowed : List String)
  /-- A reason in words, from a rule of the library's user. -/
  | other (text : String)

/-- The wording of a reason. -/
def Reason.message : Reason → String
  | null => "must not be null"
  | blank => "must not be blank"
  | notText => "must be a string"
  | notEmail => "must be a valid email"
  | tooManyCharacters limit => s!"must be at most {limit} characters"
  | notUuid => "must be a valid UUID"
  | notNumber => "must be a number"
  | notPositive => "must be positive"
  | negative => "must not be negative"
  | noLength => "must be a string or an array"
  | tooShort least => s!"must be at least {least} long"
  | tooLong greatest => s!"must be at most {greatest} long"
  | below least => "must be at least " ++ DoubleLayout.plain.writeBinary64 least
  | above greatest => "must be at most " ++ DoubleLayout.plain.writeBinary64 greatest
  | notAmong allowed => "must be one of: " ++ ", ".intercalate allowed
  | other text => text

/-- A rule accepts a value or gives a reason. -/
abbrev Rule := Json → Except Reason Unit

namespace Rule

/-! ## What a value measures -/

/-- The number that a value is or, as a text, spells. -/
def numberOf? : Json → Option Binary64
  | .number n => some n.toBinary64
  | .string s => Binary64.read? (Text.trim s)
  | _ => none

/-- The number of characters of a text or of items of an array. -/
def lengthOf? : Json → Option Nat
  | .string s => some s.length
  | .array items => some items.length
  | _ => none

/-! ## Ready-made rules -/

/-- Refuses null. -/
def notNull : Rule
  | .null => .error .null
  | _ => .ok ()

/-- Accepts texts that are not blank. -/
def notBlank : Rule
  | .string s => if (Text.trim s).isEmpty then .error .blank else .ok ()
  | _ => .error .notText

/-- The greatest number of bytes of an address. -/
def emailLimit : Nat :=
  255

/-- Whether a text looks like an address: something before the first at sign, and a point after
it. -/
def looksLikeEmail (s : String) : Bool :=
  match Text.splitFirst? '@' s.toList with
  | some (before, after) => !before.isEmpty && after.contains '.'
  | none => false

/-- Accepts texts that look like an address and are not too long. -/
def email : Rule
  | .string s =>
    if !looksLikeEmail s then .error .notEmail
    else if emailLimit < s.utf8ByteSize then .error (.tooManyCharacters emailLimit)
    else .ok ()
  | _ => .error .notText

/-- Accepts texts that spell an identifier, with white space around it or without. -/
def uuid : Rule
  | .string s => if (Uuid.read? (Text.trim s)).isSome then .ok () else .error .notUuid
  | _ => .error .notUuid

/-- Accepts numbers above zero. -/
def positive : Rule := fun value =>
  match numberOf? value with
  | some x => if Binary64.zero.lt x then .ok () else .error .notPositive
  | none => .error .notNumber

/-- Accepts numbers that are not below zero. -/
def nonNegative : Rule := fun value =>
  match numberOf? value with
  | some x => if Binary64.zero.le x then .ok () else .error .negative
  | none => .error .notNumber

/-! ## Rules with bounds -/

/-- Accepts texts and arrays with a length between two bounds. -/
def length (least greatest : Nat) : Rule := fun value =>
  match lengthOf? value with
  | some n =>
    if n < least then .error (.tooShort least)
    else if greatest < n then .error (.tooLong greatest)
    else .ok ()
  | none => .error .noLength

/-- Refuses numbers below the first bound and above the second one. -/
def range (least greatest : Binary64) : Rule := fun value =>
  match numberOf? value with
  | some x =>
    if x.lt least then .error (.below least)
    else if greatest.lt x then .error (.above greatest)
    else .ok ()
  | none => .error .notNumber

/-- Accepts the texts of a list. -/
def oneOf (allowed : List String) : Rule
  | .string s => if allowed.contains s then .ok () else .error (.notAmong allowed)
  | _ => .error (.notAmong allowed)

/-- The rules of a default configuration. -/
def standard : Dict Rule :=
  Dict.ofList
    [("not_null", notNull), ("not_blank", notBlank), ("email", email), ("uuid", uuid),
      ("positive", positive), ("non_negative", nonNegative)]

end Rule

end Intake
