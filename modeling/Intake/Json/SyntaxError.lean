import Intake.Text.Utf8

/-!
# Faults of a JSON text

What is wrong with a JSON text, and where.  A place is a line and a column, which counts the bytes
since the start of the line.

Main results:

- {lit}`Json.SyntaxCause` lists the causes, {lit}`Json.SyntaxError` adds the place.
- {lit}`Json.Fault` is a fault as it is found, with the text that is left; definition
  {lit}`Json.Fault.toError` finds its place.
-/

namespace Intake.Json

/-! ## Causes -/

/-- What is wrong with a JSON text. -/
inductive SyntaxCause where
  /-- The text ends inside an array. -/
  | endInArray
  /-- The text ends inside an object. -/
  | endInObject
  /-- The text ends inside a string. -/
  | endInString
  /-- The text ends where a value or a key has to stand, or inside a value. -/
  | endInValue
  /-- A key has no colon after it. -/
  | noColon
  /-- An item of an array is followed by neither a comma nor the end of the array. -/
  | noArraySeparator
  /-- An entry of an object is followed by neither a comma nor the end of the object. -/
  | noObjectSeparator
  /-- No value stands where one has to. -/
  | noValue
  /-- No string stands where a key has to. -/
  | noKey
  /-- A comma is followed by the end of the array or object. -/
  | trailingComma
  /-- The value is followed by further text. -/
  | trailingText
  /-- A word is none of the three that are values. -/
  | badWord
  /-- A number is written in another way than JSON allows. -/
  | badNumber
  /-- A number is out of range. -/
  | numberOutOfRange
  /-- A control character stands in a string as it is. -/
  | controlCharacter
  /-- A backslash starts no escape. -/
  | badEscape
  /-- A surrogate is no pair with the escape before or after it. -/
  | loneSurrogate
  /-- The first surrogate of a pair is not followed by an escape. -/
  | endOfSurrogate
  /-- Arrays and objects are nested too deep. -/
  | tooDeep
  /-- The bytes are no text. -/
  | badEncoding
  /-- A value of the kind {lit}`found` stands where an embedded text has to. -/
  | embeddedKind (found : String)
  /-- An embedded text is one of several entries. -/
  | embeddedBeside (entries : Nat)
  deriving DecidableEq

/-- The wording of a cause. -/
def SyntaxCause.message : SyntaxCause → String
  | endInArray => "EOF while parsing a list"
  | endInObject => "EOF while parsing an object"
  | endInString => "EOF while parsing a string"
  | endInValue => "EOF while parsing a value"
  | noColon => "expected `:`"
  | noArraySeparator => "expected `,` or `]`"
  | noObjectSeparator => "expected `,` or `\x7d`"
  | noValue => "expected value"
  | noKey => "key must be a string"
  | trailingComma => "trailing comma"
  | trailingText => "trailing characters"
  | badWord => "expected ident"
  | badNumber => "invalid number"
  | numberOutOfRange => "number out of range"
  | controlCharacter => "control character (\\u0000-\\u001F) found while parsing a string"
  | badEscape => "invalid escape"
  | loneSurrogate => "lone leading surrogate in hex escape"
  | endOfSurrogate => "unexpected end of hex escape"
  | tooDeep => "recursion limit exceeded"
  | badEncoding => "invalid unicode code point"
  | embeddedKind found => "invalid type: " ++ found ++ ", expected raw value"
  | embeddedBeside entries => s!"invalid length {entries}, expected fewer elements in map"

/-! ## Places -/

/-- A place in a text. -/
structure Place where
  /-- The line, from one on. -/
  line : Nat
  /-- The bytes of the line that come before the place. -/
  column : Nat
  deriving DecidableEq

/-- The place after one more byte. -/
def Place.next (place : Place) (byte : UInt8) : Place :=
  if byte = 0x0A then ⟨place.line + 1, 0⟩ else ⟨place.line, place.column + 1⟩

/-- The place after bytes. -/
def Place.after (bytes : List UInt8) : Place :=
  bytes.foldl Place.next ⟨1, 0⟩

/-! ## Errors -/

/-- What is wrong with a JSON text, and where, if it is a fault of its characters. -/
structure SyntaxError where
  /-- What is wrong. -/
  cause : SyntaxCause
  /-- Where. -/
  place? : Option Place := none
  deriving DecidableEq

/-- The wording of an error. -/
def SyntaxError.message (e : SyntaxError) : String :=
  match e.place? with
  | some place => s!"{e.cause.message} at line {place.line} column {place.column}"
  | none => e.cause.message

/-- A fault as it is found. -/
structure Fault where
  /-- What is wrong. -/
  cause : SyntaxCause
  /-- The characters that are left. -/
  rest : List Char
  /-- The number of bytes among them that come before the place of the fault. -/
  further : Nat := 0

/-- The error of a fault of a text. -/
def Fault.toError (fault : Fault) (text : String) : SyntaxError :=
  let bytes := Text.encode text
  let before := bytes.length - (String.ofList fault.rest).utf8ByteSize + fault.further
  ⟨fault.cause, some (Place.after (bytes.take before))⟩

end Intake.Json
