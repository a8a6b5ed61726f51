import Intake.Json.Value

/-!
# JSON texts

Writing a value as a compact JSON text.

Main results:

- Definition {lit}`Json.quote` is a text as a JSON string: only what must be escaped is.
- Definition {lit}`Json.write` is a value as a JSON text without white space.
-/

namespace Intake.Json

/-- What one character becomes inside a JSON string. -/
def quoteChar (c : Char) : List Char :=
  if c = '\x22' then ['\\', '\x22']
  else if c = '\\' then ['\\', '\\']
  else if c = '\x08' then ['\\', 'b']
  else if c = '\x0c' then ['\\', 'f']
  else if c = '\n' then ['\\', 'n']
  else if c = '\r' then ['\\', 'r']
  else if c = '\t' then ['\\', 't']
  else if c.toNat < 0x10 then ['\\', 'u', '0', '0', '0'] ++ Nat.toDigits 16 c.toNat
  else if c.toNat < 0x20 then ['\\', 'u', '0', '0'] ++ Nat.toDigits 16 c.toNat
  else [c]

/-- The text as a JSON string, with its quotes. -/
def quoteChars (cs : List Char) : List Char :=
  '\x22' :: cs.flatMap quoteChar ++ ['\x22']

/-- The text as a JSON string, with its quotes. -/
def quote (s : String) : String :=
  String.ofList (quoteChars s.toList)

mutual

/-- The value as a JSON text without white space. -/
def write : Json → String
  | .null => "null"
  | .bool true => "true"
  | .bool false => "false"
  | .number n => n.write
  | .string s => quote s
  | .array items => "[" ++ ",".intercalate (writeItems items) ++ "]"
  | .object entries => "\x7b" ++ ",".intercalate (writeEntries entries) ++ "\x7d"
termination_by structural value => value

/-- The texts of the items of an array. -/
def writeItems : List Json → List String
  | [] => []
  | item :: rest => write item :: writeItems rest
termination_by structural items => items

/-- The texts of the entries of an object. -/
def writeEntries : List (String × Json) → List String
  | [] => []
  | (key, value) :: rest => (quote key ++ ":" ++ write value) :: writeEntries rest
termination_by structural entries => entries

end

end Intake.Json
