/-!
# Bytes as characters

Decoding UTF-8 byte by byte.  A character that has begun owes bytes, and the next one of them
must lie between two bounds; a byte outside them ends the piece and starts anew.

Main results:

- Definition {lit}`pieces` cuts bytes into characters and malformed pieces.
- Definition {lit}`decode?` accepts bytes without a malformed piece, and {lit}`decodeLossy` puts
  the replacement character in the place of each one.
-/

namespace Intake.Text

/-- A character that has begun. -/
structure Pending where
  /-- The bits so far. -/
  value : Nat
  /-- How many bytes are owed, less one. -/
  more : Nat
  /-- The least byte that may come next. -/
  low : UInt8
  /-- The greatest byte that may come next. -/
  high : UInt8

/-- What a byte is at the start of a character. -/
inductive Lead where
  /-- It is a character. -/
  | whole (c : Char)
  /-- It starts a longer one. -/
  | opening (pending : Pending)
  /-- It can start none. -/
  | malformed

/-- Reads a byte at the start of a character.  The bounds on the second byte leave out overlong
forms, surrogates and what is beyond the last code point. -/
def Lead.ofByte (b : UInt8) : Lead :=
  let n := b.toNat
  if b < 0x80 then .whole (Char.ofNat n)
  else if b < 0xC2 then .malformed
  else if b < 0xE0 then .opening ⟨n - 0xC0, 0, 0x80, 0xBF⟩
  else if b < 0xF0 then
    .opening ⟨n - 0xE0, 1, if b = 0xE0 then 0xA0 else 0x80, if b = 0xED then 0x9F else 0xBF⟩
  else if b < 0xF5 then
    .opening ⟨n - 0xF0, 2, if b = 0xF0 then 0x90 else 0x80, if b = 0xF4 then 0x8F else 0xBF⟩
  else .malformed

/-- Cuts bytes into pieces; a malformed piece is {lit}`none`.  The pieces so far are in reverse
order, and {lit}`pending` is the character that has begun. -/
def piecesFrom (result : List (Option Char)) (pending : Option Pending) :
    List UInt8 → List (Option Char)
  | [] => (if pending.isSome then none :: result else result).reverse
  | b :: rest =>
    match pending with
    | none =>
      match Lead.ofByte b with
      | .whole c => piecesFrom (some c :: result) none rest
      | .opening pending => piecesFrom result (some pending) rest
      | .malformed => piecesFrom (none :: result) none rest
    | some pending =>
      if pending.low ≤ b ∧ b ≤ pending.high then
        let value := 64 * pending.value + (b.toNat - 0x80)
        match pending.more with
        | 0 => piecesFrom (some (Char.ofNat value) :: result) none rest
        | more + 1 => piecesFrom result (some ⟨value, more, 0x80, 0xBF⟩) rest
      else
        match Lead.ofByte b with
        | .whole c => piecesFrom (some c :: none :: result) none rest
        | .opening pending => piecesFrom (none :: result) (some pending) rest
        | .malformed => piecesFrom (none :: none :: result) none rest

/-- The characters and malformed pieces of a list of bytes. -/
def pieces (bytes : List UInt8) : List (Option Char) :=
  piecesFrom [] none bytes

/-- The character that stands for a malformed piece. -/
def replacement : Char :=
  '\uFFFD'

/-- The text of a list of bytes without a malformed piece. -/
def decode? (bytes : List UInt8) : Option String :=
  ((pieces bytes).mapM id).map String.ofList

/-- The text of a list of bytes, with a replacement character for each malformed piece. -/
def decodeLossy (bytes : List UInt8) : String :=
  String.ofList ((pieces bytes).map fun piece => piece.getD replacement)

/-- The bytes of a text. -/
def encode (s : String) : List UInt8 :=
  s.toUTF8.toList

end Intake.Text
