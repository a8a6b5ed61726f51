import Intake.Text.Hex
import Intake.Text.Split
import Intake.Text.Utf8

/-!
# Encoded pairs

The form in which a query string carries pairs: names and values are set off by the equals sign,
pairs by the ampersand, and other bytes are written with a percent sign and two digits.

Main results:

- Definition {lit}`percentDecode` replaces each escape by its byte and leaves all else alone.
- Definition {lit}`formPairs` reads the pairs of a query string.
-/

namespace Intake.Text

/-- The bytes with every percent sign and the two hexadecimal digits after it replaced by the byte
they stand for; a percent sign without two digits stays. -/
def percentDecode : List UInt8 → List UInt8
  | [] => []
  | [b] => [b]
  | [b, c] => [b, c]
  | b :: high :: low :: rest =>
    if b = 0x25 then
      match hexValue? (Char.ofNat high.toNat), hexValue? (Char.ofNat low.toNat) with
      | some first, some second => UInt8.ofNat (16 * first + second) :: percentDecode rest
      | _, _ => b :: percentDecode (high :: low :: rest)
    else b :: percentDecode (high :: low :: rest)

/-- A name or value of a query string: a plus is a space, and malformed bytes are replaced. -/
def formDecode (cs : List Char) : String :=
  let bytes := encode (String.ofList cs)
  decodeLossy (percentDecode (bytes.map fun b => if b = 0x2B then 0x20 else b))

/-- The pair that one piece of a query string holds; without an equals sign the value is
empty. -/
def formPair (piece : List Char) : String × String :=
  match splitFirst? '=' piece with
  | some (name, value) => (formDecode name, formDecode value)
  | none => (formDecode piece, "")

/-- The pairs of a query string, in order; empty pieces hold none. -/
def formPairs (query : List Char) : List (String × String) :=
  ((splitAll '&' query).filter fun piece => !piece.isEmpty).map formPair

end Intake.Text
