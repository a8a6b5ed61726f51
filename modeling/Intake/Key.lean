/-!
# Keys

Which keys of a request are well formed.

Main results:

- Definition {lit}`isValidKey` accepts keys of letters, digits and three marks up to a length.
-/

namespace Intake

/-- Whether a character may stand in a key: an ASCII letter or digit, an underscore, a point or a
hyphen. -/
def isKeyChar (c : Char) : Bool :=
  c.isAlphanum || c = '_' || c = '.' || c = '-'

/-- Whether a key is well formed and not longer than {lit}`maxLength`. -/
def isValidKey (maxLength : Nat) (key : String) : Bool :=
  let cs := key.toList
  !cs.isEmpty && cs.length ≤ maxLength && cs.all isKeyChar

end Intake
