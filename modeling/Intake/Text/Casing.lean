import Intake.Text.CaseTable

/-!
# Letter case

The full Unicode case mappings of a text: a character may become several, and a capital sigma
becomes the final form at the end of a word.

Main results:

- Definition {lit}`lowercase` maps a text to lower case, {lit}`uppercase` to upper case.
- Definition {lit}`asciiLower` moves the letters A to Z alone, and theorem
  {lit}`asciiLower_asciiLower` says that a second run changes nothing.
-/

namespace Intake.Text

/-! ## Looking a character up -/

/-- Whether a code point lies in one of the inclusive ranges. -/
def inRanges (table : Array (Nat × Nat)) (n : Nat) : Bool :=
  table.any fun range => range.1 ≤ n && n ≤ range.2

/-- Whether a code point belongs to a run. -/
def CaseRun.contains (run : CaseRun) (n : Nat) : Bool :=
  run.first ≤ n && n ≤ run.last && (n - run.first) % run.stride == 0

/-- The mapping of one character: its expansion if it has one, else its run, else itself. -/
def mapChar (expansions : Array (Nat × List Nat)) (runs : Array CaseRun) (c : Char) : List Char :=
  let n := c.toNat
  match expansions.find? (fun entry => entry.1 == n) with
  | some entry => entry.2.map Char.ofNat
  | none =>
    match runs.find? (fun run => run.contains n) with
    | some run => [Char.ofNat ((n : Int) + run.shift).toNat]
    | none => [c]

/-- The lower case form of one character, apart from its place in a word. -/
def lowerChar (c : Char) : List Char :=
  mapChar lowerExpansions lowerRuns c

/-- The upper case form of one character. -/
def upperChar (c : Char) : List Char :=
  mapChar upperExpansions upperRuns c

/-! ## Final sigma -/

/-- Whether the first character that is not case ignorable is cased. -/
def reachesCased (cs : List Char) : Bool :=
  match cs.dropWhile (fun c => inRanges caseIgnorableRanges c.toNat) with
  | [] => false
  | c :: _ => inRanges casedRanges c.toNat

/-- Whether a sigma between these characters ends a word; {lit}`before` is in reverse order. -/
def endsWord (before after : List Char) : Bool :=
  reachesCased before && !reachesCased after

/-! ## Texts -/

/-- Lower case of the characters that follow {lit}`before`, both lists in reverse order. -/
def lowerFrom (before result : List Char) : List Char → List Char
  | [] => result.reverse
  | c :: rest =>
    let mapped :=
      if c = 'Σ' then [if endsWord before rest then 'ς' else 'σ'] else lowerChar c
    lowerFrom (c :: before) (mapped.reverse ++ result) rest

/-- The text in lower case. -/
def lowercase (s : String) : String :=
  String.ofList (lowerFrom [] [] s.toList)

/-- The text in upper case. -/
def uppercase (s : String) : String :=
  String.ofList (s.toList.flatMap upperChar)

/-! ## ASCII case -/

/-- The text with the letters A to Z in lower case and all else unchanged. -/
def asciiLower (s : String) : String :=
  String.ofList (s.toList.map Char.toLower)

/-- A letter moved to lower case stays where it is. -/
theorem toLower_toLower (c : Char) : c.toLower.toLower = c.toLower := by
  unfold Char.toLower
  split
  · next h =>
    rw [dif_neg]
    intro h'
    have first := UInt32.le_iff_toNat_le.1 h.1
    have last := UInt32.le_iff_toNat_le.1 h.2
    have moved := UInt32.le_iff_toNat_le.1 h'.2
    simp [UInt32.toNat_add] at first last moved
    omega
  · rfl

/-- Lower case has no further lower case. -/
theorem asciiLower_asciiLower (s : String) : asciiLower (asciiLower s) = asciiLower s := by
  simp only [asciiLower, String.toList_ofList, List.map_map, Function.comp_def, toLower_toLower]

end Intake.Text
