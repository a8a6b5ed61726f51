import Intake.Json.Description
import Intake.Json.Reader

/-!
# Embedded texts

An object whose first key is the mark of an embedded text stands for the value of that text.
Embedded texts are read while a value is brought into canonical form, so that a value in canonical
form is what the text around it means.

Main results:

- Definition {lit}`Json.canonical` reads the embedded texts of a value, sorts the entries of every
  object and keeps the last one under a repeated key.
- Definition {lit}`Json.read` reads a text as a value in canonical form.
- Theorem {lit}`Json.read_eq` says that the two agree: to read a text is to read it in its own
  order and to bring what is read into canonical form.
-/

namespace Intake.Json

/-! ## Canonical form -/

/-- The key that marks an object as an embedded text. -/
def embeddingKey : String :=
  "$serde_json::private::RawValue"

/-- The value under the mark of an embedded text, which is the first key, and the number of entries
after it. -/
def embedding? : List (String × Json) → Option (Json × Nat)
  | (key, value) :: rest => if key = embeddingKey then some (value, rest.length) else none
  | [] => none

/-- Reads an embedded text, which must be a text and have no other entries beside it. -/
def readEmbedded (readText : String → Except SyntaxError Json) (value : Json) (others : Nat) :
    Except SyntaxError Json :=
  match value with
  | .string s => do
    let value ← readText s
    if others = 0 then .ok value else .error ⟨.embeddedBeside (others + 1), none⟩
  | value => .error ⟨.embeddedKind value.description, none⟩

mutual

/-- The value with its embedded texts read and the entries of every object in key order, the last
one under a repeated key. -/
def canonicalWith (readText : String → Except SyntaxError Json) : Json → Except SyntaxError Json
  | .array items => (canonicalItemsWith readText items).map .array
  | .object entries =>
    match embedding? entries with
    | some (value, others) => readEmbedded readText value others
    | none =>
      (canonicalEntriesWith readText entries).map fun entries => .object (Entries.ofList entries)
  | value => .ok value
termination_by structural value => value

/-- The canonical forms of the items of an array. -/
def canonicalItemsWith (readText : String → Except SyntaxError Json) :
    List Json → Except SyntaxError (List Json)
  | [] => .ok []
  | item :: rest => do
    let item ← canonicalWith readText item
    let rest ← canonicalItemsWith readText rest
    return item :: rest
termination_by structural items => items

/-- The entries with their values in canonical form, still in their own order. -/
def canonicalEntriesWith (readText : String → Except SyntaxError Json) :
    List (String × Json) → Except SyntaxError (List (String × Json))
  | [] => .ok []
  | (key, value) :: rest => do
    let value ← canonicalWith readText value
    let rest ← canonicalEntriesWith readText rest
    return (key, value) :: rest
termination_by structural entries => entries

end

/-! ## Whole texts -/

/-- Reads a text in which texts are embedded in each other less than {lit}`levels` deep. -/
def readLevels : (levels : Nat) → String → Except SyntaxError Json
  | 0, _ => .error ⟨.tooDeep, none⟩
  | levels + 1, s => (readOrdered s).bind (canonicalWith (readLevels levels))

/-- Reads a text as a value in canonical form.  An embedded text is shorter than the text around
it, so that there are no more levels than characters. -/
def read (s : String) : Except SyntaxError Json :=
  readLevels (s.length + 1) s

/-- The canonical form of a value. -/
def canonical : Json → Except SyntaxError Json :=
  canonicalWith read

/-- The entries with their values in canonical form, still in their own order. -/
def canonicalEntries : List (String × Json) → Except SyntaxError (List (String × Json)) :=
  canonicalEntriesWith read

/-! ## Levels -/

/-- An embedded text is shorter than the texts of the value that it stands in. -/
theorem length_lt_of_embedding?_eq {entries : List (String × Json)} {s : String} {others : Nat}
    (h : embedding? entries = some (.string s, others)) :
    s.length < textLengthEntries entries := by
  unfold embedding? at h
  split at h
  · split at h
    · next key value rest hkey =>
      cases h
      have hmark : 0 < embeddingKey.length := by decide
      simp only [textLengthEntries, textLength, hkey]
      omega
    · cases h
  · cases h

section

variable {f g : String → Except SyntaxError Json}

/-- Reading an embedded text depends on how that text is read alone. -/
theorem readEmbedded_congr {value : Json} {others : Nat}
    (h : ∀ s, value = .string s → f s = g s) :
    readEmbedded f value others = readEmbedded g value others := by
  cases value with
  | string s => simp only [readEmbedded, h s rfl]
  | _ => rfl

mutual

/-- The canonical form depends on how texts shorter than those of the value are read. -/
theorem canonicalWith_congr (value : Json)
    (h : ∀ s : String, s.length < value.textLength → f s = g s) :
    canonicalWith f value = canonicalWith g value := by
  match value with
  | .array items =>
    simp only [canonicalWith, canonicalItemsWith_congr items (by simpa only [textLength] using h)]
  | .object entries =>
    simp only [textLength] at h
    simp only [canonicalWith]
    split
    · next value others hembedding =>
      refine readEmbedded_congr fun s hs => h s ?_
      rw [hs] at hembedding
      exact length_lt_of_embedding?_eq hembedding
    · rw [canonicalEntriesWith_congr entries h]
  | .null | .bool _ | .number _ | .string _ => rfl
termination_by structural value

/-- The canonical forms of items depend on how shorter texts are read. -/
theorem canonicalItemsWith_congr (items : List Json)
    (h : ∀ s : String, s.length < textLengthItems items → f s = g s) :
    canonicalItemsWith f items = canonicalItemsWith g items := by
  match items with
  | [] => rfl
  | item :: rest =>
    simp only [textLengthItems] at h
    simp only [canonicalItemsWith,
      canonicalWith_congr item fun s hs => h s (by omega),
      canonicalItemsWith_congr rest fun s hs => h s (by omega)]
termination_by structural items

/-- The canonical forms of entries depend on how shorter texts are read. -/
theorem canonicalEntriesWith_congr (entries : List (String × Json))
    (h : ∀ s : String, s.length < textLengthEntries entries → f s = g s) :
    canonicalEntriesWith f entries = canonicalEntriesWith g entries := by
  match entries with
  | [] => rfl
  | (key, value) :: rest =>
    simp only [textLengthEntries] at h
    simp only [canonicalEntriesWith,
      canonicalWith_congr value fun s hs => h s (by omega),
      canonicalEntriesWith_congr rest fun s hs => h s (by omega)]
termination_by structural entries

end

end

/-- More levels than characters are as good as any larger number. -/
theorem readLevels_eq {m n : Nat} {s : String} (hm : s.length < m) (hn : s.length < n) :
    readLevels m s = readLevels n s := by
  induction m generalizing n s with
  | zero => omega
  | succ m ih =>
    obtain ⟨n, rfl⟩ : ∃ k, n = k + 1 := ⟨n - 1, by omega⟩
    simp only [readLevels]
    cases hread : readOrdered s with
    | error e => rfl
    | ok value =>
      have hlength := textLength_readOrdered hread
      exact canonicalWith_congr value fun t ht => ih (by omega) (by omega)

/-- To read a text is to read it in its own order and to bring what is read into canonical form. -/
theorem read_eq (s : String) : read s = (readOrdered s).bind canonical := by
  unfold read
  simp only [readLevels]
  cases hread : readOrdered s with
  | error e => rfl
  | ok value =>
    have hlength := textLength_readOrdered hread
    exact canonicalWith_congr value fun t ht => readLevels_eq (by omega) (by omega)

end Intake.Json
