import Intake.Proofs.Cleaning
import Intake.Proofs.Pick
import Intake.Proofs.Schema
import Intake.Text.Casing

/-!
# Malformed keys

The pairs of a request are never searched for malformed names, and its body is cleaned while its
depth is measured.  Both come to the same: a malformed key, with all that stands under it, is as
good as absent.

Main results:

- Definition {lit}`Request.strip` takes the malformed keys out of a request, from all its parts.
- Theorem {lit}`Request.malformedKeys_eq_zero_iff`: no key is counted exactly when there is none to
  be taken out.
- Theorem {lit}`Request.malformed_as_absent`: what is picked from a request is what is picked from
  it without its malformed keys.
-/

namespace Intake

/-! ## Values -/

namespace Json

theorem length_stripEntries_le (maxKeyLength : Nat) (entries : List (String × Json)) :
    (stripEntries maxKeyLength entries).length ≤ entries.length := by
  induction entries with
  | nil => exact Nat.le_refl 0
  | cons entry rest ih =>
      obtain ⟨key, value⟩ := entry
      rw [stripEntries]
      split
      · simp only [List.length_cons]
        omega
      · simp only [List.length_cons]
        omega

section

variable {maxKeyLength : Nat}

mutual

/-- No key of a value is counted exactly when there is none to be taken out. -/
theorem malformedKeys_eq_zero_iff (value : Json) :
    malformedKeys maxKeyLength value = 0 ↔ strip maxKeyLength value = value := by
  match value with
  | .object entries =>
      have hentries := malformedInEntries_eq_zero_iff entries
      rw [malformedKeys, strip, object.injEq, hentries]
  | .array items =>
      have hitems := malformedInItems_eq_zero_iff items
      rw [malformedKeys, strip, array.injEq, hitems]
  | .null | .bool _ | .number _ | .string _ => simp [malformedKeys, strip]
termination_by structural value

theorem malformedInItems_eq_zero_iff (items : List Json) :
    malformedInItems maxKeyLength items = 0 ↔ stripItems maxKeyLength items = items := by
  match items with
  | [] => simp [malformedInItems, stripItems]
  | item :: rest =>
      have hitem := malformedKeys_eq_zero_iff item
      have hrest := malformedInItems_eq_zero_iff rest
      rw [malformedInItems, stripItems, List.cons.injEq, Nat.add_eq_zero_iff, hitem, hrest]
termination_by structural items

theorem malformedInEntries_eq_zero_iff (entries : List (String × Json)) :
    malformedInEntries maxKeyLength entries = 0 ↔
      stripEntries maxKeyLength entries = entries := by
  match entries with
  | [] => simp [malformedInEntries, stripEntries]
  | (key, value) :: rest =>
      have hvalue := malformedKeys_eq_zero_iff value
      have hrest := malformedInEntries_eq_zero_iff rest
      rw [malformedInEntries, stripEntries]
      by_cases hkey : isValidKey maxKeyLength key = true
      · simp [hkey, hvalue, hrest]
      · -- An entry that is taken out leaves fewer of them.
        have hlength := length_stripEntries_le maxKeyLength rest
        have hne : stripEntries maxKeyLength rest ≠ (key, value) :: rest := by
          intro heq
          have := congrArg List.length heq
          simp only [List.length_cons] at this
          omega
        simp [hkey, hne]
termination_by structural entries

end

end

end Json

/-! ## Pairs -/

theorem isKeyChar_of_isUpper {c : Char} (h : c.isUpper = true) : isKeyChar c = true := by
  have halpha : c.isAlpha = true := (Bool.or_eq_true _ _).mpr (.inl h)
  simp only [isKeyChar, Char.isAlphanum, halpha, Bool.true_or]

theorem isKeyChar_of_isLower {c : Char} (h : c.isLower = true) : isKeyChar c = true := by
  have halpha : c.isAlpha = true := (Bool.or_eq_true _ _).mpr (.inr h)
  simp only [isKeyChar, Char.isAlphanum, halpha, Bool.true_or]

theorem isKeyChar_toLower (c : Char) : isKeyChar c.toLower = isKeyChar c := by
  unfold Char.toLower
  split
  · next h =>
    have hupper : c.isUpper = true := decide_eq_true h
    have hlower : ∀ hvalid, (Char.mk (c.val + ('a'.val - 'A'.val)) hvalid).isLower = true := by
      intro hvalid
      have first := UInt32.le_iff_toNat_le.1 h.1
      have last := UInt32.le_iff_toNat_le.1 h.2
      have hrange : c.val + ('a'.val - 'A'.val) ≥ 'a'.val ∧
          c.val + ('a'.val - 'A'.val) ≤ 'z'.val := by
        simp [UInt32.le_iff_toNat_le, UInt32.toNat_add] at first last ⊢
        omega
      exact Bool.and_eq_true_iff.mpr ⟨decide_eq_true hrange.1, decide_eq_true hrange.2⟩
    rw [isKeyChar_of_isLower (hlower _), isKeyChar_of_isUpper hupper]
  · rfl

/-- Whether a key is well formed does not hang on letter case. -/
theorem isValidKey_asciiLower (maxLength : Nat) (key : String) :
    isValidKey maxLength (Text.asciiLower key) = isValidKey maxLength key := by
  have hchars : isKeyChar ∘ Char.toLower = isKeyChar := funext isKeyChar_toLower
  simp [isValidKey, Text.asciiLower, List.all_map, hchars]

/-- The pairs with well-formed names. -/
def stripPairs (maxKeyLength : Nat) (pairs : Pairs) : Pairs :=
  pairs.filter fun pair => isValidKey maxKeyLength pair.1

section

variable {maxKeyLength : Nat} {name : String} (hname : isValidKey maxKeyLength name = true)
include hname

theorem valuesOf_stripPairs (pairs : Pairs) :
    valuesOf (stripPairs maxKeyLength pairs) name = valuesOf pairs name := by
  rw [valuesOf, valuesOf, stripPairs, List.filter_filter]
  congr 1
  refine List.filter_congr ?_
  intro pair _
  by_cases heq : pair.1 = name
  · simp [heq, hname]
  · simp [heq]

theorem headerValuesOf_stripPairs (pairs : Pairs) :
    headerValuesOf (stripPairs maxKeyLength pairs) name = headerValuesOf pairs name := by
  rw [headerValuesOf, headerValuesOf, stripPairs, List.filter_filter]
  congr 1
  refine List.filter_congr ?_
  intro pair _
  by_cases heq : Text.asciiLower pair.1 = Text.asciiLower name
  · have hpair : isValidKey maxKeyLength pair.1 = true := by
      rw [← isValidKey_asciiLower, heq, isValidKey_asciiLower, hname]
    simp [heq, hpair]
  · simp [heq]

end

theorem malformedPairs_eq_zero_iff {maxKeyLength : Nat} {pairs : Pairs} :
    Request.malformedPairs maxKeyLength pairs = 0 ↔ stripPairs maxKeyLength pairs = pairs := by
  simp [Request.malformedPairs, stripPairs, List.countP_eq_zero, List.filter_eq_self]

/-! ## Requests -/

namespace Request

/-- The request without its malformed keys, from all its parts. -/
def strip (maxKeyLength : Nat) (r : Request) : Request where
  path := stripPairs maxKeyLength r.path
  query := stripPairs maxKeyLength r.query
  headers := stripPairs maxKeyLength r.headers
  cookies := stripPairs maxKeyLength r.cookies
  body := r.body.map (Json.strip maxKeyLength)

/-- No key of a request is counted exactly when there is none to be taken out. -/
theorem malformedKeys_eq_zero_iff {maxKeyLength : Nat} {r : Request} :
    r.malformedKeys maxKeyLength = 0 ↔ r.strip maxKeyLength = r := by
  obtain ⟨path, query, headers, cookies, body⟩ := r
  have hbody : (body.map (Json.malformedKeys maxKeyLength)).getD 0 = 0 ↔
      body.map (Json.strip maxKeyLength) = body := by
    cases body with
    | none => simp
    | some value => simp [Json.malformedKeys_eq_zero_iff]
  simp only [malformedKeys, strip, Nat.add_eq_zero_iff, malformedPairs_eq_zero_iff, hbody,
    Request.mk.injEq, and_assoc]

variable {limits : Limits} {r : Request}

/-- A body comes out of cleaning as it does without its malformed keys, the depth included. -/
theorem cleanBody_strip : cleanBody limits (r.strip limits.maxKeyLength) = cleanBody limits r := by
  unfold cleanBody strip
  cases r.body with
  | none => rfl
  | some value =>
      cases value with
      | object entries =>
          simp only [Option.map_some, Json.strip, Json.cleanObject_eq,
            Json.stripEntries_stripEntries]
      | array items => rfl
      | null => rfl
      | bool b => rfl
      | number n => rfl
      | string s => rfl

/-- A field with a well-formed name finds the same value in a request without malformed keys. -/
theorem find_strip {a : Attributes} (hname : isValidKey limits.maxKeyLength a.name = true)
    (body : Option (Entries Json)) :
    (r.strip limits.maxKeyLength).find body a = r.find body a := by
  unfold find
  cases a.source with
  | body => rfl
  | url => simp only [strip, valuesOf_stripPairs hname]
  | header => simp only [strip, headerValuesOf_stripPairs hname]
  | cookie => simp only [strip, valuesOf_stripPairs hname]

/-- For a schema that can be served, malformed keys are as good as absent: what is picked from a
request, values or error, is what is picked from it without them, and they are counted exactly when
there are some. -/
theorem malformed_as_absent {settings : Settings} {schema : Schema}
    (hschema : schema.check settings = .ok ()) (r : Request) :
    pick settings schema (r.strip settings.limits.maxKeyLength) = pick settings schema r ∧
      (r.malformedKeys settings.limits.maxKeyLength = 0 ↔
        r.strip settings.limits.maxKeyLength = r) := by
  have hwellFormed := Schema.wellFormed_of_check hschema
  refine ⟨?_, malformedKeys_eq_zero_iff⟩
  rw [pick_eq_bind, pick_eq_bind, cleanBody_strip]
  congr 1
  funext body
  refine pickFields_congr ∅ ?_
  intro f hf
  have hname := hwellFormed.isValidKey_name hf
  rw [find_strip hname]

/-- A profile with free notes, for a tenant that a header names. -/
def profile : Schema :=
  [.leaf { name := "name", required := true }, .leaf { name := "notes", type := .object },
    .leaf { name := "X-Tenant", source := .header }]

/-- Settings that leave no room for values below the notes. -/
def shallow : Settings :=
  ⟨∅, ∅, ⟨1024, 100, 2⟩⟩

/-- A profile with malformed keys, one of them over values that are nested too deep. -/
def noisyProfile : Request where
  headers := [("x tenant", "none"), ("x-tenant", "acme")]
  body := some (.object
    [("$where", .object [("a", .array [.object []])]), ("name", .string "Ada"),
      ("notes", .object [("ok", .null), ("not ok", .array [.array []])])])

theorem noisyProfile_malformed_as_absent :
    pick shallow profile (noisyProfile.strip 100) = pick shallow profile noisyProfile ∧
      (noisyProfile.malformedKeys 100 = 0 ↔ noisyProfile.strip 100 = noisyProfile) := by
  have hschema : profile.check shallow = .ok () := by decide
  exact malformed_as_absent hschema noisyProfile

end Request

end Intake
