import Intake.Pick

/-!
# What a field finds

A field has one source, and it finds there what stands under its name.  In a body this is a value.
Anywhere else there are texts, of which an array takes all and any other type the first one.

Main results:

- Theorems {lit}`mem_valuesOf` and {lit}`mem_headerValuesOf`: the texts under a name are those of
  the pairs with that name, and headers tell no letter cases of it apart.
- {lit}`Request.Finds` is the table of sources with what is found there, and theorem
  {lit}`Request.find_eq_some_iff` says that the look-up follows it.
-/

namespace Intake

/-! ## Texts under a name -/

section

variable {pairs : Pairs} {name value : String}

theorem mem_valuesOf : value ∈ valuesOf pairs name ↔ (name, value) ∈ pairs := by
  simp [valuesOf]

/-- Headers tell no letter cases of a name apart. -/
theorem mem_headerValuesOf :
    value ∈ headerValuesOf pairs name ↔
      ∃ spelling, Text.asciiLower spelling = Text.asciiLower name ∧ (spelling, value) ∈ pairs := by
  simp [headerValuesOf, and_comm]

end

theorem valuesOf_eq_nil_iff {pairs : Pairs} {name : String} :
    valuesOf pairs name = [] ↔ name ∉ pairs.map Prod.fst := by
  rw [valuesOf, List.map_eq_nil_iff, List.filter_eq_nil_iff, List.mem_map]
  constructor
  · rintro h ⟨pair, hpair, rfl⟩
    exact h pair hpair BEq.rfl
  · intro h pair hpair heq
    exact h ⟨pair, hpair, beq_iff_eq.mp heq⟩

theorem valuesOf_filter_of_ne {name other : String} (hne : other ≠ name) (pairs : Pairs) :
    valuesOf (pairs.filter fun pair => pair.1 != name) other = valuesOf pairs other := by
  unfold valuesOf
  rw [List.filter_filter]
  congr 1
  refine List.filter_congr ?_
  intro pair _
  by_cases heq : pair.1 = other
  · simp [heq, hne]
  · simp [heq]

theorem valuesOf_filter_self (name : String) (pairs : Pairs) :
    valuesOf (pairs.filter fun pair => pair.1 != name) name = [] := by
  simp [valuesOf_eq_nil_iff]

/-! ## Texts as a value -/

namespace Attributes

variable {a : Attributes} {texts : List String} {value : Json}

/-- The field takes the value from the texts under its name. -/
inductive Takes (a : Attributes) : List String → Json → Prop
  /-- An array takes all of them, in their order. -/
  | all {text : String} {rest : List String} (htype : a.type = .array) :
    Takes a (text :: rest) (.array ((text :: rest).map .string))
  /-- Any other type takes the first one. -/
  | first {text : String} {rest : List String} (htype : a.type ≠ .array) :
    Takes a (text :: rest) (.string text)

theorem ofTexts_eq_some_iff : a.ofTexts texts = some value ↔ a.Takes texts value := by
  constructor
  · intro h
    cases texts with
    | nil => simp [ofTexts] at h
    | cons text rest =>
        unfold ofTexts at h
        split at h
        · next htype =>
          cases h
          exact .all htype
        · next htype =>
          cases h
          exact .first htype
  · intro h
    cases h with
    | all htype => simp [ofTexts, htype]
    | first htype => simp [ofTexts, htype]

end Attributes

/-! ## The table -/

namespace Request

variable {r : Request} {entries : Option (Entries Json)} {a : Attributes} {value : Json}

/-- The field finds the value at its source, given the entries of the body. -/
inductive Finds (r : Request) (entries : Option (Entries Json)) (a : Attributes) (value : Json) :
    Prop
  /-- In the body it stands under the name of the field. -/
  | body {found : Entries Json} (hsource : a.source = .body) (hentries : entries = some found)
    (hvalue : found.get? a.name = some value) : Finds r entries a value
  /-- In the address it is taken from the parameters of the path. -/
  | path (hsource : a.source = .url) (htakes : a.Takes (valuesOf r.path a.name) value) :
    Finds r entries a value
  /-- The query string has its turn where the path has no such parameter. -/
  | query (hsource : a.source = .url) (hpath : a.name ∉ r.path.map Prod.fst)
    (htakes : a.Takes (valuesOf r.query a.name) value) : Finds r entries a value
  /-- It may be taken from the headers. -/
  | header (hsource : a.source = .header)
    (htakes : a.Takes (headerValuesOf r.headers a.name) value) : Finds r entries a value
  /-- It may be taken from the cookies. -/
  | cookie (hsource : a.source = .cookie) (htakes : a.Takes (valuesOf r.cookies a.name) value) :
    Finds r entries a value

/-- The look-up follows the table. -/
theorem find_eq_some_iff : r.find entries a = some value ↔ r.Finds entries a value := by
  unfold find
  constructor
  · intro h
    split at h
    · next hsource =>
      obtain ⟨found, hentries, hvalue⟩ := Option.bind_eq_some_iff.mp h
      exact .body hsource hentries hvalue
    · next hsource =>
      have htakes := Attributes.ofTexts_eq_some_iff.mp h
      split at htakes
      · next hpath =>
        exact .query hsource (valuesOf_eq_nil_iff.mp (List.isEmpty_iff.mp hpath)) htakes
      · exact .path hsource htakes
    · next hsource => exact .header hsource (Attributes.ofTexts_eq_some_iff.mp h)
    · next hsource => exact .cookie hsource (Attributes.ofTexts_eq_some_iff.mp h)
  · intro h
    cases h with
    | body hsource hentries hvalue => simp only [hsource, hentries, Option.bind_some, hvalue]
    | path hsource htakes =>
        -- Something is taken from the path, so that the query string has no turn.
        have hne : (valuesOf r.path a.name).isEmpty = false := by
          generalize valuesOf r.path a.name = texts at htakes
          cases htakes <;> rfl
        simp only [hsource, hne, Bool.false_eq_true, if_false]
        exact Attributes.ofTexts_eq_some_iff.mpr htakes
    | query hsource hpath htakes =>
        simp only [hsource, valuesOf_eq_nil_iff.mpr hpath, List.isEmpty_nil, if_true]
        exact Attributes.ofTexts_eq_some_iff.mpr htakes
    | header hsource htakes | cookie hsource htakes =>
        simp only [hsource]
        exact Attributes.ofTexts_eq_some_iff.mpr htakes

end Request
end Intake
