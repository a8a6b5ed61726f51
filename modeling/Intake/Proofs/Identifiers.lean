import Intake.Conversion
import Intake.Proofs.RepeatedCoercion
import Intake.Rule

/-!
# Spelled identifiers

The spellings of an identifier are laid down by small relations: hexadecimal digits in any letter
case, hyphens between them, braces or a scheme around these, and white space around everything.  The
rule, the conversion and the type of identifiers each trim a text and read it on their own, and they
agree on every spelling.

Main results:

- Theorem {lit}`Text.hexNumber?_eq_some_iff`: what is read as a hexadecimal number.
- Theorem {lit}`Text.SpellsHex.eq_hexWidth`: digits in lower case are the written digits of the
  number that they spell.
- Theorem {lit}`Uuid.isSome_ofDigits?_iff`: thirty-two digits are never out of range.
- Theorem {lit}`Uuid.read?_eq_some_iff`: what is read as an identifier.
- Theorem {lit}`Uuid.isCanonical_iff`: one text alone spells an identifier in the hyphenated form
  and in lower case, and this is the written one.
- Theorem {lit}`Uuid.spellings_agree`: the rule accepts what the conversion converts, what comes out
  is the written form, and the coerced text still spells the same identifier.
-/

namespace Intake

/-! ## Hexadecimal digits -/

namespace Text

/-- The characters are hexadecimal digits in any letter case, and they spell the number. -/
inductive SpellsHex : List Char → Nat → Prop where
  /-- No digits spell zero. -/
  | nil : SpellsHex [] 0
  /-- A further digit counts for itself, and those before it for sixteen times as much. -/
  | snoc {cs : List Char} {c : Char} {n digit : Nat} (h : SpellsHex cs n) (hdigit : digit < 16)
      (hc : c.toLower = Nat.digitChar digit) : SpellsHex (cs ++ [c]) (16 * n + digit)

/-- Digits are characters of ASCII, and their values are below sixteen. -/
theorem lt_of_hexValue? {c : Char} {digit : Nat} (h : hexValue? c = some digit) :
    c.toNat < 128 ∧ digit < 16 := by
  have hrange : ∀ {first last : Char}, first ≤ c ∧ c ≤ last →
      first.toNat ≤ c.toNat ∧ c.toNat ≤ last.toNat :=
    fun hc => ⟨UInt32.le_iff_toNat_le.mp hc.1, UInt32.le_iff_toNat_le.mp hc.2⟩
  have hbounds : '0'.toNat = 48 ∧ '9'.toNat = 57 ∧ 'a'.toNat = 97 ∧ 'f'.toNat = 102 ∧
      'A'.toNat = 65 ∧ 'F'.toNat = 70 := by
    decide
  rw [hexValue?, ite_eq_iff, ite_eq_iff, Option.ite_none_right_eq_some] at h
  simp only [Option.some.injEq] at h
  obtain ⟨hc, hdigit⟩ | ⟨-, ⟨hc, hdigit⟩ | ⟨-, hc, hdigit⟩⟩ := h
  all_goals
    have hcRange := hrange hc
    omega

/-- A character has a value when its lower case is the digit of that value. -/
theorem hexValue?_eq_some_iff {c : Char} {digit : Nat} :
    hexValue? c = some digit ↔ digit < 16 ∧ c.toLower = Nat.digitChar digit := by
  -- Both sides are false beyond ASCII, so that no more than 128 characters are left to look at.
  have hascii : ∀ n < 128, ∀ digit < 16, hexValue? (Char.ofNat n) = some digit ↔
      (Char.ofNat n).toLower = Nat.digitChar digit := by
    decide +kernel
  have hdigits : ∀ digit < 16, (Nat.digitChar digit).toNat < 128 := by
    decide
  constructor
  · intro h
    obtain ⟨hlt, hdigit⟩ := lt_of_hexValue? h
    have hc := hascii c.toNat hlt digit hdigit
    rw [Char.ofNat_toNat] at hc
    exact ⟨hdigit, hc.mp h⟩
  · rintro ⟨hdigit, hlower⟩
    have hlt : c.toNat < 128 := by
      refine of_toLower (P := fun c => c.toNat < 128) (fun _ _ hhigh => by omega) ?_
      rw [hlower]
      exact hdigits digit hdigit
    have hc := hascii c.toNat hlt digit hdigit
    rw [Char.ofNat_toNat] at hc
    exact hc.mpr hlower

/-- What is no white space in lower case is none. -/
theorem isBlank_of_toLower {c : Char} (h : isBlank c.toLower = false) : isBlank c = false :=
  of_toLower (P := fun c => isBlank c = false)
    (fun _ hlow hhigh => isBlank_of_toNat (by omega) (by omega)) h

/-- A further digit at the end of a number. -/
theorem hexNumber?_concat (cs : List Char) (c : Char) :
    hexNumber? (cs ++ [c]) =
      (hexNumber? cs).bind fun n => (hexValue? c).map fun digit => 16 * n + digit := by
  unfold hexNumber?
  rw [List.mapM_append]
  cases cs.mapM hexValue? with
  | none => rfl
  | some values =>
      cases hc : hexValue? c with
      | none => simp [hc]
      | some digit => simp [hc]

/-- A hexadecimal number is read when it is spelled. -/
theorem hexNumber?_eq_some_iff {cs : List Char} {n : Nat} :
    hexNumber? cs = some n ↔ SpellsHex cs n := by
  constructor
  · intro h
    induction cs using List.reverseRecOn generalizing n with
    | nil =>
        cases h
        exact .nil
    | append_singleton cs c ih =>
        rw [hexNumber?_concat] at h
        obtain ⟨m, hm, hmap⟩ := Option.bind_eq_some_iff.mp h
        obtain ⟨digit, hdigit, rfl⟩ := Option.map_eq_some_iff.mp hmap
        obtain ⟨hlt, hlower⟩ := hexValue?_eq_some_iff.mp hdigit
        exact .snoc (ih hm) hlt hlower
  · intro h
    induction h with
    | nil => rfl
    | snoc h hdigit hc ih =>
        rw [hexNumber?_concat, ih, Option.bind_some, hexValue?_eq_some_iff.mpr ⟨hdigit, hc⟩,
          Option.map_some]

namespace SpellsHex

variable {cs : List Char} {n : Nat}

/-- Each digit holds four bits. -/
theorem lt_twoPow (h : SpellsHex cs n) : n < twoPow (4 * cs.length) := by
  induction h with
  | nil => exact twoPow_pos 0
  | @snoc cs c n digit h hdigit hc ih =>
      have hlength : 4 * (cs ++ [c]).length = 4 + 4 * cs.length := by
        rw [List.length_append, List.length_singleton]
        omega
      have hsixteen : twoPow 4 = 16 := rfl
      rw [hlength, twoPow_add, hsixteen]
      omega

/-- The digits of a number are known up to their letter case. -/
theorem map_toLower (h : SpellsHex cs n) : cs.map Char.toLower = hexWidth n cs.length := by
  induction h with
  | nil => rfl
  | @snoc cs c n digit h hdigit hc ih =>
      have hdiv : (16 * n + digit) / 16 = n := by omega
      have hmod : (16 * n + digit) % 16 = digit := by omega
      rw [List.map_append, List.map_singleton, List.length_append, List.length_singleton, hexWidth,
        hdiv, hmod, ih, hc]

/-- Digits without capital letters are the written digits of the number. -/
theorem eq_hexWidth (h : SpellsHex cs n) (hcs : ∀ c ∈ cs, c.isUpper = false) :
    cs = hexWidth n cs.length := by
  have hlower : cs.map Char.toLower = cs :=
    (List.map_congr_left fun c hc =>
      toLower_of_not_isUpper (Bool.eq_false_iff.mp (hcs c hc))).trans (List.map_id cs)
  rw [← h.map_toLower, hlower]

theorem not_isBlank (h : SpellsHex cs n) : ∀ c ∈ cs, isBlank c = false := by
  have hdigits : ∀ digit < 16, isBlank (Nat.digitChar digit) = false := by
    decide
  induction h with
  | nil => exact List.forall_mem_nil _
  | @snoc cs c n digit h hdigit hc ih =>
      refine List.forall_mem_append.mpr ⟨ih, List.forall_mem_singleton.mpr ?_⟩
      apply isBlank_of_toLower
      rw [hc]
      exact hdigits digit hdigit

end SpellsHex

/-- The written digits of a number spell it, if there are enough of them. -/
theorem spellsHex_hexWidth {n width : Nat} (h : n < twoPow (4 * width)) :
    SpellsHex (hexWidth n width) n := by
  have hlower : ∀ digit < 16, (Nat.digitChar digit).toLower = Nat.digitChar digit := by
    decide
  induction width generalizing n with
  | zero =>
      have hone : twoPow (4 * 0) = 1 := rfl
      obtain rfl : n = 0 := by omega
      exact .nil
  | succ width ih =>
      have hsixteen : twoPow 4 = 16 := rfl
      have hsplit : n = 16 * (n / 16) + n % 16 := (Nat.div_add_mod n 16).symm
      have hmod : n % 16 < 16 := Nat.mod_lt n (by decide)
      rw [Nat.mul_succ, twoPow_add, hsixteen] at h
      have hdiv : n / 16 < twoPow (4 * width) := by omega
      have hspelled := SpellsHex.snoc (ih hdiv) hmod (hlower (n % 16) hmod)
      rwa [← hsplit] at hspelled

/-- Digits are written without capital letters. -/
theorem isUpper_of_mem_hexWidth (n width : Nat) :
    ∀ c ∈ hexWidth n width, c.isUpper = false := by
  have hdigits : ∀ digit < 16, (Nat.digitChar digit).isUpper = false := by
    decide
  induction width generalizing n with
  | zero => exact List.forall_mem_nil _
  | succ width ih =>
      exact List.forall_mem_append.mpr
        ⟨ih (n / 16), List.forall_mem_singleton.mpr (hdigits _ (Nat.mod_lt n (by decide)))⟩

end Text

namespace Uuid

/-! ## Hyphens -/

/-- The characters are digits with hyphens after the eighth, the twelfth, the sixteenth and the
twentieth, thirty-two of them. -/
inductive Hyphenated : List Char → List Char → Prop where
  /-- The digits stand in five groups. -/
  | intro {first second third fourth fifth : List Char} (hfirst : first.length = 8)
      (hsecond : second.length = 4) (hthird : third.length = 4) (hfourth : fourth.length = 4)
      (hfifth : fifth.length = 12) :
      Hyphenated (first ++ '-' :: second ++ '-' :: third ++ '-' :: fourth ++ '-' :: fifth)
        (first ++ second ++ third ++ fourth ++ fifth)

namespace Hyphenated

variable {cs digits : List Char}

theorem length_eq (h : Hyphenated cs digits) : cs.length = 36 := by
  cases h with
  | intro hfirst hsecond hthird hfourth hfifth =>
      simp only [List.length_append, List.length_cons]
      omega

/-- The characters are the digits and hyphens. -/
theorem mem_iff (h : Hyphenated cs digits) {c : Char} : c ∈ cs ↔ c ∈ digits ∨ c = '-' := by
  cases h
  simp only [List.mem_append, List.mem_cons]
  tauto

end Hyphenated

/-- The digits of the hyphenated form are found where they stand. -/
theorem hyphenated?_eq_some_iff {cs digits : List Char} :
    hyphenated? cs = some digits ↔ Hyphenated cs digits := by
  constructor
  · intro h
    obtain ⟨⟨hlength, hcs⟩, hdigits⟩ := Option.ite_none_right_eq_some.mp h
    obtain rfl := Option.some.inj hdigits
    have hspelled := Hyphenated.intro
      (show (cs.take 8).length = 8 by simp [hlength])
      (show ((cs.drop 9).take 4).length = 4 by simp [hlength])
      (show ((cs.drop 14).take 4).length = 4 by simp [hlength])
      (show ((cs.drop 19).take 4).length = 4 by simp [hlength])
      (show (cs.drop 24).length = 12 by simp [hlength])
    rwa [← hcs] at hspelled
  · intro h
    cases h with
    | intro hfirst hsecond hthird hfourth hfifth =>
        simp [hyphenated?, List.drop_append, List.drop_of_length_le, hfirst, hsecond, hthird,
          hfourth, hfifth]

/-- The hyphenated form of digits. -/
def hyphenate (digits : List Char) : List Char :=
  digits.take 8 ++ '-' :: (digits.drop 8).take 4 ++ '-' :: (digits.drop 12).take 4
    ++ '-' :: (digits.drop 16).take 4 ++ '-' :: digits.drop 20

/-- Thirty-two digits have one hyphenated form. -/
theorem hyphenated_iff {cs digits : List Char} :
    Hyphenated cs digits ↔ digits.length = 32 ∧ cs = hyphenate digits := by
  constructor
  · intro h
    cases h with
    | intro hfirst hsecond hthird hfourth hfifth =>
        refine ⟨by simp [hfirst, hsecond, hthird, hfourth, hfifth], ?_⟩
        simp [hyphenate, List.drop_append, List.drop_of_length_le, hfirst, hsecond, hthird,
          hfourth]
  · rintro ⟨hlength, rfl⟩
    have hjoin : ∀ m n, (digits.drop m).take n ++ digits.drop (m + n) = digits.drop m := by
      intro m n
      rw [← List.drop_drop, List.take_append_drop]
    have hdigits : digits.take 8 ++ (digits.drop 8).take 4 ++ (digits.drop 12).take 4 ++
        (digits.drop 16).take 4 ++ digits.drop 20 = digits := by
      rw [List.append_assoc, hjoin 16 4, List.append_assoc, hjoin 12 4, List.append_assoc,
        hjoin 8 4, List.take_append_drop]
    have hspelled := Hyphenated.intro
      (show (digits.take 8).length = 8 by simp [hlength])
      (show ((digits.drop 8).take 4).length = 4 by simp [hlength])
      (show ((digits.drop 12).take 4).length = 4 by simp [hlength])
      (show ((digits.drop 16).take 4).length = 4 by simp [hlength])
      (show (digits.drop 20).length = 12 by simp [hlength])
    rwa [hdigits] at hspelled

/-! ## Braces and the scheme -/

/-- The characters are the inner ones alone, in braces, or after the scheme in any letter case. -/
inductive Wrapped : List Char → List Char → Prop where
  /-- There is nothing around them. -/
  | bare (inner : List Char) : Wrapped inner inner
  /-- There are braces around them. -/
  | braced (inner : List Char) : Wrapped ('\x7b' :: inner ++ ['\x7d']) inner
  /-- The scheme stands before them. -/
  | named {start : List Char} (h : Text.SameButCase (String.ofList start) "urn:uuid:")
      (inner : List Char) : Wrapped (start ++ inner) inner

theorem sameButCase_scheme {start : List Char} :
    Text.SameButCase (String.ofList start) "urn:uuid:" ↔ start.map Char.toLower = scheme := by
  have hscheme : Text.asciiLower "urn:uuid:" = String.ofList scheme := by
    decide
  rw [Text.sameButCase_iff, hscheme, Text.asciiLower, String.toList_ofList, String.ofList_inj]

/-- What is unwrapped was wrapped. -/
theorem wrapped_unwrap (cs : List Char) : Wrapped cs (unwrap cs) := by
  unfold unwrap
  split
  · next h =>
    obtain ⟨-, hhead, hlast⟩ := h
    obtain ⟨rest, rfl⟩ := List.head?_eq_some_iff.mp hhead
    obtain ⟨inner, hinner⟩ := List.getLast?_eq_some_iff.mp hlast
    cases inner with
    | nil => simp at hinner
    | cons c inner =>
        rw [List.cons_append] at hinner
        obtain ⟨rfl, rfl⟩ := List.cons.inj hinner
        rw [List.drop_one, List.tail_cons, List.dropLast_concat]
        exact .braced inner
  split
  · next h =>
    have hnamed := Wrapped.named (sameButCase_scheme.mpr h.2) (cs.drop 9)
    rwa [List.take_append_drop] at hnamed
  · exact .bare cs

/-- The wrapping around as many characters as the hyphenated form has is found. -/
theorem unwrap_of_wrapped {cs inner : List Char} (h : Wrapped cs inner)
    (hlength : inner.length = 36) : unwrap cs = inner := by
  cases h with
  | bare => simp [unwrap, hlength]
  | braced =>
      have hlast : ('\x7b' :: inner ++ ['\x7d']).getLast? = some '\x7d' := List.getLast?_concat
      rw [unwrap, if_pos ⟨by simp [hlength], rfl, hlast⟩]
      exact List.dropLast_concat
  | @named start h inner =>
      have hlower := sameButCase_scheme.mp h
      have hstart : start.length = 9 := by
        rw [← List.length_map Char.toLower, hlower]
        rfl
      simp [unwrap, hlength, hstart, hlower]

/-! ## Spellings -/

/-- The characters spell the identifier: they are its digits, alone or with hyphens, and those with
hyphens may be wrapped. -/
inductive Spells : List Char → Uuid → Prop where
  /-- Thirty-two digits and nothing else. -/
  | digits {cs : List Char} {id : Uuid} (hlength : cs.length = 32)
      (h : Text.SpellsHex cs id.value) : Spells cs id
  /-- The hyphenated form, wrapped or bare. -/
  | hyphenated {cs inner digits : List Char} {id : Uuid} (hwrapped : Wrapped cs inner)
      (hinner : Hyphenated inner digits) (h : Text.SpellsHex digits id.value) : Spells cs id

theorem ofDigits?_eq_some_iff {cs : List Char} {id : Uuid} :
    ofDigits? cs = some id ↔ cs.length = 32 ∧ Text.SpellsHex cs id.value := by
  rw [ofDigits?, Option.ite_none_right_eq_some, Option.bind_eq_some_iff]
  refine and_congr_right fun _ => ?_
  constructor
  · rintro ⟨n, hn, hid⟩
    obtain ⟨hlt, hid⟩ := Option.dite_none_right_eq_some.mp hid
    cases hid
    exact Text.hexNumber?_eq_some_iff.mp hn
  · intro h
    exact ⟨id.value, Text.hexNumber?_eq_some_iff.mpr h, dif_pos id.value_lt⟩

/-- No thirty-two digits are out of range. -/
theorem isSome_ofDigits?_iff {cs : List Char} :
    (ofDigits? cs).isSome = true ↔ cs.length = 32 ∧ ∃ n, Text.SpellsHex cs n := by
  rw [Option.isSome_iff_exists]
  constructor
  · rintro ⟨id, hid⟩
    obtain ⟨hlength, h⟩ := ofDigits?_eq_some_iff.mp hid
    exact ⟨hlength, id.value, h⟩
  · rintro ⟨hlength, n, h⟩
    have hcount : twoPow (4 * 32) = count := by decide
    have hlt := h.lt_twoPow
    rw [hlength, hcount] at hlt
    exact ⟨⟨n, hlt⟩, ofDigits?_eq_some_iff.mpr ⟨hlength, h⟩⟩

/-- Neither braces nor the scheme make characters fewer. -/
theorem Wrapped.length_le {cs inner : List Char} (h : Wrapped cs inner) :
    inner.length ≤ cs.length := by
  cases h with
  | bare => exact le_rfl
  | braced =>
      simp only [List.length_append, List.length_cons]
      omega
  | named =>
      rw [List.length_append]
      exact Nat.le_add_left _ _

/-- An identifier is read when it is spelled. -/
theorem read?_eq_some_iff {s : String} {id : Uuid} : read? s = some id ↔ Spells s.toList id := by
  rw [read?, Option.or_eq_some_iff, ofDigits?_eq_some_iff, Option.bind_eq_some_iff]
  constructor
  · rintro (⟨hlength, h⟩ | ⟨-, digits, hdigits, h⟩)
    · exact .digits hlength h
    · exact .hyphenated (wrapped_unwrap _) (hyphenated?_eq_some_iff.mp hdigits)
        (ofDigits?_eq_some_iff.mp h).2
  · intro h
    cases h with
    | digits hlength h => exact .inl ⟨hlength, h⟩
    | @hyphenated inner digits _ hwrapped hinner h =>
        have hlong : s.toList.length ≠ 32 := by
          have hle := hwrapped.length_le
          rw [hinner.length_eq] at hle
          omega
        have hlength := (hyphenated_iff.mp hinner).1
        refine .inr ⟨if_neg hlong, digits, ?_, ofDigits?_eq_some_iff.mpr ⟨hlength, h⟩⟩
        rw [unwrap_of_wrapped hwrapped hinner.length_eq]
        exact hyphenated?_eq_some_iff.mpr hinner

theorem Spells.not_isBlank {cs : List Char} {id : Uuid} (h : Spells cs id) :
    ∀ c ∈ cs, Text.isBlank c = false := by
  cases h with
  | digits hlength h => exact h.not_isBlank
  | @hyphenated inner digits _ hwrapped hinner h =>
      have hinner : ∀ c ∈ inner, Text.isBlank c = false := by
        intro c hc
        rcases hinner.mem_iff.mp hc with hc | rfl
        · exact h.not_isBlank c hc
        · decide
      cases hwrapped with
      | bare => exact hinner
      | braced =>
          simp only [List.cons_append, List.forall_mem_cons, List.forall_mem_append]
          exact ⟨by decide, hinner, by decide, List.forall_mem_nil _⟩
      | @named start hstart =>
          have hscheme : ∀ c ∈ scheme, Text.isBlank c = false := Text.not_isBlank_of_any rfl
          refine List.forall_mem_append.mpr ⟨fun c hc => ?_, hinner⟩
          apply Text.isBlank_of_toLower
          apply hscheme
          rw [← sameButCase_scheme.mp hstart]
          exact List.mem_map_of_mem hc

/-- The text spells the identifier, with white space around it or without. -/
def Denotes (s : String) (id : Uuid) : Prop :=
  ∃ cs, Text.Padded s cs ∧ Spells cs id

/-- What is read as an identifier from a text without the white space around it. -/
theorem read?_trim_eq_some_iff {s : String} {id : Uuid} :
    read? (Text.trim s) = some id ↔ Denotes s id := by
  rw [read?_eq_some_iff]
  exact Text.trim_iff (P := fun cs => Spells cs id) fun _ h => h.not_isBlank

/-! ## The written form -/

/-- The text spells the identifier in the hyphenated form and has no capital letters. -/
def IsCanonical (s : String) (id : Uuid) : Prop :=
  ∃ digits, Hyphenated s.toList digits ∧ Text.SpellsHex digits id.value ∧
    ∀ c ∈ s.toList, c.isUpper = false

theorem IsCanonical.spells {s : String} {id : Uuid} (h : IsCanonical s id) :
    Spells s.toList id := by
  obtain ⟨digits, hdigits, hspelled, -⟩ := h
  exact .hyphenated (.bare _) hdigits hspelled

/-- The written form is the only one of its kind. -/
theorem isCanonical_iff {s : String} {id : Uuid} : IsCanonical s id ↔ s = id.write := by
  have hwrite : id.write.toList = hyphenate (Text.hexWidth id.value 32) := by
    rw [write, String.toList_ofList]
    rfl
  rw [← String.toList_inj, hwrite]
  constructor
  · rintro ⟨digits, hdigits, hspelled, hlower⟩
    obtain ⟨hlength, hs⟩ := hyphenated_iff.mp hdigits
    have hwritten := hspelled.eq_hexWidth fun c hc => hlower c (hdigits.mem_iff.mpr (.inl hc))
    rw [hlength] at hwritten
    rw [hs, ← hwritten]
  · intro hs
    have hdigits := hyphenated_iff.mpr ⟨Text.length_hexWidth id.value 32, hs⟩
    refine ⟨_, hdigits, Text.spellsHex_hexWidth id.value_lt, fun c hc => ?_⟩
    rcases hdigits.mem_iff.mp hc with hc | rfl
    · exact Text.isUpper_of_mem_hexWidth _ _ c hc
    · decide

/-- A text in the written form has no white space. -/
theorem trim_write (id : Uuid) : Text.trim id.write = id.write :=
  Text.trim_of_not_isBlank (isCanonical_iff.mpr rfl).spells.not_isBlank

/-- A written identifier is read back. -/
theorem read?_write (id : Uuid) : read? id.write = some id :=
  read?_eq_some_iff.mpr (isCanonical_iff.mpr rfl).spells

theorem write_inj {id id' : Uuid} : id.write = id'.write ↔ id = id' := by
  constructor
  · intro h
    have hread := read?_write id
    rw [h, read?_write] at hread
    exact (Option.some.inj hread).symm
  · rintro rfl
    rfl

end Uuid

/-! ## The rule, the conversion and the type -/

/-- The rule accepts the spellings of identifiers. -/
theorem Rule.uuid_string_eq_ok {s : String} :
    Rule.uuid (.string s) = .ok () ↔ ∃ id, Uuid.Denotes s id := by
  simp only [← Uuid.read?_trim_eq_some_iff, ← Option.isSome_iff_exists, Rule.uuid]
  cases (Uuid.read? (Text.trim s)).isSome <;> simp

/-- The conversion brings the spellings of identifiers into the written form. -/
theorem Conversion.uuid_string_eq_ok {s : String} {value : Json} :
    Conversion.uuid (.string s) = .ok value ↔
      ∃ id, Uuid.Denotes s id ∧ value = .string id.write := by
  simp only [← Uuid.read?_trim_eq_some_iff, Conversion.uuid]
  cases Uuid.read? (Text.trim s) with
  | none => simp
  | some id => simp [eq_comm]

namespace Uuid

/-- The rule accepts just the texts that the conversion converts, and these are the spellings of
identifiers.  What comes out is the written form: all three leave it as it is, and the text that is
coerced instead still spells the same identifier.  Texts are converted to the same one when they
spell the same identifier. -/
theorem spellings_agree (s : String) :
    (Rule.uuid (.string s) = .ok () ↔ ∃ id, Denotes s id) ∧
      (Rule.uuid (.string s) = .ok () ↔ ∃ value, Conversion.uuid (.string s) = .ok value) ∧
      (∀ value, Conversion.uuid (.string s) = .ok value →
        ∃ text id, value = .string text ∧ Denotes s id ∧ IsCanonical text id ∧
          Rule.uuid (.string text) = .ok () ∧
          Conversion.uuid (.string text) = .ok (.string text) ∧
          coerce .uuid (.string text) = .string text ∧
          ∃ bare, coerce .uuid (.string s) = .string bare ∧ read? bare = some id) ∧
      ∀ t id id', Denotes s id → Denotes t id' →
        (Conversion.uuid (.string s) = Conversion.uuid (.string t) ↔ id = id') := by
  refine ⟨Rule.uuid_string_eq_ok, ?_, ?_, ?_⟩
  · rw [Rule.uuid_string_eq_ok]
    constructor
    · rintro ⟨id, hid⟩
      exact ⟨_, Conversion.uuid_string_eq_ok.mpr ⟨id, hid, rfl⟩⟩
    · rintro ⟨value, hvalue⟩
      obtain ⟨id, hid, -⟩ := Conversion.uuid_string_eq_ok.mp hvalue
      exact ⟨id, hid⟩
  · intro value hvalue
    obtain ⟨id, hid, rfl⟩ := Conversion.uuid_string_eq_ok.mp hvalue
    have hwritten : Denotes id.write id := by
      rw [← read?_trim_eq_some_iff, trim_write, read?_write]
    have hcoerced : coerce .uuid (.string id.write) = .string id.write :=
      congrArg Json.string (trim_write id)
    exact ⟨id.write, id, rfl, hid, isCanonical_iff.mpr rfl,
      Rule.uuid_string_eq_ok.mpr ⟨id, hwritten⟩,
      Conversion.uuid_string_eq_ok.mpr ⟨id, hwritten, rfl⟩, hcoerced,
      Text.trim s, rfl, read?_trim_eq_some_iff.mpr hid⟩
  · intro t id id' hid hid'
    rw [Conversion.uuid_string_eq_ok.mpr ⟨id, hid, rfl⟩,
      Conversion.uuid_string_eq_ok.mpr ⟨id', hid', rfl⟩, Except.ok.injEq, Json.string.injEq,
      write_inj]

/-- An identifier with digits of both kinds. -/
def session : Uuid :=
  ⟨0x550e8400e29b41d4a716446655440000, by decide⟩

theorem session_spellings_agree :
    Rule.uuid (.string " URN:UUID:550E8400-E29B-41D4-A716-446655440000\n") = .ok () ∧
      Conversion.uuid (.string " URN:UUID:550E8400-E29B-41D4-A716-446655440000\n") =
        .ok (.string "550e8400-e29b-41d4-a716-446655440000") ∧
      coerce .uuid (.string "550e8400-e29b-41d4-a716-446655440000") =
        .string "550e8400-e29b-41d4-a716-446655440000" ∧
      Conversion.uuid (.string " URN:UUID:550E8400-E29B-41D4-A716-446655440000\n") =
        Conversion.uuid (.string "550e8400E29B41d4a716446655440000") := by
  have hnamed : Denotes " URN:UUID:550E8400-E29B-41D4-A716-446655440000\n" session :=
    read?_trim_eq_some_iff.mp (by decide +kernel)
  have hdigits : Denotes "550e8400E29B41d4a716446655440000" session :=
    read?_trim_eq_some_iff.mp (by decide +kernel)
  have hwrite : session.write = "550e8400-e29b-41d4-a716-446655440000" := by
    decide +kernel
  have hconverted := Conversion.uuid_string_eq_ok.mpr ⟨session, hnamed, rfl⟩
  obtain ⟨hrule, -, hwritten, hsame⟩ :=
    spellings_agree " URN:UUID:550E8400-E29B-41D4-A716-446655440000\n"
  obtain ⟨text, -, htext, -, -, -, -, hcoerced, -⟩ := hwritten _ hconverted
  obtain rfl : session.write = text := Json.string.inj htext
  rw [← hwrite]
  exact ⟨hrule.mpr ⟨session, hnamed⟩, hconverted, hcoerced,
    (hsame _ session session hnamed hdigits).mpr rfl⟩

end Uuid

end Intake
