import Intake.Proofs.Rounding
import Intake.Proofs.Tokens
import Intake.Text.Blank

/-!
# Spelled numbers

How a text spells a number is laid down by small relations: a sign, a run of digits, a point, an
exponent, and the words for what has no digits.  The readers accept what these relations allow and
nothing else, with white space around it where they trim.

Main results:

- Theorem {lit}`Text.trim_iff`: a trimmed text is what a text has between its white space.
- Theorems {lit}`readInt?_eq_some_iff` and {lit}`readInt?_trim_eq_some_iff`: what is read as an
  integer of 64 bits.
- Theorem {lit}`SpellsInteger.toString`: the decimal text of an integer spells it.
- Theorem {lit}`Decimal.read?_eq_some_iff`: what is read as a decimal number.
- Theorems {lit}`Binary64.read?_eq_some_iff` and {lit}`Binary64.read?_trim_eq_some_iff`: what is
  read as a double, rounded once.
-/

namespace Intake

/-! ## White space around a text -/

namespace Text

/-- All characters are white space. -/
def IsBlankRun (cs : List Char) : Prop :=
  ∀ c ∈ cs, isBlank c = true

instance (cs : List Char) : Decidable (IsBlankRun cs) :=
  decidable_of_iff (cs.all isBlank = true) List.all_eq_true

/-- The text has nothing but white space before and after the characters. -/
def Padded (s : String) (cs : List Char) : Prop :=
  ∃ before after, IsBlankRun before ∧ IsBlankRun after ∧ s.toList = before ++ cs ++ after

/-- Around a trimmed text there was white space. -/
theorem padded_trim (s : String) : Padded s (trim s).toList := by
  obtain ⟨rest, hrest⟩ : ∃ rest, rest = (s.toList.dropWhile isBlank).reverse := ⟨_, rfl⟩
  refine ⟨s.toList.takeWhile isBlank, (rest.takeWhile isBlank).reverse, ?_, ?_, ?_⟩
  · exact List.all_eq_true.mp List.all_takeWhile
  · intro c hc
    exact List.all_eq_true.mp List.all_takeWhile c (List.mem_reverse.mp hc)
  · have hsplit : s.toList.dropWhile isBlank =
        (rest.dropWhile isBlank).reverse ++ (rest.takeWhile isBlank).reverse := by
      rw [← List.reverse_append, List.takeWhile_append_dropWhile, hrest, List.reverse_reverse]
    rw [trim, String.toList_ofList, trimChars, stripBoth, ← hrest, List.append_assoc, ← hsplit,
      List.takeWhile_append_dropWhile]

/-- White space around characters goes away, unless they begin or end with some themselves. -/
theorem trim_of_padded {s : String} {cs : List Char} (h : Padded s cs) (hcs : Bare isBlank cs) :
    (trim s).toList = cs := by
  obtain ⟨before, after, hbefore, hafter, hs⟩ := h
  rw [trim, String.toList_ofList, trimChars, hs]
  exact stripBoth_append hbefore hcs hafter

theorem bare_of_not_isBlank {cs : List Char} (h : ∀ c ∈ cs, isBlank c = false) :
    Bare isBlank cs :=
  ⟨fun c hc => h c (List.mem_of_mem_head? hc), fun c hc => h c (List.mem_of_mem_getLast? hc)⟩

/-- What holds of a trimmed text, and of no text with white space in it, holds of what the text has
between its white space. -/
theorem trim_iff {P : List Char → Prop} (hP : ∀ cs, P cs → ∀ c ∈ cs, isBlank c = false)
    {s : String} : P (trim s).toList ↔ ∃ cs, Padded s cs ∧ P cs := by
  constructor
  · intro h
    exact ⟨(trim s).toList, padded_trim s, h⟩
  · rintro ⟨cs, hpadded, h⟩
    rw [trim_of_padded hpadded (bare_of_not_isBlank (hP cs h))]
    exact h

theorem toNat_of_isDigit {c : Char} (h : c.isDigit = true) : 48 ≤ c.toNat ∧ c.toNat ≤ 57 := by
  simp only [Char.isDigit, Bool.and_eq_true, decide_eq_true_eq] at h
  exact ⟨UInt32.le_iff_toNat_le.mp h.1, UInt32.le_iff_toNat_le.mp h.2⟩

theorem toNat_of_isUpper {c : Char} (h : c.isUpper = true) : 65 ≤ c.toNat ∧ c.toNat ≤ 90 := by
  have hrange : c.val ≥ 'A'.val ∧ c.val ≤ 'Z'.val := of_decide_eq_true h
  exact ⟨UInt32.le_iff_toNat_le.mp hrange.1, UInt32.le_iff_toNat_le.mp hrange.2⟩

/-- What is no capital letter is its own lower case. -/
theorem toLower_of_not_isUpper {c : Char} (h : ¬ c.isUpper = true) : c.toLower = c := by
  unfold Char.toLower
  rw [dif_neg]
  intro hrange
  exact h (decide_eq_true hrange)

/-- Printable characters of ASCII but the space are no white space. -/
theorem isBlank_of_toNat {c : Char} (hlow : 33 ≤ c.toNat) (hhigh : c.toNat ≤ 126) :
    isBlank c = false := by
  simp only [isBlank, Bool.or_eq_false_iff, Bool.and_eq_false_imp, decide_eq_true_eq,
    decide_eq_false_iff_not]
  omega

/-- What holds of capital letters and of the lower case of a character holds of the character. -/
theorem of_toLower {P : Char → Prop} (hupper : ∀ c : Char, 65 ≤ c.toNat → c.toNat ≤ 90 → P c)
    {c : Char} (h : P c.toLower) : P c := by
  by_cases hc : c.isUpper = true
  · have hrange := toNat_of_isUpper hc
    exact hupper c hrange.1 hrange.2
  · rwa [toLower_of_not_isUpper hc] at h

theorem isBlank_of_isDigit {c : Char} (h : c.isDigit = true) : isBlank c = false := by
  have hrange := toNat_of_isDigit h
  exact isBlank_of_toNat (by omega) (by omega)

end Text

/-! ## Signs and digits -/

/-- A sign or none, and whether it is a minus. -/
inductive IsSign : List Char → Bool → Prop where
  /-- No sign. -/
  | absent : IsSign [] false
  /-- A plus. -/
  | plus : IsSign ['+'] false
  /-- A minus. -/
  | minus : IsSign ['-'] true

/-- One or more decimal digits. -/
structure IsDigits (cs : List Char) : Prop where
  /-- There is one. -/
  ne_nil : cs ≠ []
  /-- There is nothing else. -/
  isDigit : ∀ c ∈ cs, c.isDigit = true

/-- The text does not start with a sign. -/
def Unsigned (cs : List Char) : Prop :=
  ∀ c rest, cs = c :: rest → c ≠ '-' ∧ c ≠ '+'

theorem IsSign.not_isBlank {sign : List Char} {negative : Bool} (h : IsSign sign negative) :
    ∀ c ∈ sign, Text.isBlank c = false := by
  cases h with
  | absent => exact List.forall_mem_nil _
  | plus => exact List.forall_mem_singleton.mpr rfl
  | minus => exact List.forall_mem_singleton.mpr rfl

/-- A sign is split off a text that has no further one. -/
theorem splitSign_append {sign cs : List Char} {negative : Bool} (hsign : IsSign sign negative)
    (hcs : Unsigned cs) : splitSign (sign ++ cs) = (negative, cs) := by
  cases hsign with
  | absent =>
      rw [List.nil_append]
      unfold splitSign
      split
      · next rest => exact absurd rfl (hcs _ rest rfl).1
      · next rest => exact absurd rfl (hcs _ rest rfl).2
      · rfl
  | plus => rfl
  | minus => rfl

/-- What was split off is a sign. -/
theorem exists_isSign (cs : List Char) :
    ∃ sign, IsSign sign (splitSign cs).1 ∧ cs = sign ++ (splitSign cs).2 := by
  unfold splitSign
  split
  · exact ⟨['-'], .minus, rfl⟩
  · exact ⟨['+'], .plus, rfl⟩
  · exact ⟨[], .absent, rfl⟩

theorem IsDigits.not_isBlank {cs : List Char} (h : IsDigits cs) :
    ∀ c ∈ cs, Text.isBlank c = false := by
  intro c hc
  exact Text.isBlank_of_isDigit (h.isDigit c hc)

/-- A text that starts with a digit does not start with a sign. -/
theorem IsDigits.unsigned {cs : List Char} (h : IsDigits cs) (rest : List Char) :
    Unsigned (cs ++ rest) := by
  rintro c rest' heq
  rcases cs with _ | ⟨d, digits⟩
  · exact absurd rfl h.ne_nil
  · obtain ⟨rfl, -⟩ := List.cons.inj heq
    have hdigit := h.isDigit d List.mem_cons_self
    constructor <;> rintro rfl <;> exact absurd hdigit (by decide)

/-- The test of the readers for a run of digits. -/
theorem isDigits_iff {cs : List Char} :
    IsDigits cs ↔ ¬ (cs.isEmpty || !cs.all Char.isDigit) = true := by
  simp only [Bool.or_eq_true, List.isEmpty_iff, Bool.not_eq_true', not_or, Bool.not_eq_false,
    List.all_eq_true]
  exact ⟨fun h => ⟨h.ne_nil, h.isDigit⟩, fun h => ⟨h.1, h.2⟩⟩

/-! ## Integers -/

/-- The text is a sign or none and digits, and they spell the integer. -/
inductive SpellsInteger : List Char → Int → Prop where
  /-- The digits are read from the left to the right. -/
  | intro {sign digits : List Char} {negative : Bool} (hsign : IsSign sign negative)
      (hdigits : IsDigits digits) :
      SpellsInteger (sign ++ digits)
        (if negative then -(foldDigits digits : Int) else foldDigits digits)

theorem SpellsInteger.not_isBlank {cs : List Char} {n : Int} (h : SpellsInteger cs n) :
    ∀ c ∈ cs, Text.isBlank c = false := by
  cases h with
  | intro hsign hdigits =>
      rw [List.forall_mem_append]
      exact ⟨hsign.not_isBlank, hdigits.not_isBlank⟩

/-- An integer is spelled by what is left of a text without its sign. -/
theorem spellsInteger_iff {cs : List Char} {n : Int} :
    SpellsInteger cs n ↔ IsDigits (splitSign cs).2 ∧
      n = if (splitSign cs).1 then -(digitsValue (splitSign cs).2 : Int)
        else digitsValue (splitSign cs).2 := by
  rw [digitsValue_eq]
  constructor
  · intro h
    cases h with
    | intro hsign hdigits =>
        have hunsigned := hdigits.unsigned []
        rw [List.append_nil] at hunsigned
        rw [splitSign_append hsign hunsigned]
        exact ⟨hdigits, rfl⟩
  · rintro ⟨hdigits, hn⟩
    obtain ⟨sign, hsign, hcs⟩ := exists_isSign cs
    have hspelled := SpellsInteger.intro hsign hdigits
    rwa [← hcs, ← hn] at hspelled

/-- An integer is read when it is spelled and 64 bits hold it. -/
theorem readInt?_eq_some_iff {s : String} {n : Int} :
    readInt? s = some n ↔ SpellsInteger s.toList n ∧ minInt64 ≤ n ∧ n ≤ maxInt64 := by
  rw [spellsInteger_iff, isDigits_iff, readInt?]
  obtain ⟨negative, digits⟩ := splitSign s.toList
  dsimp only
  generalize (if negative then -(digitsValue digits : Int) else digitsValue digits) = m
  rw [Option.ite_none_left_eq_some, Option.ite_none_right_eq_some, Option.some.injEq]
  constructor
  · rintro ⟨hdigits, hrange, rfl⟩
    exact ⟨⟨hdigits, rfl⟩, hrange⟩
  · rintro ⟨⟨hdigits, rfl⟩, hrange⟩
    exact ⟨hdigits, hrange, rfl⟩

/-- What is read as an integer from a text without the white space around it. -/
theorem readInt?_trim_eq_some_iff {s : String} {n : Int} :
    readInt? (Text.trim s) = some n ↔
      ∃ cs, Text.Padded s cs ∧ SpellsInteger cs n ∧ minInt64 ≤ n ∧ n ≤ maxInt64 := by
  rw [readInt?_eq_some_iff]
  exact Text.trim_iff (P := fun cs => SpellsInteger cs n ∧ minInt64 ≤ n ∧ n ≤ maxInt64)
    fun _ h => h.1.not_isBlank

/-- The digits of a natural number spell it. -/
theorem foldDigits_toDigits (n : Nat) : foldDigits (Nat.toDigits 10 n) = n := by
  calc foldDigits (Nat.toDigits 10 n) = Nat.ofDigitChars 10 (Nat.toDigits 10 n) 0 :=
        Nat.ofDigitChars_eq_foldl.symm
    _ = n := Nat.ofDigitChars_ten_toDigits

theorem isDigits_toDigits (n : Nat) : IsDigits (Nat.toDigits 10 n) :=
  ⟨Nat.toDigits_ne_nil, fun _ hc => Nat.isDigit_of_mem_toDigits (by decide) (by decide) hc⟩

/-- The decimal text of an integer spells it. -/
theorem SpellsInteger.toString (n : Int) : SpellsInteger (toString n).toList n := by
  rw [Int.toString_eq_repr, Int.repr_eq_if]
  split
  · have h := SpellsInteger.intro .absent (isDigits_toDigits n.toNat)
    rw [foldDigits_toDigits, List.nil_append] at h
    rw [if_neg Bool.false_ne_true, show (n.toNat : Int) = n by omega] at h
    rw [Nat.toList_repr]
    exact h
  · next hneg =>
    have h := SpellsInteger.intro .minus (isDigits_toDigits (-n).toNat)
    rw [foldDigits_toDigits] at h
    rw [String.toList_append, Nat.toList_repr]
    rw [if_pos rfl, show -((-n).toNat : Int) = n by omega] at h
    exact h

/-! ## Decimal numbers -/

/-- Digits, or digits around a point: those before it and those after it. -/
inductive IsMantissa : List Char → List Char → List Char → Prop where
  /-- Without a point all digits stand before it. -/
  | whole (digits : List Char) : IsMantissa digits digits []
  /-- A point with digits on its sides. -/
  | point (whole fraction : List Char) : IsMantissa (whole ++ '.' :: fraction) whole fraction

/-- An exponent with its mark, or none. -/
inductive IsExponent : List Char → Int → Prop where
  /-- No exponent. -/
  | absent : IsExponent [] 0
  /-- A mark and an integer. -/
  | present {mark : Char} {cs : List Char} {n : Int} (hmark : mark = 'e' ∨ mark = 'E')
      (h : SpellsInteger cs n) : IsExponent (mark :: cs) n

/-- The text is digits with or without a point and an exponent or none, and they spell the decimal
number. -/
inductive SpellsDecimal : List Char → Decimal → Prop where
  /-- Each digit after the point takes one from the exponent. -/
  | intro {mantissa whole fraction tail : List Char} {exponent : Int}
      (hmantissa : IsMantissa mantissa whole fraction) (hdigits : IsDigits (whole ++ fraction))
      (hexponent : IsExponent tail exponent) :
      SpellsDecimal (mantissa ++ tail)
        ⟨foldDigits (whole ++ fraction), exponent - fraction.length⟩

theorem IsExponent.not_isBlank {cs : List Char} {n : Int} (h : IsExponent cs n) :
    ∀ c ∈ cs, Text.isBlank c = false := by
  cases h with
  | absent => simp
  | present hmark h =>
      refine List.forall_mem_cons.mpr ⟨?_, h.not_isBlank⟩
      rcases hmark with rfl | rfl <;> decide

theorem SpellsDecimal.not_isBlank {cs : List Char} {d : Decimal} (h : SpellsDecimal cs d) :
    ∀ c ∈ cs, Text.isBlank c = false := by
  cases h with
  | intro hmantissa hdigits hexponent =>
      have hblank := hdigits.not_isBlank
      refine List.forall_mem_append.mpr ⟨?_, hexponent.not_isBlank⟩
      cases hmantissa with
      | whole => rwa [List.append_nil] at hblank
      | point whole fraction =>
          obtain ⟨hwhole, hfraction⟩ := List.forall_mem_append.mp hblank
          exact List.forall_mem_append.mpr
            ⟨hwhole, List.forall_mem_cons.mpr ⟨by decide, hfraction⟩⟩

/-- A decimal number starts with a digit or a point. -/
theorem SpellsDecimal.unsigned {cs : List Char} {d : Decimal} (h : SpellsDecimal cs d) :
    Unsigned cs := by
  cases h with
  | @intro mantissa whole fraction tail exponent hmantissa hdigits hexponent =>
      cases hmantissa with
      | whole =>
          rw [List.append_nil] at hdigits
          exact hdigits.unsigned tail
      | point =>
          rcases whole with _ | ⟨c, rest⟩
          · rintro c rest heq
            obtain ⟨rfl, -⟩ := List.cons.inj heq
            decide
          · have hwhole : IsDigits (c :: rest) :=
              ⟨List.cons_ne_nil c rest, (List.forall_mem_append.mp hdigits.isDigit).1⟩
            rw [List.append_assoc]
            exact hwhole.unsigned _

/-- An exponent is neither more digits nor a point. -/
theorem IsExponent.start {cs : List Char} {n : Int} (h : IsExponent cs n) :
    cs.takeWhile Char.isDigit = [] ∧ cs.dropWhile Char.isDigit = cs ∧
      ∀ rest, cs ≠ '.' :: rest := by
  cases h with
  | absent => simp
  | present hmark h =>
      rcases hmark with rfl | rfl
      · exact ⟨rfl, rfl, fun rest => by simp⟩
      · exact ⟨rfl, rfl, fun rest => by simp⟩

namespace Decimal

theorem readExponent?_eq_some_iff {cs : List Char} {n : Int} :
    readExponent? cs = some n ↔ SpellsInteger cs n := by
  rw [spellsInteger_iff, isDigits_iff, readExponent?]
  obtain ⟨negative, digits⟩ := splitSign cs
  dsimp only
  rw [Option.ite_none_left_eq_some, Option.some.injEq]
  exact and_congr_right fun _ => eq_comm

/-- The decimal number with these digits before and after the point and this exponent, if there
is one. -/
def finish? (whole fraction tail : List Char) : Option Decimal :=
  if whole.isEmpty && fraction.isEmpty then none
  else
    match tail with
    | [] => some ⟨digitsValue (whole ++ fraction), -(fraction.length : Int)⟩
    | mark :: cs =>
      if mark = 'e' ∨ mark = 'E' then
        (readExponent? cs).map fun exponent =>
          ⟨digitsValue (whole ++ fraction), exponent - fraction.length⟩
      else none

theorem read?_of_point {cs rest : List Char} (h : cs.dropWhile Char.isDigit = '.' :: rest) :
    read? cs = finish? (cs.takeWhile Char.isDigit) (rest.takeWhile Char.isDigit)
      (rest.dropWhile Char.isDigit) := by
  rw [read?, h]
  rfl

theorem read?_of_no_point {cs : List Char}
    (h : ∀ rest, cs.dropWhile Char.isDigit ≠ '.' :: rest) :
    read? cs = finish? (cs.takeWhile Char.isDigit) [] (cs.dropWhile Char.isDigit) := by
  rw [read?]
  split
  · next heq =>
    split at heq
    · next rest hdrop => exact absurd hdrop (h rest)
    · cases heq
      rfl

/-- What is read after the digits is the exponent. -/
theorem finish?_eq_some_iff {whole fraction tail : List Char} {d : Decimal}
    (hdigits : ∀ c ∈ whole ++ fraction, c.isDigit = true) :
    finish? whole fraction tail = some d ↔ IsDigits (whole ++ fraction) ∧
      ∃ exponent, IsExponent tail exponent ∧
        d = ⟨foldDigits (whole ++ fraction), exponent - fraction.length⟩ := by
  have hdigits_iff : IsDigits (whole ++ fraction) ↔
      ¬ (whole.isEmpty && fraction.isEmpty) = true := by
    rw [Bool.and_eq_true, List.isEmpty_iff, List.isEmpty_iff, ← List.append_eq_nil_iff]
    exact ⟨fun h => h.ne_nil, fun h => ⟨h, hdigits⟩⟩
  unfold finish?
  rw [hdigits_iff, Option.ite_none_left_eq_some, digitsValue_eq]
  refine and_congr_right fun _ => ?_
  cases tail with
  | nil =>
      dsimp only
      rw [Option.some.injEq]
      constructor
      · rintro rfl
        exact ⟨0, .absent, by rw [Int.zero_sub]⟩
      · rintro ⟨exponent, hexponent, rfl⟩
        cases hexponent
        rw [Int.zero_sub]
  | cons mark cs =>
      dsimp only
      rw [Option.ite_none_right_eq_some, Option.map_eq_some_iff]
      constructor
      · rintro ⟨hmark, exponent, hread, rfl⟩
        exact ⟨exponent, .present hmark (readExponent?_eq_some_iff.mp hread), rfl⟩
      · rintro ⟨exponent, hexponent, rfl⟩
        cases hexponent with
        | present hmark h => exact ⟨hmark, exponent, readExponent?_eq_some_iff.mpr h, rfl⟩

theorem all_takeWhile_isDigit (cs : List Char) :
    ∀ c ∈ cs.takeWhile Char.isDigit, c.isDigit = true :=
  List.all_eq_true.mp List.all_takeWhile

/-- A spelled decimal number is read. -/
theorem read?_of_spells {cs : List Char} {d : Decimal} (h : SpellsDecimal cs d) :
    read? cs = some d := by
  cases h with
  | @intro mantissa whole fraction tail exponent hmantissa hdigits hexponent =>
      obtain ⟨htake, hdrop, hpoint⟩ := hexponent.start
      obtain ⟨hwhole, hfraction⟩ := List.forall_mem_append.mp hdigits.isDigit
      have hfinish := (finish?_eq_some_iff hdigits.isDigit).mpr ⟨hdigits, exponent, hexponent, rfl⟩
      cases hmantissa with
      | whole =>
          have hdrop' : (mantissa ++ tail).dropWhile Char.isDigit = tail := by
            rw [List.dropWhile_append_of_pos hwhole, hdrop]
          have htake' : (mantissa ++ tail).takeWhile Char.isDigit = mantissa := by
            rw [List.takeWhile_append_of_pos hwhole, htake, List.append_nil]
          rw [read?_of_no_point (by rwa [hdrop']), hdrop', htake']
          exact hfinish
      | point =>
          have hdrop' : (whole ++ '.' :: fraction ++ tail).dropWhile Char.isDigit =
              '.' :: (fraction ++ tail) := by
            rw [List.append_assoc, List.dropWhile_append_of_pos hwhole]
            rfl
          have htake' : (whole ++ '.' :: fraction ++ tail).takeWhile Char.isDigit = whole := by
            rw [List.append_assoc, List.takeWhile_append_of_pos hwhole]
            exact List.append_nil whole
          rw [read?_of_point hdrop', htake', List.takeWhile_append_of_pos hfraction, htake,
            List.dropWhile_append_of_pos hfraction, hdrop, List.append_nil]
          exact hfinish

/-- What is read is spelled. -/
theorem spells_of_read? {cs : List Char} {d : Decimal} (h : read? cs = some d) :
    SpellsDecimal cs d := by
  have hwhole := all_takeWhile_isDigit cs
  have hcs : cs.takeWhile Char.isDigit ++ cs.dropWhile Char.isDigit = cs :=
    List.takeWhile_append_dropWhile
  by_cases hpoint : ∃ rest, cs.dropWhile Char.isDigit = '.' :: rest
  · obtain ⟨rest, hdrop⟩ := hpoint
    rw [read?_of_point hdrop, finish?_eq_some_iff] at h
    · obtain ⟨hdigits, exponent, hexponent, rfl⟩ := h
      have hspelled := SpellsDecimal.intro (.point _ _) hdigits hexponent
      rw [List.append_assoc, List.cons_append, List.takeWhile_append_dropWhile, ← hdrop, hcs]
        at hspelled
      exact hspelled
    · exact List.forall_mem_append.mpr ⟨hwhole, all_takeWhile_isDigit rest⟩
  · rw [not_exists] at hpoint
    rw [read?_of_no_point hpoint, finish?_eq_some_iff] at h
    · obtain ⟨hdigits, exponent, hexponent, rfl⟩ := h
      have hspelled := SpellsDecimal.intro (.whole _) hdigits hexponent
      rwa [hcs] at hspelled
    · rwa [List.append_nil]

/-- A decimal number is read when it is spelled. -/
theorem read?_eq_some_iff {cs : List Char} {d : Decimal} :
    read? cs = some d ↔ SpellsDecimal cs d :=
  ⟨spells_of_read?, read?_of_spells⟩

end Decimal

/-! ## Doubles -/

/-- The text spells a double: an infinity or the word for no number in any letter case, or a
decimal number that rounds to it. -/
inductive SpellsDouble : List Char → Binary64 → Prop where
  /-- An infinity, short or in full. -/
  | infinite {sign word : List Char} {negative : Bool} (hsign : IsSign sign negative)
      (hword : Text.SameButCase (String.ofList word) "inf" ∨
        Text.SameButCase (String.ofList word) "infinity") :
      SpellsDouble (sign ++ word) (.infinite negative)
  /-- No number. -/
  | nan {sign word : List Char} {negative : Bool} (hsign : IsSign sign negative)
      (hword : Text.SameButCase (String.ofList word) "nan") : SpellsDouble (sign ++ word) .nan
  /-- A decimal number. -/
  | decimal {sign cs : List Char} {negative : Bool} {d : Decimal} {x : Binary64}
      (hsign : IsSign sign negative) (hdecimal : SpellsDecimal cs d)
      (hrounds : Binary64.Rounds negative d.toRat x) : SpellsDouble (sign ++ cs) x

namespace Text

/-- The words that doubles are spelled by. -/
def doubleWords : List String :=
  ["inf", "infinity", "nan"]

/-- A text is a word in any letter case when the word is its lower case. -/
theorem sameButCase_word {s word : String} (hword : word ∈ doubleWords) :
    SameButCase s word ↔ asciiLower s = word := by
  have hlower : ∀ word ∈ doubleWords, asciiLower word = word := by
    decide
  rw [sameButCase_iff, hlower word hword]

/-- A word in any letter case has the letters of the word. -/
theorem letters_of_sameButCase {cs : List Char} {word : String} (hword : word ∈ doubleWords)
    (h : SameButCase (String.ofList cs) word) :
    ∀ c ∈ cs, isBlank c = false ∧ c.isDigit = false ∧ c ≠ '-' ∧ c ≠ '+' := by
  have hletters : ∀ word ∈ doubleWords, (asciiLower word).toList.all (fun d =>
      !isBlank d && !d.isDigit && d != '-' && d != '+') = true := by
    decide
  intro c hc
  have hlower : c.toLower ∈ (asciiLower word).toList := by
    rw [← sameButCase_iff.mp h, asciiLower, String.toList_ofList, String.toList_ofList]
    exact List.mem_map_of_mem hc
  have hletter := List.all_eq_true.mp (hletters word hword) c.toLower hlower
  simp only [Bool.and_eq_true, Bool.not_eq_true', bne_iff_ne, and_assoc] at hletter
  refine of_toLower (P := fun c => isBlank c = false ∧ c.isDigit = false ∧ c ≠ '-' ∧ c ≠ '+')
    ?_ hletter
  intro c hlow hhigh
  refine ⟨isBlank_of_toNat (by omega) (by omega), ?_, ?_, ?_⟩
  · by_contra hdigit
    have hrange := toNat_of_isDigit (Bool.eq_true_of_not_eq_false hdigit)
    omega
  · rintro rfl
    exact absurd hlow (by decide)
  · rintro rfl
    exact absurd hlow (by decide)

theorem unsigned_of_sameButCase {cs : List Char} {word : String} (hword : word ∈ doubleWords)
    (h : SameButCase (String.ofList cs) word) : Unsigned cs := by
  rintro c rest rfl
  exact (letters_of_sameButCase hword h c List.mem_cons_self).2.2

end Text

theorem SpellsDouble.not_isBlank {cs : List Char} {x : Binary64} (h : SpellsDouble cs x) :
    ∀ c ∈ cs, Text.isBlank c = false := by
  cases h with
  | infinite hsign hword =>
      refine List.forall_mem_append.mpr ⟨hsign.not_isBlank, fun c hc => ?_⟩
      rcases hword with hword | hword
      · exact (Text.letters_of_sameButCase (by decide) hword c hc).1
      · exact (Text.letters_of_sameButCase (by decide) hword c hc).1
  | nan hsign hword =>
      refine List.forall_mem_append.mpr ⟨hsign.not_isBlank, fun c hc => ?_⟩
      exact (Text.letters_of_sameButCase (by decide) hword c hc).1
  | decimal hsign hdecimal hrounds =>
      exact List.forall_mem_append.mpr ⟨hsign.not_isBlank, hdecimal.not_isBlank⟩

/-- A decimal number has a digit. -/
theorem SpellsDecimal.exists_isDigit {cs : List Char} {d : Decimal} (h : SpellsDecimal cs d) :
    ∃ c ∈ cs, c.isDigit = true := by
  cases h with
  | @intro mantissa whole fraction tail exponent hmantissa hdigits hexponent =>
      obtain ⟨c, hc⟩ := List.exists_mem_of_ne_nil _ hdigits.ne_nil
      refine ⟨c, List.mem_append_left _ ?_, hdigits.isDigit c hc⟩
      cases hmantissa with
      | whole => rwa [List.append_nil] at hc
      | point =>
          rw [List.mem_append] at hc ⊢
          exact hc.imp_right (List.mem_cons_of_mem _)

/-- No decimal number is a word. -/
theorem SpellsDecimal.asciiLower_ne {cs : List Char} {d : Decimal} (h : SpellsDecimal cs d)
    {word : String} (hword : word ∈ Text.doubleWords) :
    Text.asciiLower (String.ofList cs) ≠ word := by
  intro hlower
  obtain ⟨c, hc, hdigit⟩ := h.exists_isDigit
  have hcase := (Text.sameButCase_word hword).mpr hlower
  rw [(Text.letters_of_sameButCase hword hcase c hc).2.1] at hdigit
  cases hdigit

namespace Binary64

/-- What follows the sign of a double, as far as it is read. -/
theorem read?_of_isSign {s : String} {sign cs : List Char} {negative : Bool}
    (hs : s.toList = sign ++ cs) (hsign : IsSign sign negative) (hcs : Unsigned cs) :
    read? s =
      if Text.asciiLower (String.ofList cs) = "inf" ∨
          Text.asciiLower (String.ofList cs) = "infinity" then some (.infinite negative)
      else if Text.asciiLower (String.ofList cs) = "nan" then some .nan
      else (Decimal.read? cs).map (Decimal.toBinary64 negative) := by
  rw [read?, hs, splitSign_append hsign hcs, Text.asciiLower, String.toList_ofList]

/-- A spelled double is read. -/
theorem read?_of_spells {s : String} {x : Binary64} (h : SpellsDouble s.toList x) :
    read? s = some x := by
  generalize hs : s.toList = text at h
  cases h with
  | @infinite sign cs negative hsign hword =>
      have hunsigned : Unsigned cs :=
        hword.elim (Text.unsigned_of_sameButCase (by decide))
          (Text.unsigned_of_sameButCase (by decide))
      rw [Text.sameButCase_word (by decide), Text.sameButCase_word (by decide)] at hword
      rw [read?_of_isSign hs hsign hunsigned, if_pos hword]
  | @nan sign cs negative hsign hword =>
      have hunsigned := Text.unsigned_of_sameButCase (by decide) hword
      rw [Text.sameButCase_word (by decide)] at hword
      rw [read?_of_isSign hs hsign hunsigned, hword, if_neg (by decide), if_pos rfl]
  | @decimal sign cs negative d x hsign hdecimal hrounds =>
      have hinf := hdecimal.asciiLower_ne (show "inf" ∈ Text.doubleWords by decide)
      have hinfinity := hdecimal.asciiLower_ne (show "infinity" ∈ Text.doubleWords by decide)
      have hnan := hdecimal.asciiLower_ne (show "nan" ∈ Text.doubleWords by decide)
      rw [read?_of_isSign hs hsign hdecimal.unsigned, if_neg (not_or.mpr ⟨hinf, hinfinity⟩),
        if_neg hnan, Decimal.read?_of_spells hdecimal, Decimal.rounds_iff.mp hrounds]
      rfl

/-- What is read is spelled. -/
theorem spells_of_read? {s : String} {x : Binary64} (h : read? s = some x) :
    SpellsDouble s.toList x := by
  obtain ⟨sign, hsign, hs⟩ := exists_isSign s.toList
  rw [hs]
  simp only [read?] at h
  split at h
  · next hword =>
    obtain rfl := Option.some.inj h
    refine .infinite hsign ?_
    rw [Text.sameButCase_word (by decide), Text.sameButCase_word (by decide), Text.asciiLower,
      String.toList_ofList]
    exact hword
  · split at h
    · next hword =>
      obtain rfl := Option.some.inj h
      refine .nan hsign ?_
      rw [Text.sameButCase_word (by decide), Text.asciiLower, String.toList_ofList]
      exact hword
    · obtain ⟨d, hread, rfl⟩ := Option.map_eq_some_iff.mp h
      exact .decimal hsign (Decimal.read?_eq_some_iff.mp hread) (Decimal.rounds_iff.mpr rfl)

/-- A double is read when it is spelled. -/
theorem read?_eq_some_iff {s : String} {x : Binary64} :
    read? s = some x ↔ SpellsDouble s.toList x :=
  ⟨spells_of_read?, read?_of_spells⟩

/-- What is read as a double from a text without the white space around it. -/
theorem read?_trim_eq_some_iff {s : String} {x : Binary64} :
    read? (Text.trim s) = some x ↔ ∃ cs, Text.Padded s cs ∧ SpellsDouble cs x := by
  rw [read?_eq_some_iff]
  exact Text.trim_iff (P := fun cs => SpellsDouble cs x) fun _ h => h.not_isBlank

end Binary64

end Intake
