import Intake.Json.SyntaxError
import Intake.Json.Value
import Intake.Text.Hex

/-!
# Tokens of a JSON text

A JSON text is cut into brackets, separators, strings and other scalars.  White space is the
space, the tabulator and the two line ends.  Where no token can be read the text ends with a
fault, since whether the fault is the first one is up to the tokens before it.

Main results:

- {lit}`Json.Token` is the type of tokens, {lit}`Json.Located` that of tokens with their place.
- Definition {lit}`Json.scan` cuts a text into tokens.
- Theorem {lit}`Json.scanToken_length` says that a token takes at least one character, and
  theorem {lit}`Json.textLength_scan` that the tokens hold no more characters than the text.
-/

namespace Intake.Json

open Text (hexValue?)

/-- A token of a JSON text. -/
inductive Token where
  /-- The bracket that opens an array. -/
  | openArray
  /-- The bracket that closes an array. -/
  | closeArray
  /-- The brace that opens an object. -/
  | openObject
  /-- The brace that closes an object. -/
  | closeObject
  /-- A comma. -/
  | comma
  /-- A colon. -/
  | colon
  /-- A string, as a value or as a key. -/
  | text (s : String)
  /-- A number, a truth value or null. -/
  | scalar (value : Json)
  /-- A fault, and whether it is one of a string. -/
  | fault (inText : Bool) (fault : Fault)

/-- The number of characters in the texts of a token. -/
def Token.textLength : Token → Nat
  | .text s => s.length
  | .scalar value => value.textLength
  | _ => 0

/-! ## Strings -/

/-- The value of four hexadecimal digits. -/
def hexValue4? (a b c d : Char) : Option Nat := do
  return (((← hexValue? a) * 16 + (← hexValue? b)) * 16 + (← hexValue? c)) * 16 + (← hexValue? d)

/-- The character that a backslash and a letter or mark stand for. -/
def escaped? (c : Char) : Option Char :=
  if c = '\x22' then some '\x22'
  else if c = '\\' then some '\\'
  else if c = '/' then some '/'
  else if c = 'b' then some '\x08'
  else if c = 'f' then some '\x0c'
  else if c = 'n' then some '\n'
  else if c = 'r' then some '\r'
  else if c = 't' then some '\t'
  else none

/-- Whether a code is one of the first surrogates of a pair. -/
def isHighSurrogate (n : Nat) : Bool :=
  0xD800 ≤ n && n < 0xDC00

/-- Whether a code is one of the second surrogates of a pair. -/
def isLowSurrogate (n : Nat) : Bool :=
  0xDC00 ≤ n && n < 0xE000

/-- The code that four hexadecimal digits spell and the characters after them, or the fault of the
four bytes that stand there instead. -/
def hexEscape (cs : List Char) : Except Fault (Nat × List Char) :=
  if (String.ofList cs).utf8ByteSize < 4 then .error ⟨.endInString, [], 0⟩
  else
    match cs with
    | a :: b :: c :: d :: rest =>
      match hexValue4? a b c d with
      | some n => .ok (n, rest)
      | none => .error ⟨.badEscape, cs, 4⟩
    | _ => .error ⟨.badEscape, cs, 4⟩

/-- The fault of the second surrogate of a pair, given the characters after the first one. -/
def lowSurrogateFault : List Char → Fault
  | [] => ⟨.endInString, [], 0⟩
  | '\\' :: [] => ⟨.endInString, [], 0⟩
  | '\\' :: 'u' :: rest =>
    match hexEscape rest with
    | .ok (_, rest) => ⟨.loneSurrogate, rest, 0⟩
    | .error fault => fault
  | '\\' :: rest => ⟨.endOfSurrogate, rest, 1⟩
  | rest => ⟨.endOfSurrogate, rest, 1⟩

/-- The fault of an escape that cannot be read, given the characters after its backslash. -/
def escapeFault : List Char → Fault
  | [] => ⟨.endInString, [], 0⟩
  | 'u' :: rest =>
    match hexEscape rest with
    | .ok (n, rest) =>
      if isLowSurrogate n then ⟨.loneSurrogate, rest, 0⟩ else lowSurrogateFault rest
    | .error fault => fault
  | rest => ⟨.badEscape, rest, 1⟩

/-- Reads the rest of a string after the characters in {lit}`before`, which are in reverse
order. -/
def scanText (before : List Char) : List Char → Except Fault (List Char × List Char)
  | [] => .error ⟨.endInString, [], 0⟩
  | '\x22' :: rest => .ok (before.reverse, rest)
  | '\\' :: 'u' :: a :: b :: c :: d :: '\\' :: 'u' :: e :: f :: g :: h :: rest =>
    let second := '\\' :: 'u' :: e :: f :: g :: h :: rest
    match hexValue4? a b c d with
    | some n =>
      if isHighSurrogate n then
        match hexValue4? e f g h with
        | some low =>
          if isLowSurrogate low then
            scanText (Char.ofNat (0x10000 + (n - 0xD800) * 0x400 + (low - 0xDC00)) :: before) rest
          else .error (lowSurrogateFault second)
        | none => .error (lowSurrogateFault second)
      else if isLowSurrogate n then .error (escapeFault ('u' :: a :: b :: c :: d :: second))
      else scanText (Char.ofNat n :: before) ('\\' :: 'u' :: e :: f :: g :: h :: rest)
    | none => .error (escapeFault ('u' :: a :: b :: c :: d :: second))
  | '\\' :: 'u' :: a :: b :: c :: d :: rest =>
    match hexValue4? a b c d with
    | some n =>
      if isHighSurrogate n || isLowSurrogate n then
        .error (escapeFault ('u' :: a :: b :: c :: d :: rest))
      else scanText (Char.ofNat n :: before) rest
    | none => .error (escapeFault ('u' :: a :: b :: c :: d :: rest))
  | '\\' :: c :: rest =>
    match escaped? c with
    | some c => scanText (c :: before) rest
    | none => .error (escapeFault (c :: rest))
  | c :: rest =>
    if c.toNat < 0x20 then .error ⟨.controlCharacter, rest, 0⟩
    else if c = '\\' then .error (escapeFault rest)
    else scanText (c :: before) rest
  termination_by structural cs => cs

/-! ## Numbers -/

/-- The fault of a number that has no digit where {lit}`rest` begins. -/
def digitFault (rest : List Char) : Fault :=
  if rest.isEmpty then ⟨.endInValue, [], 0⟩ else ⟨.badNumber, rest, 1⟩

/-- Reads the digits of the whole part: a zero that stands alone, or digits that start with
another one. -/
def scanWhole (cs : List Char) : Except Fault (List Char × List Char) :=
  let digits := cs.takeWhile Char.isDigit
  match digits with
  | [] => .error (digitFault cs)
  | '0' :: _ :: _ => .error ⟨.badNumber, cs.drop 1, 1⟩
  | _ => .ok (digits, cs.dropWhile Char.isDigit)

/-- Reads a point and the digits after it, if there is a point. -/
def scanFraction : List Char → Except Fault (Option (List Char) × List Char)
  | '.' :: rest =>
    let digits := rest.takeWhile Char.isDigit
    if digits.isEmpty then .error (digitFault rest)
    else .ok (some digits, rest.dropWhile Char.isDigit)
  | rest => .ok (none, rest)

/-- Reads the mark of an exponent, its sign and its digits, if there is a mark. -/
def scanExponent : List Char → Except Fault (Option (Bool × List Char) × List Char)
  | [] => .ok (none, [])
  | c :: rest =>
    if c = 'e' ∨ c = 'E' then
      let (negative, rest) := splitSign rest
      let digits := rest.takeWhile Char.isDigit
      if digits.isEmpty then .error (digitFault rest)
      else .ok (some (negative, digits), rest.dropWhile Char.isDigit)
    else .ok (none, c :: rest)

/-- The greatest exponent that is read to its end. -/
def maxExponent : Nat :=
  2147483647

/-- How many digits of an exponent, of value {lit}`n` so far, are left when it becomes greater than
any that is read to its end. -/
def digitsLeft (n : Nat) : List Char → Nat
  | [] => 0
  | c :: rest =>
    let next := 10 * n + digitValue c
    if maxExponent < next then rest.length else digitsLeft next rest

/-- The fault of a number out of range: behind its last digit, or behind the first one that makes
its exponent too great. -/
def rangeFault (exponent : Option (Bool × List Char)) (rest : List Char) : Fault :=
  match exponent with
  | none => ⟨.numberOutOfRange, rest, 0⟩
  | some (_, digits) =>
    ⟨.numberOutOfRange, digits.drop (digits.length - digitsLeft 0 digits) ++ rest, 0⟩

/-- Reads a number after its sign. -/
def scanNumber (negative : Bool) (cs : List Char) : Except Fault (Number × List Char) := do
  let (whole, rest) ← scanWhole cs
  let (fraction, rest) ← scanFraction rest
  let (exponent, rest) ← scanExponent rest
  match Numeral.toNumber? ⟨negative, whole, fraction, exponent⟩ with
  | some n => .ok (n, rest)
  | none => .error (rangeFault exponent rest)

/-! ## Words -/

/-- Reads the letters of a word that stands for a value. -/
def scanWord (value : Json) : (letters : List Char) → List Char → Except Fault (Token × List Char)
  | [], rest => .ok (.scalar value, rest)
  | _ :: _, [] => .error ⟨.endInValue, [], 0⟩
  | letter :: letters, c :: rest =>
    if c = letter then scanWord value letters rest else .error ⟨.badWord, c :: rest, 1⟩

/-! ## Tokens -/

/-- Whether the character is white space between tokens. -/
def isSpace (c : Char) : Bool :=
  c = ' ' || c = '\t' || c = '\n' || c = '\r'

/-- The token that a bracket or separator is. -/
def punctuation? (c : Char) : Option Token :=
  if c = '[' then some .openArray
  else if c = ']' then some .closeArray
  else if c = '\x7b' then some .openObject
  else if c = '\x7d' then some .closeObject
  else if c = ',' then some .comma
  else if c = ':' then some .colon
  else none

/-- Reads the token that starts with a character, which is no white space. -/
def scanToken (c : Char) (rest : List Char) : Except Fault (Token × List Char) :=
  match punctuation? c with
  | some token => .ok (token, rest)
  | none =>
    if c = '\x22' then
      (scanText [] rest).map fun (cs, rest) => (.text (String.ofList cs), rest)
    else if c = '-' then
      (scanNumber true rest).map fun (n, rest) => (.scalar (.number n), rest)
    else if c.isDigit then
      (scanNumber false (c :: rest)).map fun (n, rest) => (.scalar (.number n), rest)
    else if c = 't' then scanWord (.bool true) ['r', 'u', 'e'] rest
    else if c = 'f' then scanWord (.bool false) ['a', 'l', 's', 'e'] rest
    else if c = 'n' then scanWord .null ['u', 'l', 'l'] rest
    else .error ⟨.noValue, c :: rest, 1⟩

/-! ## Progress -/

/-- A string takes at least the character that ends it. -/
theorem scanText_length {before cs s rest : List Char}
    (h : scanText before cs = .ok (s, rest)) : rest.length < cs.length := by
  fun_induction scanText before cs <;> simp_all <;> grind

/-- Dropping characters makes a text no longer. -/
theorem length_dropWhile_le (p : Char → Bool) (cs : List Char) :
    (cs.dropWhile p).length ≤ cs.length :=
  (List.dropWhile_suffix p).length_le

/-- A run of characters that is not empty makes what follows it shorter. -/
theorem length_dropWhile_lt {p : Char → Bool} {cs : List Char} (h : cs.takeWhile p ≠ []) :
    (cs.dropWhile p).length < cs.length := by
  have hlen := congrArg List.length (List.takeWhile_append_dropWhile (p := p) (l := cs))
  rw [List.length_append] at hlen
  have := List.length_pos_iff.mpr h
  omega

/-- The whole part of a number takes at least one character. -/
theorem scanWhole_length {cs digits rest : List Char}
    (h : scanWhole cs = .ok (digits, rest)) : rest.length < cs.length := by
  simp only [scanWhole] at h
  split at h
  · cases h
  · cases h
  · next hempty _ =>
    cases h
    exact length_dropWhile_lt hempty

/-- The fraction of a number leaves no more than there was. -/
theorem scanFraction_length {cs rest : List Char} {fraction : Option (List Char)}
    (h : scanFraction cs = .ok (fraction, rest)) : rest.length ≤ cs.length := by
  simp only [scanFraction] at h
  split at h
  · split at h
    · cases h
    · cases h
      exact Nat.le_succ_of_le (length_dropWhile_le _ _)
  · cases h
    exact Nat.le_refl _

/-- Splitting a sign off leaves no more than there was. -/
theorem splitSign_length (cs : List Char) : (splitSign cs).2.length ≤ cs.length := by
  unfold splitSign
  split <;> simp

/-- The exponent of a number leaves no more than there was. -/
theorem scanExponent_length {cs rest : List Char} {exponent : Option (Bool × List Char)}
    (h : scanExponent cs = .ok (exponent, rest)) : rest.length ≤ cs.length := by
  unfold scanExponent at h
  split at h
  · cases h
    exact Nat.le_refl _
  · next c tail =>
    split at h
    · have hsign := splitSign_length tail
      simp only at h
      split at h
      · cases h
      · cases h
        have := length_dropWhile_le Char.isDigit (splitSign tail).2
        simp only [List.length_cons]
        omega
    · cases h
      exact Nat.le_refl _

/-- A number takes at least one character. -/
theorem scanNumber_length {negative : Bool} {cs rest : List Char} {n : Number}
    (h : scanNumber negative cs = .ok (n, rest)) : rest.length < cs.length := by
  simp only [scanNumber, bind, Except.bind] at h
  split at h
  · cases h
  · next whole hwhole =>
    split at h
    · cases h
    · next fraction hfraction =>
      split at h
      · cases h
      · next exponent hexponent =>
        split at h
        · cases h
          have h₁ := scanWhole_length hwhole
          have h₂ := scanFraction_length hfraction
          have h₃ := scanExponent_length hexponent
          omega
        · cases h

/-- A word gives its value and leaves no more than there was. -/
theorem scanWord_eq_ok {value : Json} {letters cs rest : List Char} {token : Token}
    (h : scanWord value letters cs = .ok (token, rest)) :
    token = .scalar value ∧ rest.length ≤ cs.length := by
  fun_induction scanWord value letters cs with
  | case1 => cases h; exact ⟨rfl, Nat.le_refl _⟩
  | case2 => cases h
  | case3 letters c rest ih => exact ⟨(ih h).1, Nat.le_succ_of_le (ih h).2⟩
  | case4 => cases h

/-- A token takes at least one character. -/
theorem scanToken_length {c : Char} {cs rest : List Char} {token : Token}
    (h : scanToken c cs = .ok (token, rest)) : rest.length < (c :: cs).length := by
  unfold scanToken at h
  split at h
  · cases h
    simp
  · split at h
    · cases htext : scanText [] cs with
      | error e => simp [htext, Except.map] at h
      | ok r =>
        simp only [htext, Except.map] at h
        cases h
        have := scanText_length htext
        simp only [List.length_cons]
        omega
    · split at h
      · cases hnumber : scanNumber true cs with
        | error e => simp [hnumber, Except.map] at h
        | ok r =>
          simp only [hnumber, Except.map] at h
          cases h
          have := scanNumber_length hnumber
          simp only [List.length_cons]
          omega
      · split at h
        · cases hnumber : scanNumber false (c :: cs) with
          | error e => simp [hnumber, Except.map] at h
          | ok r =>
            simp only [hnumber, Except.map] at h
            cases h
            exact scanNumber_length hnumber
        · have hword {value : Json} {letters : List Char}
              (h : scanWord value letters cs = .ok (token, rest)) :
              rest.length < (c :: cs).length :=
            Nat.lt_succ_of_le (scanWord_eq_ok h).2
          split at h
          · exact hword h
          · split at h
            · exact hword h
            · split at h
              · exact hword h
              · cases h

/-! ## Characters -/

/-- A string holds no more characters than it takes. -/
theorem length_scanText {before cs s rest : List Char}
    (h : scanText before cs = .ok (s, rest)) :
    s.length + rest.length ≤ before.length + cs.length := by
  fun_induction scanText before cs <;> simp_all <;> grind

/-- A token holds no more characters than it takes. -/
theorem textLength_scanToken {c : Char} {cs rest : List Char} {token : Token}
    (h : scanToken c cs = .ok (token, rest)) :
    token.textLength + rest.length < (c :: cs).length := by
  have hlength := scanToken_length h
  unfold scanToken at h
  split at h
  · next hpunctuation =>
    cases h
    unfold punctuation? at hpunctuation
    grind [Token.textLength]
  · split at h
    · cases htext : scanText [] cs with
      | error e => simp [htext, Except.map] at h
      | ok r =>
        simp only [htext, Except.map] at h
        cases h
        have := length_scanText htext
        simp only [Token.textLength, String.length_ofList, List.length_cons,
          List.length_nil] at *
        omega
    · split at h
      · cases hnumber : scanNumber true cs with
        | error e => simp [hnumber, Except.map] at h
        | ok r =>
          simp only [hnumber, Except.map] at h
          cases h
          simpa [Token.textLength, textLength] using hlength
      · split at h
        · cases hnumber : scanNumber false (c :: cs) with
          | error e => simp [hnumber, Except.map] at h
          | ok r =>
            simp only [hnumber, Except.map] at h
            cases h
            simpa [Token.textLength, textLength] using hlength
        · have hword {value : Json} {letters : List Char} (hvalue : value.textLength = 0)
              (h : scanWord value letters cs = .ok (token, rest)) :
              token.textLength + rest.length < (c :: cs).length := by
            rw [(scanWord_eq_ok h).1, Token.textLength, hvalue, Nat.zero_add]
            exact hlength
          split at h
          · exact hword rfl h
          · split at h
            · exact hword rfl h
            · split at h
              · exact hword rfl h
              · cases h

/-! ## Whole texts -/

/-- A token and the text from its first character on. -/
structure Located where
  /-- The token. -/
  token : Token
  /-- The characters from its first one on. -/
  text : List Char

/-- Cuts characters into tokens, up to the first fault, and puts them before those in
{lit}`result`, all in reverse order. -/
def scanFrom (result : List Located) : List Char → List Located
  | [] => result.reverse
  | c :: rest =>
    if isSpace c then scanFrom result rest
    else
      match _ : scanToken c rest with
      | .ok (token, rest') => scanFrom (⟨token, c :: rest⟩ :: result) rest'
      | .error fault => (⟨.fault (c = '\x22') fault, c :: rest⟩ :: result).reverse
  termination_by cs => cs.length
  decreasing_by
  · simp
  · next h => exact scanToken_length h

/-- Cuts a text into tokens, up to the first fault. -/
def scan (s : String) : List Located :=
  scanFrom [] s.toList

/-- The number of characters in the texts of tokens. -/
def textLengthTokens : List Located → Nat
  | [] => 0
  | located :: rest => located.token.textLength + textLengthTokens rest

/-- Tokens that are put together have the characters of both parts. -/
theorem textLengthTokens_append (xs ys : List Located) :
    textLengthTokens (xs ++ ys) = textLengthTokens xs + textLengthTokens ys := by
  induction xs with
  | nil => simp [textLengthTokens]
  | cons x xs ih => simp only [List.cons_append, textLengthTokens, ih]; omega

/-- Tokens in reverse order have the same characters. -/
theorem textLengthTokens_reverse (xs : List Located) :
    textLengthTokens xs.reverse = textLengthTokens xs := by
  induction xs with
  | nil => rfl
  | cons x xs ih =>
    simp only [List.reverse_cons, textLengthTokens_append, textLengthTokens, ih]
    omega

/-- The tokens of characters hold no more characters than there are. -/
theorem textLength_scanFrom (result : List Located) (cs : List Char) :
    textLengthTokens (scanFrom result cs) ≤ textLengthTokens result + cs.length := by
  fun_induction scanFrom result cs with
  | case1 result =>
    rw [textLengthTokens_reverse]
    exact Nat.le_add_right _ _
  | case2 result c rest _ ih =>
    simp only [List.length_cons]
    omega
  | case3 result c rest _ token rest' hscan ih =>
    have := textLength_scanToken hscan
    simp only [textLengthTokens] at *
    omega
  | case4 result c rest _ fault =>
    rw [textLengthTokens_reverse]
    simp only [textLengthTokens, Token.textLength, Nat.zero_add]
    exact Nat.le_add_right _ _

/-- The tokens of a text hold no more characters than the text. -/
theorem textLength_scan (s : String) : textLengthTokens (scan s) ≤ s.length := by
  have hlength := textLength_scanFrom [] s.toList
  have hnil : textLengthTokens [] = 0 := rfl
  rwa [hnil, Nat.zero_add, String.length_toList] at hlength

end Intake.Json
