import Intake.Json.Token

/-!
# Reading JSON texts

The tokens of a text are read one by one while the arrays and objects that are still open stand
on a stack, so that the depth of a value is the height of the stack.  A text is refused at its
first fault.

Main results:

- {lit}`Json.Progress` says what may come next and what is still open.
- Definition {lit}`Json.readOrdered` reads a text and keeps the entries of objects in the order of
  the text, repeated keys included.
- Theorem {lit}`Json.textLength_readOrdered` says that the texts in a value are no longer than the
  text that it is read from.
-/

namespace Intake.Json

/-- An array or object that is still open, with its parts in reverse order. -/
inductive Frame where
  /-- An array and its items so far. -/
  | array (items : List Json)
  /-- An object, its entries so far and the key of the value that comes next. -/
  | object (entries : List (String × Json)) (key : String)

/-- What the tokens so far leave open. -/
inductive Progress where
  /-- A value must come next. -/
  | atValue (stack : List Frame)
  /-- An array has just been opened. -/
  | atFirstItem (stack : List Frame)
  /-- An object has just been opened. -/
  | atFirstKey (stack : List Frame)
  /-- A key must come next. -/
  | atKey (stack : List Frame) (entries : List (String × Json))
  /-- A colon must come next. -/
  | atColon (stack : List Frame) (entries : List (String × Json)) (key : String)
  /-- A value is complete. -/
  | complete (stack : List Frame) (value : Json)

/-! ## Faults -/

/-- The fault of a token that stands where a value has to: its own, or that it starts none. -/
def noValueFault (stack : List Frame) (located : Located) : Fault :=
  match stack, located.token with
  | _, .fault _ fault => fault
  | .array (_ :: _) :: _, .closeArray => ⟨.trailingComma, located.text, 1⟩
  | _, _ => ⟨.noValue, located.text, 1⟩

/-- The fault of a token that stands where a key has to. -/
def noKeyFault (located : Located) : Fault :=
  match located.token with
  | .fault true fault => fault
  | _ => ⟨.noKey, located.text, 1⟩

/-- What is wrong with a token after a complete value. -/
def noSeparatorCause : (stack : List Frame) → SyntaxCause
  | [] => .trailingText
  | .array _ :: _ => .noArraySeparator
  | .object _ _ :: _ => .noObjectSeparator

/-- What is wrong if the text ends. -/
def Progress.endCause : Progress → SyntaxCause
  | .atValue _ | .atKey _ _ | .complete [] _ => .endInValue
  | .atFirstItem _ | .complete (.array _ :: _) _ => .endInArray
  | .atFirstKey _ | .atColon _ _ _ | .complete (.object _ _ :: _) _ => .endInObject

/-! ## Steps -/

/-- Reads the first token of a value; at most {lit}`limit` arrays and objects may be open at
once. -/
def beginValue (limit : Nat) (stack : List Frame) (located : Located) : Except Fault Progress :=
  match located.token with
  | .openArray =>
    if stack.length < limit then .ok (.atFirstItem stack)
    else .error ⟨.tooDeep, located.text, 1⟩
  | .openObject =>
    if stack.length < limit then .ok (.atFirstKey stack)
    else .error ⟨.tooDeep, located.text, 1⟩
  | .text s => .ok (.complete stack (.string s))
  | .scalar value => .ok (.complete stack value)
  | _ => .error (noValueFault stack located)

/-- Reads the token after a complete value. -/
def endValue (stack : List Frame) (value : Json) (located : Located) : Except Fault Progress :=
  match stack, located.token with
  | .array items :: stack, .comma => .ok (.atValue (.array (value :: items) :: stack))
  | .array items :: stack, .closeArray =>
    .ok (.complete stack (.array (value :: items).reverse))
  | .object entries key :: stack, .comma => .ok (.atKey stack ((key, value) :: entries))
  | .object entries key :: stack, .closeObject =>
    .ok (.complete stack (.object ((key, value) :: entries).reverse))
  | stack, _ => .error ⟨noSeparatorCause stack, located.text, 1⟩

/-- Reads one token. -/
def Progress.step (limit : Nat) (progress : Progress) (located : Located) :
    Except Fault Progress :=
  match progress, located.token with
  | .atValue stack, _ => beginValue limit stack located
  | .atFirstItem stack, .closeArray => .ok (.complete stack (.array []))
  | .atFirstItem stack, _ => beginValue limit (.array [] :: stack) located
  | .atFirstKey stack, .closeObject => .ok (.complete stack (.object []))
  | .atFirstKey stack, .text key => .ok (.atColon stack [] key)
  | .atFirstKey _, _ => .error (noKeyFault located)
  | .atKey stack entries, .text key => .ok (.atColon stack entries key)
  | .atKey _ _, .closeObject => .error ⟨.trailingComma, located.text, 1⟩
  | .atKey _ _, _ => .error (noKeyFault located)
  | .atColon stack entries key, .colon => .ok (.atValue (.object entries key :: stack))
  | .atColon _ _ _, _ => .error ⟨.noColon, located.text, 1⟩
  | .complete stack value, _ => endValue stack value located

/-- Reads the tokens that follow, to the end of the text. -/
def Progress.run (limit : Nat) : Progress → List Located → Except Fault Json
  | .complete [] value, [] => .ok value
  | progress, [] => .error ⟨progress.endCause, [], 0⟩
  | progress, located :: rest =>
    match progress.step limit located with
    | .ok progress => run limit progress rest
    | .error fault => .error fault

/-! ## Whole texts -/

/-- The number of arrays and objects that a text may nest. -/
def depthLimit : Nat :=
  127

/-- Reads a text with at most {lit}`limit` nested arrays and objects; the entries of an object
stay in the order of the text. -/
def readWithin (limit : Nat) (s : String) : Except SyntaxError Json :=
  ((Progress.atValue []).run limit (scan s)).mapError (·.toError s)

/-- Reads a text; the entries of an object stay in the order of the text. -/
def readOrdered (s : String) : Except SyntaxError Json :=
  readWithin depthLimit s

/-! ## Characters -/

/-- The number of characters in the texts of a frame. -/
def Frame.textLength : Frame → Nat
  | .array items => textLengthItems items
  | .object entries key => textLengthEntries entries + key.length

/-- The number of characters in the texts of all that is open. -/
def textLengthStack : List Frame → Nat
  | [] => 0
  | frame :: stack => frame.textLength + textLengthStack stack

/-- The number of characters in the texts of all that has been read. -/
def Progress.textLength : Progress → Nat
  | .atValue stack | .atFirstItem stack | .atFirstKey stack => textLengthStack stack
  | .atKey stack entries => textLengthStack stack + textLengthEntries entries
  | .atColon stack entries key =>
    textLengthStack stack + textLengthEntries entries + key.length
  | .complete stack value => textLengthStack stack + value.textLength

/-- The first token of a value adds its own characters. -/
theorem textLength_beginValue {limit : Nat} {stack : List Frame} {located : Located}
    {progress : Progress} (h : beginValue limit stack located = .ok progress) :
    progress.textLength ≤ textLengthStack stack + located.token.textLength := by
  unfold beginValue at h
  split at h
  · split at h <;> cases h
    exact Nat.le_add_right _ _
  · split at h <;> cases h
    exact Nat.le_add_right _ _
  · next htoken =>
    cases h
    rw [htoken]
    exact Nat.le_refl _
  · next htoken =>
    cases h
    rw [htoken]
    exact Nat.le_refl _
  · cases h

/-- The token after a complete value adds no characters. -/
theorem textLength_endValue {stack : List Frame} {value : Json} {located : Located}
    {progress : Progress} (h : endValue stack value located = .ok progress) :
    progress.textLength ≤ textLengthStack stack + value.textLength := by
  unfold endValue at h
  split at h <;> cases h <;>
    simp only [Progress.textLength, textLengthStack, Frame.textLength, Json.textLength,
      textLengthItems, textLengthEntries, textLengthItems_reverse,
      textLengthEntries_reverse] <;>
    omega

/-- A token adds at most its own characters. -/
theorem Progress.textLength_step {limit : Nat} {progress next : Progress} {located : Located}
    (h : progress.step limit located = .ok next) :
    next.textLength ≤ progress.textLength + located.token.textLength := by
  unfold Progress.step at h
  split at h
  · exact textLength_beginValue h
  · cases h
    exact Nat.le_add_right _ _
  · have := textLength_beginValue h
    simp only [textLengthStack, Frame.textLength, textLengthItems, Nat.zero_add] at this
    exact this
  · cases h
    exact Nat.le_add_right _ _
  · next htoken =>
    cases h
    simp only [Progress.textLength, textLengthEntries, htoken, Token.textLength]
    omega
  · cases h
  · next htoken =>
    cases h
    simp only [Progress.textLength, htoken, Token.textLength]
    omega
  · cases h
  · cases h
  · cases h
    simp only [Progress.textLength, textLengthStack, Frame.textLength]
    omega
  · cases h
  · exact Nat.le_trans (textLength_endValue h) (Nat.le_add_right _ _)

/-- The value at the end holds no more characters than what has been read and what follows. -/
theorem Progress.textLength_run {limit : Nat} {progress : Progress} {tokens : List Located}
    {value : Json} (h : progress.run limit tokens = .ok value) :
    value.textLength ≤ progress.textLength + textLengthTokens tokens := by
  fun_induction Progress.run limit progress tokens with
  | case1 value =>
    cases h
    simp only [Progress.textLength, textLengthStack]
    omega
  | case2 => cases h
  | case3 progress located rest next hstep ih =>
    have := ih h
    have := Progress.textLength_step hstep
    simp only [textLengthTokens] at *
    omega
  | case4 => cases h

/-- The texts in a value are no longer than the text that it is read from. -/
theorem textLength_readOrdered {s : String} {value : Json} (h : readOrdered s = .ok value) :
    value.textLength ≤ s.length := by
  unfold readOrdered readWithin at h
  cases hrun : (Progress.atValue []).run depthLimit (scan s) with
  | error fault => rw [hrun] at h; cases h
  | ok v =>
    rw [hrun] at h
    cases h
    have hlength := Progress.textLength_run hrun
    have hnil : (Progress.atValue []).textLength = 0 := rfl
    have hscan := textLength_scan s
    omega

end Intake.Json
