import Intake.Proofs.Outcome
import Intake.Request.Clean

/-!
# What cleaning does

Cleaning drops malformed keys while it measures the depth.  The two tasks are told apart here: what
remains of a value is found without regard to depth, and cleaning gives it as long as it is not too
deep.

Main results:

- Definitions {lit}`Json.strip` and {lit}`Json.levels` take the malformed keys out of a value and
  count the objects and arrays that stand inside one another.
- Theorem {lit}`Json.clean_eq`: cleaning gives the value without malformed keys, if that does not
  have too many levels.
- Theorem {lit}`Json.strip_strip`: nothing is taken out a second time.
-/

namespace Intake

/-- The value, as long as its levels are allowed at the depth. -/
def Limits.within {α : Type} (limits : Limits) (depth levels : Nat) (value : α) :
    Except RequestError α :=
  if depth + levels ≤ limits.maxDepth + 1 then .ok value else .error (.tooDeep limits.maxDepth)

namespace Json

/-! ## Levels -/

mutual

/-- The number of objects and arrays of a value that stand inside one another. -/
def levels : Json → Nat
  | .object entries => levelsEntries entries + 1
  | .array items => levelsItems items + 1
  | _ => 0
termination_by structural value => value

/-- The greatest number of levels of an item. -/
def levelsItems : List Json → Nat
  | [] => 0
  | item :: rest => max (levels item) (levelsItems rest)
termination_by structural items => items

/-- The greatest number of levels of the value of an entry. -/
def levelsEntries : List (String × Json) → Nat
  | [] => 0
  | (_, value) :: rest => max (levels value) (levelsEntries rest)
termination_by structural entries => entries

end

/-! ## Malformed keys -/

section

variable (maxKeyLength : Nat)

mutual

/-- The value without the entries under malformed keys, at every depth. -/
def strip : Json → Json
  | .object entries => .object (stripEntries entries)
  | .array items => .array (stripItems items)
  | value => value
termination_by structural value => value

/-- The items of an array without the entries under malformed keys. -/
def stripItems : List Json → List Json
  | [] => []
  | item :: rest => strip item :: stripItems rest
termination_by structural items => items

/-- The entries under well-formed keys, with those in their values. -/
def stripEntries : List (String × Json) → List (String × Json)
  | [] => []
  | (key, value) :: rest =>
    if isValidKey maxKeyLength key then (key, strip value) :: stripEntries rest
    else stripEntries rest
termination_by structural entries => entries

end

mutual

/-- Nothing is taken out a second time. -/
theorem strip_strip (value : Json) :
    strip maxKeyLength (strip maxKeyLength value) = strip maxKeyLength value := by
  match value with
  | .object entries =>
      have hentries := stripEntries_stripEntries entries
      simp only [strip, hentries]
  | .array items =>
      have hitems := stripItems_stripItems items
      simp only [strip, hitems]
  | .null | .bool _ | .number _ | .string _ => rfl
termination_by structural value

theorem stripItems_stripItems (items : List Json) :
    stripItems maxKeyLength (stripItems maxKeyLength items) = stripItems maxKeyLength items := by
  match items with
  | [] => rfl
  | item :: rest =>
      have hitem := strip_strip item
      have hrest := stripItems_stripItems rest
      simp only [stripItems, hitem, hrest]
termination_by structural items

theorem stripEntries_stripEntries (entries : List (String × Json)) :
    stripEntries maxKeyLength (stripEntries maxKeyLength entries) =
      stripEntries maxKeyLength entries := by
  match entries with
  | [] => rfl
  | (key, value) :: rest =>
      have hvalue := strip_strip value
      have hrest := stripEntries_stripEntries rest
      by_cases hkey : isValidKey maxKeyLength key = true
      · simp only [stripEntries, hkey, if_true, hvalue, hrest]
      · simp only [stripEntries, hkey, if_false, Bool.false_eq_true, hrest]
termination_by structural entries

end

end

/-! ## Cleaning -/

section

variable {limits : Limits}

/-- A function on what is within the limits. -/
theorem map_within {α β : Type} (depth levels : Nat) (value : α) (f : α → β) :
    (limits.within depth levels value).map f = limits.within depth levels (f value) := by
  unfold Limits.within
  split <;> rfl

/-- Two values are within the limits when the one with more levels is. -/
theorem within_bind {α β γ : Type} (depth m n : Nat) (x : α) (y : β) (f : α → β → γ) :
    (limits.within depth m x >>= fun a => limits.within depth n y >>= fun b => .ok (f a b)) =
      limits.within depth (max m n) (f x y) := by
  unfold Limits.within
  by_cases hm : depth + m ≤ limits.maxDepth + 1
  · by_cases hn : depth + n ≤ limits.maxDepth + 1
    · have hmax : depth + max m n ≤ limits.maxDepth + 1 := by omega
      simp only [if_pos hm, if_pos hn, if_pos hmax]
      rfl
    · have hmax : ¬ depth + max m n ≤ limits.maxDepth + 1 := by omega
      simp only [if_pos hm, if_neg hn, if_neg hmax]
      rfl
  · have hmax : ¬ depth + max m n ≤ limits.maxDepth + 1 := by omega
    simp only [if_neg hm, if_neg hmax]
    rfl

/-- An object or an array is one level more than what stands in it. -/
theorem ite_within {α : Type} {depth : Nat} (hdepth : depth ≤ limits.maxDepth + 1) (n : Nat)
    (value : α) {x : Except RequestError α}
    (hx : depth + 1 ≤ limits.maxDepth + 1 → x = limits.within (depth + 1) n value) :
    (if limits.maxDepth < depth then .error (.tooDeep limits.maxDepth) else x) =
      limits.within depth (n + 1) value := by
  by_cases hlimit : limits.maxDepth < depth
  · have hn : ¬ depth + (n + 1) ≤ limits.maxDepth + 1 := by omega
    rw [if_pos hlimit, Limits.within, if_neg hn]
  · rw [if_neg hlimit, hx (by omega), Limits.within, Limits.within]
    have hn : depth + 1 + n = depth + (n + 1) := by omega
    rw [hn]

mutual

/-- Cleaning gives the value without malformed keys, if that does not have too many levels. -/
theorem clean_eq {depth : Nat} (hdepth : depth ≤ limits.maxDepth + 1) (value : Json) :
    clean limits depth value =
      limits.within depth (strip limits.maxKeyLength value).levels
        (strip limits.maxKeyLength value) := by
  match value with
  | .object entries =>
      rw [clean, strip, levels]
      refine ite_within hdepth _ _ fun hinner => ?_
      rw [cleanEntries_eq hinner entries, map_within]
  | .array items =>
      rw [clean, strip, levels]
      refine ite_within hdepth _ _ fun hinner => ?_
      rw [cleanItems_eq hinner items, map_within]
  | .null | .bool _ | .number _ | .string _ =>
      simp only [clean, strip, levels, Limits.within, Nat.add_zero, if_pos hdepth]
termination_by structural value

theorem cleanItems_eq {depth : Nat} (hdepth : depth ≤ limits.maxDepth + 1) (items : List Json) :
    cleanItems limits depth items =
      limits.within depth (levelsItems (stripItems limits.maxKeyLength items))
        (stripItems limits.maxKeyLength items) := by
  match items with
  | [] =>
      simp only [cleanItems, stripItems, levelsItems, Limits.within, Nat.add_zero, if_pos hdepth]
  | item :: rest =>
      rw [cleanItems, clean_eq hdepth item, cleanItems_eq hdepth rest, stripItems, levelsItems]
      exact within_bind depth _ _ _ _ List.cons
termination_by structural items

theorem cleanEntries_eq {depth : Nat} (hdepth : depth ≤ limits.maxDepth + 1)
    (entries : List (String × Json)) :
    cleanEntries limits depth entries =
      limits.within depth (levelsEntries (stripEntries limits.maxKeyLength entries))
        (stripEntries limits.maxKeyLength entries) := by
  match entries with
  | [] =>
      simp only [cleanEntries, stripEntries, levelsEntries, Limits.within, Nat.add_zero,
        if_pos hdepth]
  | (key, value) :: rest =>
      by_cases hkey : isValidKey limits.maxKeyLength key = true
      · rw [cleanEntries, if_pos hkey, clean_eq hdepth value, cleanEntries_eq hdepth rest,
          stripEntries, if_pos hkey, levelsEntries]
        exact within_bind depth _ _ _ _ fun value rest => (key, value) :: rest
      · rw [cleanEntries, if_neg hkey, cleanEntries_eq hdepth rest, stripEntries, if_neg hkey]
termination_by structural entries

end

/-- The entries of a body without malformed keys are cleaned as long as the body does not have too
many levels. -/
theorem cleanObject_eq (limits : Limits) (entries : List (String × Json)) :
    cleanObject limits 1 entries =
      limits.within 1 (strip limits.maxKeyLength (.object entries)).levels
        (stripEntries limits.maxKeyLength entries) := by
  rw [cleanObject, strip, levels]
  exact ite_within (by omega) _ _ fun hinner => cleanEntries_eq hinner entries

end

end Json

end Intake
