/-!
# White space

The characters of the Unicode property White_Space, and the two ways of trimming a text.

Main results:

- Definition {lit}`isBlank` lists the property.
- Definition {lit}`trim` removes white space from both ends of a text, and theorem
  {lit}`stripBoth_append` says what {lit}`stripBoth` leaves, of which it is a case.
-/

namespace Intake.Text

/-- The characters with the Unicode property White_Space. -/
def isBlank (c : Char) : Bool :=
  let n := c.toNat
  (9 ≤ n && n ≤ 13) || n = 0x20 || n = 0x85 || n = 0xA0 || n = 0x1680
    || (0x2000 ≤ n && n ≤ 0x200A) || n = 0x2028 || n = 0x2029 || n = 0x202F
    || n = 0x205F || n = 0x3000

/-- Removes the longest run of characters that satisfy {lean}`p` from both ends. -/
def stripBoth (p : Char → Bool) (cs : List Char) : List Char :=
  ((cs.dropWhile p).reverse.dropWhile p).reverse

/-- The characters neither begin nor end with one that satisfies {lean}`p`. -/
def Bare (p : Char → Bool) (cs : List Char) : Prop :=
  (∀ c, cs.head? = some c → p c = false) ∧ ∀ c, cs.getLast? = some c → p c = false

instance (p : Char → Bool) (cs : List Char) : Decidable (Bare p cs) :=
  decidable_of_iff ((cs.head?.all fun c => !p c) = true ∧ (cs.getLast?.all fun c => !p c) = true)
    (by simp [Bare, Option.all_eq_true])

/-- What stands around bare characters is removed, and no more than that. -/
theorem stripBoth_append {p : Char → Bool} {before cs after : List Char}
    (hbefore : ∀ c ∈ before, p c = true) (hcs : Bare p cs) (hafter : ∀ c ∈ after, p c = true) :
    stripBoth p (before ++ cs ++ after) = cs := by
  have hafter' : ∀ c ∈ after.reverse, p c = true :=
    fun c hc => hafter c (List.mem_reverse.mp hc)
  rw [stripBoth, List.append_assoc, List.dropWhile_append_of_pos hbefore]
  cases cs with
  | nil =>
    rw [List.nil_append, ← List.append_nil after, List.dropWhile_append_of_pos hafter]
    rfl
  | cons c rest =>
    have hfirst : p c = false := hcs.1 c rfl
    rw [List.cons_append, List.dropWhile_cons_of_neg (by simp [hfirst]), ← List.cons_append,
      List.reverse_append, List.dropWhile_append_of_pos hafter']
    cases hreverse : (c :: rest).reverse with
    | nil => exact absurd (List.reverse_eq_nil_iff.mp hreverse) (List.cons_ne_nil c rest)
    | cons d ds =>
      have hlast : p d = false := hcs.2 d (by rw [← List.head?_reverse, hreverse, List.head?_cons])
      rw [List.dropWhile_cons_of_neg (by simp [hlast]), ← hreverse, List.reverse_reverse]

/-- Removes white space from both ends of a list of characters. -/
def trimChars (cs : List Char) : List Char :=
  stripBoth isBlank cs

/-- Removes white space from both ends of a text. -/
def trim (s : String) : String :=
  String.ofList (trimChars s.toList)

end Intake.Text
