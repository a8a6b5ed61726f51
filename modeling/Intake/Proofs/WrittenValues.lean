import Intake.Json.Reader
import Intake.Json.Writer
import Intake.Proofs.Cleaning

/-!
# Values that are read back

A value that is written as a text is read back as it was, entry by entry and repeated keys included,
as long as it nests no deeper than a text may and has no numbers in it, whose digits are a matter of
their own.

Main results:

- Theorem {lit}`Json.scanToken_quote`: a text that is quoted is scanned as itself, whatever follows.
- Definition {lit}`Json.Progress.read` reads characters from a given state on, and theorem
  {lit}`Json.Progress.read_step` takes one token off.
- Theorem {lit}`Json.readOrdered_write`: a value without numbers is read back.
-/

namespace Intake.Json

/-! ## Quoted texts -/

section

variable {before rest : List Char}

theorem scanText_escape {mark c : Char} (hmark : mark ≠ 'u') (h : escaped? mark = some c) :
    scanText before ('\\' :: mark :: rest) = scanText (c :: before) rest := by
  rw [scanText]
  · rw [h]
  all_goals grind

theorem scanText_plain {c : Char} (hquote : c ≠ '\x22') (hslash : c ≠ '\\')
    (hcontrol : ¬ c.toNat < 0x20) :
    scanText before (c :: rest) = scanText (c :: before) rest := by
  rw [scanText]
  · rw [if_neg hcontrol, if_neg hslash]
  all_goals grind

/-- Four digits below the surrogates stand for their character, also when a second escape that
might complete a pair comes next. -/
theorem scanText_code (before rest : List Char) {a b c d : Char} {n : Nat}
    (h : hexValue4? a b c d = some n) (hn : n < 0xD800) :
    scanText before ('\\' :: 'u' :: a :: b :: c :: d :: rest) =
      scanText (Char.ofNat n :: before) rest := by
  have hhigh : isHighSurrogate n = false := by grind [isHighSurrogate]
  have hlow : isLowSurrogate n = false := by grind [isLowSurrogate]
  conv_lhs => unfold scanText
  split <;> grind

/-- The digits of the codes of control characters spell them. -/
theorem hexValue4?_toDigits :
    (∀ n < 16, hexValue4? '0' '0' '0' (Nat.digitChar n) = some n) ∧
      ∀ n < 32, 16 ≤ n → Nat.toDigits 16 n = ['1', Nat.digitChar (n % 16)] ∧
        hexValue4? '0' '0' '1' (Nat.digitChar (n % 16)) = some n := by
  decide

/-- A quoted character is scanned as itself. -/
theorem scanText_quoteChar (c : Char) :
    scanText before (quoteChar c ++ rest) = scanText (c :: before) rest := by
  unfold quoteChar
  -- Seven characters have marks of their own.
  iterate 7
    split
    · next hc =>
      rw [hc]
      exact scanText_escape (by decide) rfl
  split
  · next hlow =>
    have hcode := scanText_code before rest (hexValue4?_toDigits.1 c.toNat hlow) (by omega)
    rw [Char.ofNat_toNat] at hcode
    rw [Nat.toDigits_of_lt_base hlow]
    exact hcode
  split
  · next hlow hcontrol =>
    obtain ⟨hdigits, hvalue⟩ := hexValue4?_toDigits.2 c.toNat hcontrol (Nat.not_lt.mp hlow)
    have hcode := scanText_code before rest hvalue (by omega)
    rw [Char.ofNat_toNat] at hcode
    rw [hdigits]
    exact hcode
  · next hquote hslash _ _ _ _ _ _ hcontrol => exact scanText_plain hquote hslash hcontrol

/-- Quoted characters are scanned as themselves, up to the mark that ends them. -/
theorem scanText_quoteChars (cs : List Char) :
    scanText before (cs.flatMap quoteChar ++ '\x22' :: rest) =
      .ok (before.reverse ++ cs, rest) := by
  induction cs generalizing before with
  | nil => simp [scanText]
  | cons c cs ih =>
      rw [List.flatMap_cons, List.append_assoc, scanText_quoteChar, ih, List.reverse_cons,
        List.append_assoc]
      rfl

/-- A quoted text is scanned as itself, whatever follows. -/
theorem scanToken_quote (s : String) :
    scanToken '\x22' (s.toList.flatMap quoteChar ++ '\x22' :: rest) = .ok (.text s, rest) := by
  change Except.map _ (scanText [] (s.toList.flatMap quoteChar ++ '\x22' :: rest)) = _
  rw [scanText_quoteChars, List.reverse_nil, List.nil_append]
  simp only [Except.map, String.ofList_toList]

end

/-! ## Reading characters -/

theorem scanFrom_of_scanToken {result : List Located} {c : Char} {cs rest : List Char}
    {token : Token} (hspace : isSpace c = false) (htoken : scanToken c cs = .ok (token, rest)) :
    scanFrom result (c :: cs) = scanFrom (⟨token, c :: cs⟩ :: result) rest := by
  rw [scanFrom, hspace, if_neg Bool.false_ne_true]
  split
  · next heq =>
    rw [htoken] at heq
    cases heq
    rfl
  · next heq =>
    rw [htoken] at heq
    cases heq

theorem scanFrom_append (result first : List Located) (cs : List Char) :
    scanFrom (result ++ first) cs = first.reverse ++ scanFrom result cs := by
  fun_induction scanFrom result cs with
  | case1 result => rw [scanFrom, List.reverse_append]
  | case2 result c rest hspace ih => rw [scanFrom, if_pos hspace, ih]
  | case3 result c rest hspace token rest' hscan ih =>
      rw [scanFrom_of_scanToken (eq_false_of_ne_true hspace) hscan]
      exact ih
  | case4 result c rest hspace fault hscan =>
      rw [scanFrom, if_neg hspace]
      split
      · next heq =>
        rw [hscan] at heq
        cases heq
      · next heq =>
        rw [hscan] at heq
        cases heq
        rw [← List.cons_append, List.reverse_append]

namespace Progress

/-- What is read when the characters come next. -/
def read (limit : Nat) (progress : Progress) (cs : List Char) : Except Fault Json :=
  progress.run limit (scanFrom [] cs)

variable {limit : Nat} {progress next : Progress}

/-- Reading takes one token off. -/
theorem read_step {c : Char} {cs rest : List Char} {token : Token} (hspace : isSpace c = false)
    (htoken : scanToken c cs = .ok (token, rest))
    (hstep : ∀ text, progress.step limit ⟨token, text⟩ = .ok next) :
    progress.read limit (c :: cs) = next.read limit rest := by
  have hscan : scanFrom [] (c :: cs) = ⟨token, c :: cs⟩ :: scanFrom [] rest := by
    rw [scanFrom_of_scanToken hspace htoken]
    exact scanFrom_append [] [⟨token, c :: cs⟩] rest
  rw [read, hscan]
  cases progress <;> rw [run] <;> simp only [hstep] <;> rfl

/-- The state is one in which a value comes next, on top of the stack. -/
def Awaits (limit : Nat) (stack : List Frame) (progress : Progress) : Prop :=
  ∀ located, located.token ≠ .closeArray →
    progress.step limit located = beginValue limit stack located

theorem awaits_atValue (stack : List Frame) : (atValue stack).Awaits limit stack :=
  fun _ _ => rfl

theorem awaits_atFirstItem (stack : List Frame) :
    (atFirstItem stack).Awaits limit (.array [] :: stack) := by
  intro located htoken
  unfold step
  split <;> grind

end Progress

/-! ## Values -/

mutual

/-- There are no numbers in the value, at any depth. -/
def Numberless : Json → Prop
  | .number _ => False
  | .array items => NumberlessItems items
  | .object entries => NumberlessEntries entries
  | _ => True
termination_by structural value => value

/-- There are no numbers in the items. -/
def NumberlessItems : List Json → Prop
  | [] => True
  | item :: rest => Numberless item ∧ NumberlessItems rest
termination_by structural items => items

/-- There are no numbers in the values of the entries. -/
def NumberlessEntries : List (String × Json) → Prop
  | [] => True
  | (_, value) :: rest => Numberless value ∧ NumberlessEntries rest
termination_by structural entries => entries

end

theorem writeItems_eq_map (items : List Json) : writeItems items = items.map write := by
  induction items with
  | nil => rfl
  | cons item rest ih => rw [writeItems, ih, List.map_cons]

/-- The characters of an entry. -/
def entryChars (entry : String × Json) : List Char :=
  quoteChars entry.1.toList ++ ':' :: entry.2.write.toList

theorem toList_writeEntries (entries : List (String × Json)) :
    (writeEntries entries).map String.toList = entries.map entryChars := by
  induction entries with
  | nil => rfl
  | cons entry rest ih =>
      obtain ⟨key, value⟩ := entry
      rw [writeEntries, List.map_cons, ih, List.map_cons, entryChars, quote, String.toList_append,
        String.toList_append, String.toList_ofList, List.append_assoc]
      rfl

theorem intercalate_cons {α : Type} (separator : α) (first : List α) (others : List (List α)) :
    [separator].intercalate (first :: others) = first ++ others.flatMap (separator :: ·) := by
  induction others generalizing first with
  | nil => simp
  | cons second others ih =>
      rw [List.intercalate_cons_cons, ih, List.flatMap_cons, List.append_assoc]
      rfl

/-- The characters of an array that has items. -/
theorem toList_write_array_cons (item : Json) (items : List Json) :
    (Json.array (item :: items)).write.toList =
      '[' :: (item.write.toList ++ items.flatMap (fun item => ',' :: item.write.toList) ++
        [']']) := by
  rw [write, writeItems_eq_map]
  simp [intercalate_cons, List.flatMap_map]

/-- The characters of an object that has entries. -/
theorem toList_write_object_cons (entry : String × Json) (entries : List (String × Json)) :
    (Json.object (entry :: entries)).write.toList =
      '\x7b' :: (entryChars entry ++ entries.flatMap (fun entry => ',' :: entryChars entry) ++
        ['\x7d']) := by
  rw [write, String.toList_append, String.toList_append, String.toList_intercalate,
    toList_writeEntries]
  simp [intercalate_cons, List.flatMap_map]

/-! ## Values read back -/

namespace Progress

variable {limit : Nat} {stack : List Frame} {progress next : Progress}

/-- Where a value comes next, its first token is taken off. -/
theorem Awaits.read_begin {c : Char} {cs rest : List Char} {token : Token}
    (hawaits : progress.Awaits limit stack) (hspace : isSpace c = false)
    (htoken : scanToken c cs = .ok (token, rest)) (hclose : token ≠ .closeArray)
    (hbegin : ∀ text, beginValue limit stack ⟨token, text⟩ = .ok next) :
    progress.read limit (c :: cs) = next.read limit rest :=
  read_step hspace htoken fun text => (hawaits ⟨token, text⟩ hclose).trans (hbegin text)

/-- Where a value comes next, the bracket of an array is taken off. -/
theorem Awaits.read_openArray (hawaits : progress.Awaits limit stack)
    (hdepth : stack.length < limit) (cs : List Char) :
    progress.read limit ('[' :: cs) = (atFirstItem stack).read limit cs :=
  have htoken : scanToken '[' cs = .ok (.openArray, cs) := rfl
  hawaits.read_begin rfl htoken nofun fun _ => if_pos hdepth

/-- Where a value comes next, the brace of an object is taken off. -/
theorem Awaits.read_openObject (hawaits : progress.Awaits limit stack)
    (hdepth : stack.length < limit) (cs : List Char) :
    progress.read limit ('\x7b' :: cs) = (atFirstKey stack).read limit cs :=
  have htoken : scanToken '\x7b' cs = .ok (.openObject, cs) := rfl
  hawaits.read_begin rfl htoken nofun fun _ => if_pos hdepth

/-- After an item, the comma is taken off. -/
theorem read_itemComma (done : List Json) (last : Json) (cs : List Char) :
    (complete (.array done :: stack) last).read limit (',' :: cs) =
      (atValue (.array (last :: done) :: stack)).read limit cs :=
  read_step rfl rfl fun _ => rfl

/-- After an entry, the comma is taken off. -/
theorem read_entryComma (done : List (String × Json)) (last : String × Json) (cs : List Char) :
    (complete (.object done last.1 :: stack) last.2).read limit (',' :: cs) =
      (atKey stack (last :: done)).read limit cs :=
  read_step rfl rfl fun _ => rfl

/-- Where a key may come next, the key and the colon of an entry are taken off. -/
theorem read_entryChars {entries : List (String × Json)} (entry : String × Json)
    {rest : List Char} (hkey : ∀ text, progress.step limit ⟨.text entry.1, text⟩ =
      .ok (atColon stack entries entry.1)) :
    progress.read limit (entryChars entry ++ rest) =
      (atValue (.object entries entry.1 :: stack)).read limit (entry.2.write.toList ++ rest) := by
  have htext : entryChars entry ++ rest =
      '\x22' :: (entry.1.toList.flatMap quoteChar ++
        '\x22' :: ':' :: (entry.2.write.toList ++ rest)) := by
    simp [entryChars, quoteChars]
  rw [htext, read_step rfl (scanToken_quote entry.1) hkey]
  exact read_step rfl rfl fun _ => rfl

end Progress

section

open Progress

variable {limit : Nat}

mutual

/-- The characters of a value are read as the value, wherever one comes next. -/
theorem read_write (value : Json) (hvalue : value.Numberless) {stack : List Frame}
    {progress : Progress} (hawaits : progress.Awaits limit stack)
    (hlevels : stack.length + value.levels ≤ limit) (rest : List Char) :
    progress.read limit (value.write.toList ++ rest) = (complete stack value).read limit rest := by
  cases value with
  | null => exact hawaits.read_begin rfl rfl nofun fun _ => rfl
  | bool b => cases b <;> exact hawaits.read_begin rfl rfl nofun fun _ => rfl
  | number n => exact hvalue.elim
  | string s =>
      have htext : (Json.string s).write.toList ++ rest =
          '\x22' :: (s.toList.flatMap quoteChar ++ '\x22' :: rest) := by
        simp [write, quote, quoteChars]
      rw [htext]
      exact hawaits.read_begin rfl (scanToken_quote s) nofun fun _ => rfl
  | array items =>
      rw [levels] at hlevels
      cases items with
      | nil =>
          exact (hawaits.read_openArray (by omega) (']' :: rest)).trans
            (read_step rfl rfl fun _ => rfl)
      | cons item items =>
          -- The array is one more frame on the stack and one level less for its items.
          rw [levelsItems] at hlevels
          rw [toList_write_array_cons, List.cons_append, hawaits.read_openArray (by omega),
            List.append_assoc, List.append_assoc,
            read_write item hvalue.1 (awaits_atFirstItem stack)
              (by rw [List.length_cons]; omega)]
          exact read_items items hvalue.2 [] item (by omega) rest
  | object entries =>
      rw [levels] at hlevels
      cases entries with
      | nil =>
          exact (hawaits.read_openObject (by omega) ('\x7d' :: rest)).trans
            (read_step rfl rfl fun _ => rfl)
      | cons entry entries =>
          obtain ⟨key, value⟩ := entry
          rw [levelsEntries] at hlevels
          rw [toList_write_object_cons, List.cons_append, hawaits.read_openObject (by omega),
            List.append_assoc, List.append_assoc, read_entryChars (key, value) fun _ => rfl,
            read_write value hvalue.1 (awaits_atValue _) (by rw [List.length_cons]; omega)]
          exact read_entries entries hvalue.2 [] (key, value) (by omega) rest
termination_by structural value

/-- The characters of the items after the first ones are read as the items. -/
theorem read_items (items : List Json) (hitems : NumberlessItems items) {stack : List Frame}
    (done : List Json) (last : Json) (hlevels : stack.length + 1 + levelsItems items ≤ limit)
    (rest : List Char) :
    (complete (.array done :: stack) last).read limit
        (items.flatMap (fun item => ',' :: item.write.toList) ++ ([']'] ++ rest)) =
      (complete stack (.array ((last :: done).reverse ++ items))).read limit rest := by
  cases items with
  | nil =>
      rw [List.append_nil]
      exact read_step rfl rfl fun _ => rfl
  | cons item items =>
      rw [levelsItems] at hlevels
      rw [List.flatMap_cons, List.append_assoc, List.cons_append, read_itemComma,
        read_write item hitems.1 (awaits_atValue _) (by rw [List.length_cons]; omega),
        read_items items hitems.2 (last :: done) item (by omega), List.reverse_cons,
        List.append_assoc]
      rfl
termination_by structural items

/-- The characters of the entries after the first ones are read as the entries. -/
theorem read_entries (entries : List (String × Json)) (hentries : NumberlessEntries entries)
    {stack : List Frame} (done : List (String × Json)) (last : String × Json)
    (hlevels : stack.length + 1 + levelsEntries entries ≤ limit) (rest : List Char) :
    (complete (.object done last.1 :: stack) last.2).read limit
        (entries.flatMap (fun entry => ',' :: entryChars entry) ++ (['\x7d'] ++ rest)) =
      (complete stack (.object ((last :: done).reverse ++ entries))).read limit rest := by
  cases entries with
  | nil =>
      rw [List.append_nil]
      exact read_step rfl rfl fun _ => rfl
  | cons entry entries =>
      obtain ⟨key, value⟩ := entry
      rw [levelsEntries] at hlevels
      rw [List.flatMap_cons, List.append_assoc, List.cons_append, read_entryComma,
        read_entryChars (key, value) fun _ => rfl,
        read_write value hentries.1 (awaits_atValue _) (by rw [List.length_cons]; omega),
        read_entries entries hentries.2 (last :: done) (key, value) (by omega), List.reverse_cons,
        List.append_assoc]
      rfl
termination_by structural entries

end

/-- A value without numbers is read back, if it nests no deeper than a text may. -/
theorem readOrdered_write {value : Json} (hvalue : value.Numberless)
    (hlevels : value.levels ≤ depthLimit) : readOrdered value.write = .ok value := by
  have hend : (complete [] value).read depthLimit [] = .ok value := by
    rw [Progress.read, scanFrom]
    rfl
  have hread : (atValue []).read depthLimit value.write.toList = .ok value := by
    rw [← List.append_nil value.write.toList, ← hend]
    exact read_write value hvalue (awaits_atValue []) (by rwa [List.length_nil, Nat.zero_add]) []
  rw [readOrdered, readWithin]
  exact congrArg (Except.mapError (·.toError value.write)) hread

end

end Intake.Json
