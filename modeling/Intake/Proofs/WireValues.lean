import Intake.Proofs.Query
import Mathlib.Data.List.TakeWhile

/-!
# Values on the wire

The values of a name can be read off the head of a request itself: off its query string piece by
piece, and off its headers one by one.  A request that is read from the head has the same values,
unless the query string begins with question marks: these are no part of its first name then.

Main results:

- Definitions {lit}`Wire.queryValues`, {lit}`Wire.headerValues` and {lit}`Wire.cookieValues` give
  the values of a name on the wire.
- Theorem {lit}`Text.toList_formDecode_cons`: a plain ASCII character stands for itself.
- Theorem {lit}`Wire.queryValues_dropWhile_iff`: a query string has the same values without question
  marks in front exactly if there are none.
- Theorem {lit}`Request.values_foldl_addHeaderBytes`: headers add the values that they have on the
  wire.
- Theorem {lit}`Request.ofHead_exact` puts this together for requests that are read from heads.
-/

namespace Intake

/-! ## Pieces -/

namespace Text

section

variable {α : Type} [DecidableEq α] {separator : α}

theorem splitFrom_eq_splitOnPPrepend (piece xs : List α) :
    splitFrom separator piece xs = List.splitOnPPrepend (· == separator) xs piece := by
  induction xs generalizing piece with
  | nil => rfl
  | cons x rest ih =>
      rw [splitFrom, List.splitOnPPrepend_cons_eq_if, ih, ih]
      simp only [beq_iff_eq]
      rfl

theorem splitAll_eq_splitOn (xs : List α) : splitAll separator xs = xs.splitOn separator :=
  splitFrom_eq_splitOnPPrepend [] xs

theorem splitOn_cons (x : α) (rest : List α) :
    (x :: rest).splitOn separator =
      if x = separator then [] :: rest.splitOn separator
      else (rest.splitOn separator).modifyHead (x :: ·) := by
  rw [List.splitOn, List.splitOnP_cons_eq_if_modifyHead]
  simp only [beq_iff_eq]
  rfl

/-- What is before the first separator and what is after it, if there is one. -/
theorem splitFirst?_eq (xs : List α) :
    splitFirst? separator xs =
      if separator ∈ xs then
        some (xs.takeWhile (· ≠ separator), (xs.dropWhile (· ≠ separator)).drop 1)
      else none := by
  induction xs with
  | nil => rfl
  | cons x rest ih =>
      rw [splitFirst?]
      by_cases hx : x = separator
      · simp [hx]
      · rw [if_neg hx, ih]
        simp only [List.mem_cons, Ne.symm hx, false_or]
        split <;> simp [hx]

end

/-! ## Plain characters -/

theorem percentDecode_cons {b : UInt8} (h : b ≠ 0x25) (bytes : List UInt8) :
    percentDecode (b :: bytes) = b :: percentDecode bytes := by
  match bytes with
  | [] => rfl
  | [_] => rfl
  | high :: low :: rest => rw [percentDecode, if_neg h]

theorem piecesFrom_eq (result : List (Option Char)) (pending : Option Pending)
    (bytes : List UInt8) :
    piecesFrom result pending bytes = result.reverse ++ piecesFrom [] pending bytes := by
  induction bytes generalizing result pending with
  | nil => cases pending <;> simp [piecesFrom]
  | cons b rest ih =>
      rw [piecesFrom.eq_def, piecesFrom.eq_def []]
      cases pending with
      | none =>
          simp only
          cases Lead.ofByte b with
          | whole c => simp [ih (some c :: result), ih [some c]]
          | opening pending => exact ih result (some pending)
          | malformed => simp [ih (none :: result), ih [none]]
      | some pending =>
          simp only
          split
          · cases pending.more with
            | zero => simp [ih (_ :: result), ih [_]]
            | succ more => exact ih result _
          · cases Lead.ofByte b with
            | whole c => simp [ih (some c :: none :: result), ih [some c, none]]
            | opening pending => simp [ih (none :: result), ih [none]]
            | malformed => simp [ih (none :: none :: result), ih [none, none]]

theorem toList_decodeLossy_cons {b : UInt8} (h : b < 0x80) (bytes : List UInt8) :
    (decodeLossy (b :: bytes)).toList = Char.ofNat b.toNat :: (decodeLossy bytes).toList := by
  have hlead : Lead.ofByte b = .whole (Char.ofNat b.toNat) := if_pos h
  rw [decodeLossy, pieces, piecesFrom]
  simp only [hlead]
  rw [piecesFrom_eq]
  simp [decodeLossy, pieces]

theorem toList_loop_eq (bytes : ByteArray) (i : Nat) (result : List UInt8) :
    ByteArray.toList.loop bytes i result = result.reverse ++ bytes.data.toList.drop i := by
  fun_induction ByteArray.toList.loop bytes i result with
  | case1 i result hlt ih =>
      have hi : i < bytes.data.toList.length := hlt
      have hget : bytes.get! i = bytes.data.toList[i] := getElem!_pos bytes.data i hlt
      rw [ih, List.drop_eq_getElem_cons hi, hget, List.reverse_cons, List.append_assoc]
      rfl
  | case2 i result hge =>
      rw [List.drop_eq_nil_of_le (Nat.not_lt.mp hge), List.append_nil]

theorem encode_ofList (cs : List Char) :
    encode (String.ofList cs) = cs.flatMap String.utf8EncodeChar := by
  rw [encode, ByteArray.toList, toList_loop_eq, String.toUTF8, String.toByteArray_ofList,
    List.utf8Encode, List.toList_data_toByteArray]
  rfl

theorem formDecode_nil : formDecode [] = "" := by
  rw [formDecode, encode_ofList]
  rfl

/-- Whether the character is ASCII and not one of the two that a query string gives another
meaning. -/
def isPlain (c : Char) : Bool :=
  c.toNat < 0x80 && c != '%' && c != '+'

/-- A plain character stands for itself. -/
theorem toList_formDecode_cons {c : Char} (h : isPlain c = true) (cs : List Char) :
    (formDecode (c :: cs)).toList = c :: (formDecode cs).toList := by
  rw [isPlain, Bool.and_eq_true, Bool.and_eq_true, decide_eq_true_iff, bne_iff_ne, bne_iff_ne] at h
  obtain ⟨⟨hascii, hpercent⟩, hplus⟩ := h
  have hsize : c.utf8Size = 1 := Char.utf8Size_eq_one_iff.mpr (Nat.le_of_lt_succ hascii)
  have hvalue : c.val.toUInt8.toNat = c.toNat := by
    rw [UInt32.toNat_toUInt8]
    exact Nat.mod_eq_of_lt (Nat.lt_trans hascii (by decide))
  have hne (b : UInt8) (h : c.toNat ≠ b.toNat) : c.val.toUInt8 ≠ b := by
    rintro rfl
    exact h hvalue.symm
  simp only [formDecode, encode_ofList, List.flatMap_cons, String.utf8EncodeChar_eq_singleton hsize,
    List.singleton_append, List.map_cons]
  rw [if_neg (hne 0x2B fun h => hplus (Char.toNat_inj.mp h)),
    percentDecode_cons (hne 0x25 fun h => hpercent (Char.toNat_inj.mp h)),
    toList_decodeLossy_cons (UInt8.lt_iff_toNat_lt.mpr (hvalue ▸ hascii)), hvalue,
    Char.ofNat_toNat]

/-- Plain characters stand for themselves. -/
theorem formDecode_of_plain {cs : List Char} (h : cs.all isPlain = true) :
    formDecode cs = String.ofList cs := by
  induction cs with
  | nil => exact formDecode_nil
  | cons c rest ih =>
      rw [List.all_cons, Bool.and_eq_true] at h
      rw [← String.toList_inj, toList_formDecode_cons h.1, ih h.2, String.toList_ofList,
        String.toList_ofList]

end Text

/-! ## Values of names -/

theorem valuesOf_append (first second : Pairs) (name : String) :
    valuesOf (first ++ second) name = valuesOf first name ++ valuesOf second name := by
  rw [valuesOf, List.filter_append, List.map_append]
  rfl

theorem headerValuesOf_append (first second : Pairs) (name : String) :
    headerValuesOf (first ++ second) name =
      headerValuesOf first name ++ headerValuesOf second name := by
  rw [headerValuesOf, List.filter_append, List.map_append]
  rfl

namespace Wire

/-! ## Query strings -/

/-- The name that a piece of a query string gives: what is before the first equals sign. -/
def queryName (piece : List Char) : String :=
  Text.formDecode (piece.takeWhile (· ≠ '='))

/-- The value that a piece of a query string gives: what is after the first equals sign. -/
def queryValue (piece : List Char) : String :=
  Text.formDecode ((piece.dropWhile (· ≠ '=')).drop 1)

/-- The values of the pieces of a query string that have the name; empty pieces have none. -/
def queryValues (query : List Char) (name : String) : List String :=
  ((query.splitOn '&').filter fun piece => !piece.isEmpty && queryName piece == name).map queryValue

theorem formPair_eq (piece : List Char) :
    Text.formPair piece = (queryName piece, queryValue piece) := by
  rw [Text.formPair, Text.splitFirst?_eq]
  by_cases hmem : '=' ∈ piece
  · rw [if_pos hmem]
    rfl
  · have hall : ∀ c ∈ piece, decide (c ≠ '=') = true := fun c hc =>
      decide_eq_true fun heq => hmem (heq ▸ hc)
    rw [if_neg hmem, queryName, queryValue, List.takeWhile_eq_self_iff.mpr hall,
      List.dropWhile_eq_nil_iff.mpr hall, List.drop_nil, Text.formDecode_nil]

/-- The pairs of a query string have the values of its pieces. -/
theorem valuesOf_formPairs (query : List Char) (name : String) :
    valuesOf (Text.formPairs query) name = queryValues query name := by
  rw [valuesOf, Text.formPairs, queryValues, Text.splitAll_eq_splitOn, List.filter_map,
    List.filter_filter, List.map_map]
  simp only [Function.comp_def, formPair_eq, Bool.and_comm]

/-! ## Question marks -/

/-- A question mark before a piece is one before its name. -/
theorem length_queryName_cons (piece : List Char) :
    (queryName ('?' :: piece)).length = (queryName piece).length + 1 := by
  rw [queryName, List.takeWhile_cons_of_pos rfl, ← String.length_toList,
    Text.toList_formDecode_cons rfl, List.length_cons, String.length_toList, queryName]

theorem length_queryName_dropWhile_le (piece : List Char) :
    (queryName (piece.dropWhile (· = '?'))).length ≤ (queryName piece).length := by
  induction piece with
  | nil => exact Nat.le_refl _
  | cons c rest ih =>
      rw [List.dropWhile_cons]
      split
      · next hc =>
        rw [of_decide_eq_true hc, length_queryName_cons]
        exact Nat.le_succ_of_le ih
      · exact Nat.le_refl _

/-- Only the first piece begins where the query string begins. -/
theorem splitOn_dropWhile (query : List Char) :
    (query.dropWhile (· = '?')).splitOn '&' =
      (query.splitOn '&').modifyHead (·.dropWhile (· = '?')) := by
  induction query with
  | nil => rfl
  | cons c rest ih =>
      by_cases hc : c = '?'
      · rw [hc, List.dropWhile_cons_of_pos (by decide), ih, Text.splitOn_cons,
          if_neg (by decide), List.modifyHead_modifyHead]
        rfl
      · have hdrop (piece : List Char) : (c :: piece).dropWhile (· = '?') = c :: piece :=
          List.dropWhile_cons_of_neg (by simpa using hc)
        rw [hdrop, Text.splitOn_cons]
        split
        · rfl
        · rw [List.modifyHead_modifyHead]
          congr 1
          funext piece
          exact (hdrop piece).symm

/-- Question marks in front change the values of some name, the one they are a part of. -/
theorem queryValues_dropWhile_iff (query : List Char) :
    (∀ name, queryValues (query.dropWhile (· = '?')) name = queryValues query name) ↔
      query.head? ≠ some '?' := by
  constructor
  · intro h hhead
    obtain ⟨rest, rfl⟩ := List.head?_eq_some_iff.mp hhead
    obtain ⟨piece, others, hpieces⟩ : ∃ piece others, rest.splitOn '&' = piece :: others :=
      List.exists_cons_of_ne_nil (List.splitOnP_ne_nil _ rest)
    -- On the wire the first piece has this name; without its question marks it has a shorter one.
    have hname : queryName (piece.dropWhile (· = '?')) ≠ queryName ('?' :: piece) := by
      intro heq
      have hlength := length_queryName_dropWhile_le piece
      rw [heq, length_queryName_cons] at hlength
      exact Nat.not_succ_le_self _ hlength
    have hcount := congrArg List.length (h (queryName ('?' :: piece)))
    rw [queryValues, queryValues, List.dropWhile_cons_of_pos (by decide), splitOn_dropWhile,
      Text.splitOn_cons, if_neg (by decide), hpieces, List.modifyHead_cons, List.modifyHead_cons,
      List.filter_cons_of_neg (by simp [hname]), List.filter_cons_of_pos (by simp),
      List.map_cons, List.length_cons] at hcount
    exact Nat.succ_ne_self _ hcount.symm
  · intro hhead name
    cases query with
    | nil => rfl
    | cons c rest =>
        have hc : c ≠ '?' := fun hc => hhead (by rw [hc, List.head?_cons])
        rw [List.dropWhile_cons_of_neg (by simpa using hc)]

/-! ## Cookies -/

/-- The name of the cookie in a piece: what is before the first equals sign, trimmed. -/
def cookieName (piece : List Char) : String :=
  String.ofList (Text.trimChars (piece.takeWhile (· ≠ '=')))

/-- The value of the cookie in a piece: what is after the first equals sign, trimmed and without
double quotes around it. -/
def cookieValue (piece : List Char) : String :=
  String.ofList (Text.stripBoth (· = '\x22')
    (Text.trimChars ((piece.dropWhile (· ≠ '=')).drop 1)))

/-- The values of the cookies of one header that have the name; pieces without an equals sign hold
none. -/
def cookiesIn (header : List Char) (name : String) : List String :=
  ((header.splitOn ';').filter fun piece =>
    decide ('=' ∈ piece) && cookieName piece == name).map cookieValue

theorem cookiePair?_eq (piece : List Char) :
    cookiePair? piece =
      if '=' ∈ piece then some (cookieName piece, cookieValue piece) else none := by
  rw [cookiePair?, Text.splitFirst?_eq]
  split <;> rfl

/-- The cookies of a header have the values of its pieces. -/
theorem valuesOf_cookiePairs (header : List Char) (name : String) :
    valuesOf (cookiePairs header) name = cookiesIn header name := by
  rw [valuesOf, cookiePairs, cookiesIn, Text.splitAll_eq_splitOn]
  induction header.splitOn ';' with
  | nil => rfl
  | cons piece rest ih =>
      rw [List.filterMap_cons, cookiePair?_eq, List.filter_cons]
      by_cases hmem : '=' ∈ piece
      · simp only [if_pos hmem, decide_eq_true hmem, Bool.true_and, List.filter_cons]
        split
        · rw [List.map_cons, List.map_cons, ih]
        · exact ih
      · simp only [if_neg hmem, decide_eq_false hmem, Bool.false_and]
        exact ih

/-! ## Headers -/

/-- The text of the bytes of a header. -/
def headerText (bytes : List UInt8) : String :=
  String.ofList (bytes.map fun b => Char.ofNat b.toNat)

/-- Whether the header holds cookies. -/
def isCookie (header : String × List UInt8) : Bool :=
  Text.asciiLower header.1 == "cookie"

/-- The values of the headers with the name, in any letter case; headers that hold cookies and
those that are not visible ASCII have none. -/
def headerValues (headers : List (String × List UInt8)) (name : String) : List String :=
  (headers.filter fun header => header.2.all isVisibleByte && !isCookie header &&
    Text.asciiLower header.1 == Text.asciiLower name).map fun header => headerText header.2

/-- The values of the cookies with the name, in all headers that hold cookies and are visible
ASCII. -/
def cookieValues (headers : List (String × List UInt8)) (name : String) : List String :=
  (headers.filter fun header => header.2.all isVisibleByte && isCookie header).flatMap
    fun header => cookiesIn (headerText header.2).toList name

theorem headerValues_cons (header : String × List UInt8) (rest : List (String × List UInt8))
    (name : String) :
    headerValues (header :: rest) name = headerValues [header] name ++ headerValues rest name := by
  rw [headerValues, ← List.singleton_append, List.filter_append, List.map_append]
  rfl

theorem cookieValues_cons (header : String × List UInt8) (rest : List (String × List UInt8))
    (name : String) :
    cookieValues (header :: rest) name = cookieValues [header] name ++ cookieValues rest name := by
  rw [cookieValues, ← List.singleton_append, List.filter_append, List.flatMap_append]
  rfl

end Wire

/-! ## Requests read from heads -/

namespace Head

/-- The characters of the query string, if there is one. -/
def query (head : Head) : List Char :=
  head.target.query?.elim [] String.toList

theorem queryPairs_eq (head : Head) :
    head.queryPairs = Text.formPairs (head.query.dropWhile (· = '?')) := by
  rw [queryPairs, query]
  cases head.target.query? with
  | none => rfl
  | some query => rfl

end Head

namespace Request

open Wire

/-- One more header adds the values that it has on the wire. -/
theorem values_addHeaderBytes (r : Request) (header : String × List UInt8) (name : String) :
    headerValuesOf (r.addHeaderBytes header).headers name =
        headerValuesOf r.headers name ++ headerValues [header] name ∧
      valuesOf (r.addHeaderBytes header).cookies name =
        valuesOf r.cookies name ++ cookieValues [header] name := by
  rw [addHeaderBytes]
  split
  · next hvisible =>
    split
    · next hcookie =>
      simp [headerValues, cookieValues, isCookie, hvisible, hcookie, addCookieHeader,
        valuesOf_append, valuesOf_cookiePairs, headerText]
    · next hcookie =>
      have hone : headerValuesOf [(Text.asciiLower header.1, headerText header.2)] name =
          headerValues [header] name := by
        simp only [headerValuesOf, headerValues, isCookie, List.filter_cons, hvisible,
          beq_eq_false_iff_ne.mpr hcookie, Text.asciiLower_asciiLower, Bool.not_false,
          Bool.true_and, List.filter_nil]
        split <;> rfl
      refine ⟨?_, by simp [cookieValues, isCookie, hcookie, addHeader]⟩
      rw [← hone]
      exact headerValuesOf_append _ _ name
  · next hvisible => simp [headerValues, cookieValues, hvisible]

/-- Headers add the values that they have on the wire. -/
theorem values_foldl_addHeaderBytes (r : Request) (headers : List (String × List UInt8))
    (name : String) :
    headerValuesOf (headers.foldl addHeaderBytes r).headers name =
        headerValuesOf r.headers name ++ headerValues headers name ∧
      valuesOf (headers.foldl addHeaderBytes r).cookies name =
        valuesOf r.cookies name ++ cookieValues headers name := by
  induction headers generalizing r with
  | nil => exact ⟨(List.append_nil _).symm, (List.append_nil _).symm⟩
  | cons header rest ih =>
      obtain ⟨hheaders, hcookies⟩ := ih (r.addHeaderBytes header)
      obtain ⟨hheaders', hcookies'⟩ := values_addHeaderBytes r header name
      rw [List.foldl_cons, hheaders, hcookies, hheaders', hcookies', List.append_assoc,
        List.append_assoc, headerValues_cons header rest, cookieValues_cons header rest]
      exact ⟨rfl, rfl⟩

/-- Under every name a request has, in order, the values that its head has on the wire: those of
the headers, those of the cookies in all headers that hold some, and those of the pieces of the
query string without question marks in front.  The values of the query string as it is are those
of the request under all names if and only if it does not begin with a question mark. -/
theorem ofHead_exact {limits : Limits} {head : Head} {body : List UInt8} {r : Request}
    (h : ofHead limits head body = .ok r) :
    (∀ name, headerValuesOf r.headers name = headerValues head.headers name) ∧
      (∀ name, valuesOf r.cookies name = cookieValues head.headers name) ∧
      (∀ name, valuesOf r.query name = queryValues (head.query.dropWhile (· = '?')) name) ∧
      ((∀ name, valuesOf r.query name = queryValues head.query name) ↔
        head.query.head? ≠ some '?') := by
  have hquery (name : String) :
      valuesOf r.query name = queryValues (head.query.dropWhile (· = '?')) name := by
    rw [(parts_of_ofHead h).1, ← valuesOf_formPairs, head.queryPairs_eq]
  rw [ofHead_eq, Outcome.map_eq_ok] at h
  obtain ⟨r', hbody, rfl⟩ := h
  have hvalues := values_foldl_addHeaderBytes {} head.headers
  refine ⟨fun name => ?_, fun name => ?_, hquery, ?_⟩
  · rcases eq_of_addBody hbody with rfl | ⟨_, rfl⟩
    · exact (hvalues name).1
    · exact (hvalues name).1
  · rcases eq_of_addBody hbody with rfl | ⟨_, rfl⟩
    · exact (hvalues name).2
    · exact (hvalues name).2
  · simp only [hquery]
    exact queryValues_dropWhile_iff head.query

/-- The head of a request for an address with two question marks. -/
def doubleMark : Head :=
  ⟨"GET", Target.read "/u??id=1", []⟩

/-- The second question mark is a part of the name on the wire, but not in the request. -/
theorem doubleMark_exact :
    ofHead .standard doubleMark [] = .ok (({} : Request).addQueryString "?id=1") ∧
      valuesOf (({} : Request).addQueryString "?id=1").query "id" = ["1"] ∧
      queryValues doubleMark.query "id" = [] ∧
      queryValues doubleMark.query "?id" = ["1"] ∧
      ¬ ∀ name, valuesOf (({} : Request).addQueryString "?id=1").query name =
        queryValues doubleMark.query name := by
  have hread : ofHead .standard doubleMark [] = .ok (({} : Request).addQueryString "?id=1") :=
    rfl
  have hchars : doubleMark.query = ['?', 'i', 'd', '=', '1'] := rfl
  have hpieces : ['?', 'i', 'd', '=', '1'].splitOn '&' = [['?', 'i', 'd', '=', '1']] := rfl
  have hname : queryName ['i', 'd', '=', '1'] = "id" := Text.formDecode_of_plain rfl
  have hwireName : queryName ['?', 'i', 'd', '=', '1'] = "?id" :=
    Text.formDecode_of_plain rfl
  have hvalue : queryValue ['i', 'd', '=', '1'] = "1" := Text.formDecode_of_plain rfl
  have hwireValue : queryValue ['?', 'i', 'd', '=', '1'] = "1" :=
    Text.formDecode_of_plain rfl
  obtain ⟨-, -, hquery, hfaithful⟩ := ofHead_exact hread
  refine ⟨hread, ?_, ?_, ?_, fun h => hfaithful.mp h rfl⟩
  · rw [hquery, hchars, queryValues, splitOn_dropWhile, hpieces]
    simp [hname, hvalue]
  · rw [hchars, queryValues, hpieces]
    simp [hwireName]
  · rw [hchars, queryValues, hpieces]
    simp [hwireName, hwireValue]

end Request

end Intake
