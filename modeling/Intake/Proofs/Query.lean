import Intake.Proofs.Lookup
import Intake.Proofs.Outcome
import Intake.Request.Wire

/-!
# Query strings without a name

The pairs of one name can be taken out of a query string, so that the pairs that remain are those
of the other names, in their order.

Main results:

- Theorem {lit}`Text.splitAll_joinAll`: pieces without a separator are found again when they are
  joined by it.
- Definition {lit}`Head.queryPairs` lists the pairs of a request, and {lit}`Head.Drops` says that
  one request has the pairs of another except those of a name.
- Theorem {lit}`Head.exists_drops`: for every request there is one without the pairs of a name.
- Theorem {lit}`Request.find_without`: a field finds the same value in it, unless the query string
  speaks of the name where the path is silent.
-/

namespace Intake

/-! ## Joining pieces -/

namespace Text

section

variable {α : Type} [DecidableEq α] {separator : α}

theorem splitFrom_of_not_mem {piece xs : List α} (h : separator ∉ xs) :
    splitFrom separator piece xs = [piece.reverse ++ xs] := by
  induction xs generalizing piece with
  | nil => simp [splitFrom]
  | cons x rest ih =>
      rw [List.mem_cons, not_or] at h
      rw [splitFrom, if_neg (Ne.symm h.1), ih h.2]
      simp

/-- A list without the separator is one piece. -/
theorem splitAll_of_not_mem {xs : List α} (h : separator ∉ xs) : splitAll separator xs = [xs] :=
  splitFrom_of_not_mem h

theorem not_mem_of_mem_splitFrom {piece xs : List α} (hpiece : separator ∉ piece) :
    ∀ p ∈ splitFrom separator piece xs, separator ∉ p := by
  induction xs generalizing piece with
  | nil =>
      intro p hp
      rw [List.mem_singleton.mp hp, List.mem_reverse]
      exact hpiece
  | cons x rest ih =>
      rw [splitFrom]
      split
      · intro p hp
        rcases List.mem_cons.mp hp with rfl | hp
        · rw [List.mem_reverse]
          exact hpiece
        · exact ih List.not_mem_nil p hp
      · next hne =>
        apply ih
        rw [List.mem_cons, not_or]
        exact ⟨Ne.symm hne, hpiece⟩

/-- No piece has the separator. -/
theorem not_mem_of_mem_splitAll {xs p : List α} (hp : p ∈ splitAll separator xs) :
    separator ∉ p :=
  not_mem_of_mem_splitFrom List.not_mem_nil p hp

/-- Pieces with the separator in front of each. -/
def joinAll (separator : α) (pieces : List (List α)) : List α :=
  pieces.flatMap (separator :: ·)

/-- Pieces that are joined are found again, after an empty one. -/
theorem splitAll_joinAll {pieces : List (List α)} (h : ∀ p ∈ pieces, separator ∉ p) :
    splitAll separator (joinAll separator pieces) = [] :: pieces := by
  have hall : ∀ first : List α, separator ∉ first →
      splitAll separator (first ++ joinAll separator pieces) = first :: pieces := by
    induction pieces with
    | nil =>
        intro first hfirst
        rw [joinAll, List.flatMap_nil, List.append_nil, splitAll_of_not_mem hfirst]
    | cons p rest ih =>
        intro first hfirst
        obtain ⟨hp, hrest⟩ := List.forall_mem_cons.mp h
        have hjoin : joinAll separator (p :: rest) =
            separator :: (p ++ joinAll separator rest) := by
          simp [joinAll]
        rw [hjoin, splitAll_append, splitAll_of_not_mem hfirst, ih hrest p hp]
        rfl
  exact hall [] List.not_mem_nil

end

/-! ## Dropping pairs -/

/-- The pieces of a query string whose pairs have other names than the given one. -/
def keptPieces (name : String) (query : List Char) : List (List Char) :=
  (splitAll '&' query).filter fun piece => !piece.isEmpty && (formPair piece).1 != name

/-- The query string of the pieces that are kept has all pairs but those of the name. -/
theorem formPairs_joinAll_keptPieces (name : String) (query : List Char) :
    formPairs (joinAll '&' (keptPieces name query)) =
      (formPairs query).filter fun pair => pair.1 != name := by
  have hseparator : ∀ piece ∈ keptPieces name query, '&' ∉ piece := by
    intro piece hpiece
    exact not_mem_of_mem_splitAll (List.mem_filter.mp hpiece).1
  rw [formPairs, splitAll_joinAll hseparator, formPairs, List.filter_map, List.filter_filter,
    List.filter_cons_of_neg (by simp), keptPieces, List.filter_filter]
  congr 1
  refine List.filter_congr ?_
  intro piece _
  simp only [Function.comp_apply]
  cases piece.isEmpty <;> simp

end Text

/-! ## Heads -/

namespace Head

/-- The pairs of the query string. -/
def queryPairs (head : Head) : Pairs :=
  match head.target.query? with
  | some query => Text.formPairs (query.toList.dropWhile (· = '?'))
  | none => []

/-- The other request asks for the same, with all pairs of the query string but those of the
name. -/
structure Drops (name : String) (head other : Head) : Prop where
  /-- The methods are the same. -/
  method : other.method = head.method
  /-- The paths are the same. -/
  path : other.target.path = head.target.path
  /-- The headers are the same. -/
  headers : other.headers = head.headers
  /-- The pairs of the name are gone. -/
  pairs : other.queryPairs = head.queryPairs.filter fun pair => pair.1 != name

/-- The pairs of a name can be taken out of every request. -/
theorem exists_drops (name : String) (head : Head) : ∃ other, Drops name head other := by
  cases hquery : head.target.query? with
  | none => exact ⟨head, rfl, rfl, rfl, by simp [queryPairs, hquery]⟩
  | some query =>
      let kept := Text.keptPieces name (query.toList.dropWhile (· = '?'))
      let target : Target := ⟨head.target.path, some (String.ofList (Text.joinAll '&' kept))⟩
      refine ⟨⟨head.method, target, head.headers⟩, rfl, rfl, rfl, ?_⟩
      -- A query string that begins with the ampersand keeps all its question marks.
      have hmark : (Text.joinAll '&' kept).dropWhile (· = '?') = Text.joinAll '&' kept := by
        cases kept with
        | nil => rfl
        | cons piece rest => simp [Text.joinAll]
      simp only [queryPairs, hquery, target, String.toList_ofList]
      rw [hmark, Text.formPairs_joinAll_keptPieces]

end Head

/-! ## Requests without the pairs of a name -/

namespace Request

/-- The request without the pairs of a name in its query string. -/
def without (name : String) (r : Request) : Request :=
  { r with query := r.query.filter fun pair => pair.1 != name }

theorem addHeaderBytes_query (r : Request) (query : Pairs) (header : String × List UInt8) :
    addHeaderBytes { r with query := query } header =
      { addHeaderBytes r header with query := query } := by
  unfold addHeaderBytes
  split
  · simp only
    split <;> rfl
  · rfl

theorem foldl_addHeaderBytes_query (r : Request) (query : Pairs)
    (headers : List (String × List UInt8)) :
    headers.foldl addHeaderBytes { r with query := query } =
      { headers.foldl addHeaderBytes r with query := query } := by
  induction headers generalizing r with
  | nil => rfl
  | cons header rest ih =>
      rw [List.foldl_cons, List.foldl_cons, addHeaderBytes_query, ih]

theorem addBody_query (limits : Limits) (r : Request) (query : Pairs) (bytes : List UInt8) :
    addBody limits { r with query := query } bytes =
      (addBody limits r bytes).map fun r => { r with query := query } := by
  unfold addBody
  split
  · rfl
  split
  · rfl
  split
  · rfl
  split <;> rfl

/-- Only the query string of a request depends on that of its head. -/
theorem ofHead_eq (limits : Limits) (head : Head) (body : List UInt8) :
    ofHead limits head body =
      (addBody limits (head.headers.foldl addHeaderBytes {}) body).map
        fun r => { r with query := head.queryPairs } := by
  unfold ofHead Head.queryPairs
  cases head.target.query? with
  | none =>
      rw [← addBody_query, ← foldl_addHeaderBytes_query]
  | some query =>
      rw [← addBody_query, ← foldl_addHeaderBytes_query]
      rfl

theorem parts_addHeaderBytes (r : Request) (header : String × List UInt8) :
    (r.addHeaderBytes header).path = r.path ∧ (r.addHeaderBytes header).body = r.body := by
  unfold addHeaderBytes
  split
  · simp only
    split <;> exact ⟨rfl, rfl⟩
  · exact ⟨rfl, rfl⟩

/-- Headers change neither the parameters of the path nor the body. -/
theorem parts_foldl_addHeaderBytes (r : Request) (headers : List (String × List UInt8)) :
    (headers.foldl addHeaderBytes r).path = r.path ∧
      (headers.foldl addHeaderBytes r).body = r.body := by
  induction headers generalizing r with
  | nil => exact ⟨rfl, rfl⟩
  | cons header rest ih =>
      obtain ⟨hpath, hbody⟩ := ih (r.addHeaderBytes header)
      obtain ⟨hpath', hbody'⟩ := parts_addHeaderBytes r header
      exact ⟨hpath.trans hpath', hbody.trans hbody'⟩

/-- A body that is read changes nothing else of a request. -/
theorem eq_of_addBody {limits : Limits} {r r' : Request} {bytes : List UInt8}
    (h : addBody limits r bytes = .ok r') : r' = r ∨ ∃ body, r' = r.withBody body := by
  unfold addBody at h
  split at h
  · cases h
  split at h
  · cases h
    exact .inl rfl
  split at h
  · cases h
  split at h
  · cases h
    exact .inr ⟨_, rfl⟩
  · cases h

/-- A head gives a request with the pairs of its query string and no parameters of a path. -/
theorem parts_of_ofHead {limits : Limits} {head : Head} {body : List UInt8} {r : Request}
    (h : ofHead limits head body = .ok r) : r.query = head.queryPairs ∧ r.path = [] := by
  rw [ofHead_eq, Outcome.map_eq_ok] at h
  obtain ⟨r', hr', rfl⟩ := h
  refine ⟨rfl, ?_⟩
  have hpath := (parts_foldl_addHeaderBytes {} head.headers).1
  rcases eq_of_addBody hr' with rfl | ⟨_, rfl⟩
  · exact hpath
  · exact hpath

/-- A head without the pairs of a name gives a request without them. -/
theorem ofHead_of_drops {name : String} {head other : Head} (h : head.Drops name other)
    (limits : Limits) (body : List UInt8) :
    ofHead limits other body = (ofHead limits head body).map (without name) := by
  rw [ofHead_eq limits other, ofHead_eq limits head, h.headers, h.pairs]
  cases addBody limits (head.headers.foldl addHeaderBytes {}) body <;> rfl

/-- The query string speaks of the name where the path is silent. -/
def Asks (name : String) (r : Request) : Prop :=
  valuesOf r.path name = [] ∧ valuesOf r.query name ≠ []

/-- A field finds the same value without the pairs of a name, unless it is a field of the address
with this name and the query string speaks where the path is silent. -/
theorem find_without {name : String} {r : Request} {a : Attributes}
    (h : a.source = .url → a.name = name → ¬ r.Asks name) (body : Option (Entries Json)) :
    (r.without name).find body a = r.find body a := by
  unfold find
  cases hsource : a.source with
  | body => rfl
  | header => rfl
  | cookie => rfl
  | url =>
      by_cases hname : a.name = name
      · have hasks := h hsource hname
        rw [Asks, not_and_or, not_not] at hasks
        rw [hname]
        rcases hasks with hpath | hquery
        · have hpath : (valuesOf r.path name).isEmpty = false := by
            rw [List.isEmpty_eq_false_iff]
            exact hpath
          simp only [without, hpath, Bool.false_eq_true, if_false]
        · simp only [without, valuesOf_filter_self, hquery]
      · simp only [without, valuesOf_filter_of_ne hname]

end Request

end Intake
