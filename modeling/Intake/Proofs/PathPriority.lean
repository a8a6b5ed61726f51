import Intake.Endpoint
import Intake.Proofs.Marks
import Intake.Proofs.Pick
import Intake.Proofs.Query
import Intake.Proofs.Schema
import Intake.Proofs.Validate

/-!
# Paths before query strings

A field that reads from the address of a request looks for its value among the parameters of the
path, and in the query string only when there is none.  The parameters of a path are there when the
bytes of all of them are well formed.  If they are not, a client has the query string speak for the
path.

Main results:

- Theorem {lit}`Endpoint.respond_of_drops`: what the query string says of a name makes no difference
  to the response when the path, or the schema, leaves it no place.
- Theorem {lit}`Endpoint.path_before_query`: for a parameter of the path that is so exactly when all
  of them are well formed, unless the query string is silent or no field can have the name.
-/

namespace Intake

/-! ## Responses without the pairs of a name -/

/-- Decoding keeps the names of parameters. -/
theorem names_of_decodeParameters? {raw : List (String × List Char)} {pairs : Pairs}
    (h : decodeParameters? raw = some pairs) : pairs.map Prod.fst = raw.map Prod.fst := by
  unfold decodeParameters? at h
  induction raw generalizing pairs with
  | nil => cases h; rfl
  | cons parameter rest ih =>
      rw [List.mapM_cons] at h
      obtain ⟨pair, hpair, hrest⟩ := Option.bind_eq_some_iff.mp h
      obtain ⟨pairs', hpairs', heq⟩ := Option.bind_eq_some_iff.mp hrest
      obtain ⟨text, -, rfl⟩ := Option.map_eq_some_iff.mp hpair
      cases heq
      rw [List.map_cons, List.map_cons, ih hpairs']

/-- A handler gives the same result without the pairs of a name, unless a field of its schema reads
them. -/
theorem Handler.handle_without {α : Type} {name : String} {handler : Handler α} {r : Request}
    (h : ∀ f ∈ handler.schema, f.attributes.source = .url → f.attributes.name = name →
      ¬ r.Asks name) :
    handler.handle (r.without name) = handler.handle r := by
  have hpick : pick handler.settings handler.schema (r.without name) =
      pick handler.settings handler.schema r := by
    rw [pick_eq_bind, pick_eq_bind]
    congr 1
    funext body
    rw [pickFields_eq_pickEach, pickFields_eq_pickEach]
    congr 1
    refine pickEach_congr ?_
    intro f hf
    rw [Request.find_without (h f hf)]
  unfold Handler.handle
  rw [hpick]

namespace Endpoint

variable {α : Type} {endpoint : Endpoint α} {parameters : List (String × List Char)} {head : Head}
  {body : List UInt8}

/-- The request has the pairs of the query string and the parameters of the path, if they are well
formed. -/
theorem parts_of_request {r : Request} (h : endpoint.request parameters head body = .ok r) :
    r.query = head.queryPairs ∧ r.path = (decodeParameters? parameters).getD [] := by
  unfold request at h
  simp only at h
  split at h
  · cases h
  split at h
  · cases h
  · next r' hr' =>
    cases h
    obtain ⟨hquery, hpath⟩ := Request.parts_of_ofHead hr'
    refine ⟨hquery, ?_⟩
    simp only [hpath, List.nil_append]

theorem request_of_drops {name : String} {other : Head} (h : head.Drops name other) :
    endpoint.request parameters other body =
      (endpoint.request parameters head body).map (Request.without name) := by
  unfold request
  simp only [Request.ofHead_of_drops h]
  split
  · rfl
  · cases Request.ofHead endpoint.handler.settings.limits head body with
    | error e => rfl
    | ok r => rfl

/-- What the query string says of a name makes no difference to the response, as long as no field
reads it. -/
theorem respond_of_drops {name : String} {other : Head} (h : head.Drops name other)
    (hsilent : ∀ parameters r, endpoint.route head.target.path = some parameters →
      endpoint.request parameters head body = .ok r →
      ∀ f ∈ endpoint.handler.schema, f.attributes.source = .url → f.attributes.name = name →
        ¬ r.Asks name) :
    endpoint.respond other body = endpoint.respond head body := by
  unfold respond
  rw [h.path, h.method]
  cases hmatch : endpoint.route head.target.path with
  | none => rfl
  | some parameters =>
      have hrun : endpoint.run parameters other body = endpoint.run parameters head body := by
        unfold run
        rw [request_of_drops h]
        cases hrequest : endpoint.request parameters head body with
        | error e => rfl
        | ok r =>
            have hhandle := Handler.handle_without (hsilent parameters r hmatch hrequest)
            change ((endpoint.handler.handle (r.without name)).mapError _) =
              (endpoint.handler.handle r).mapError _
            rw [hhandle]
      simp only [hrun]

/-- A request without a body can be read. -/
theorem exists_request_nil (endpoint : Endpoint α) (parameters : List (String × List Char))
    (head : Head) : ∃ r, endpoint.request parameters head [] = .ok r ∧ r.body = none := by
  have hbody := (Request.parts_foldl_addHeaderBytes {} head.headers).2
  simp only [request, Request.ofHead_eq, Request.addBody, List.length_nil, Nat.not_lt_zero,
    if_false, List.all_nil, if_true, Except.map]
  exact ⟨_, rfl, hbody⟩

end Endpoint

/-! ## Reading an address that the path leaves open -/

namespace Handler

/-- A handler for a value that must be in the address, under a name that keys may have. -/
def requiring (name : String) (maxLength : Nat) (hname : isValidKey maxLength name = true) :
    Handler Json where
  schema := [.leaf { name, source := .url, required := true }]
  settings := ⟨∅, ∅, ⟨0, maxLength, 1⟩⟩
  destination := .any
  check_eq := by
    refine (Field.checkAll_eq_ok_iff_wellFormed _).mpr ⟨List.pairwise_singleton _ _, ?_, ?_, ?_, ?_⟩
    · intro f hf
      rw [List.mem_singleton.mp hf]
      refine ⟨?_, ?_⟩
      · intro declared hdeclared
        rw [List.mem_singleton.mp hdeclared]
        exact hname
      · intro conversion hconversion
        cases hconversion
    · intro a hf rule hrule
      cases List.mem_singleton.mp hf
      cases hrule
    · intro a fields hf
      cases List.mem_singleton.mp hf
    · intro a fields hf
      cases List.mem_singleton.mp hf

variable {name : String} {maxLength : Nat} (hname : isValidKey maxLength name = true) {r : Request}

/-- The one value that is picked is the first one of the query string. -/
theorem pick_requiring (hbody : r.body = none) (hpath : valuesOf r.path name = []) :
    pick (requiring name maxLength hname).settings (requiring name maxLength hname).schema r =
      .ok (.ofList
        ((valuesOf r.query name).head?.map fun value => (name, Json.string value)).toList) := by
  have hfind : r.find none { name, source := .url, required := true } =
      (valuesOf r.query name).head?.map .string := by
    simp [Request.find, hpath, Attributes.ofTexts]
  rw [pick_eq_bind, cleanBody, hbody]
  change pickFields _ r none ∅ [.leaf { name, source := .url, required := true }] = _
  rw [pickFields_eq_pickEach, pickEach, Field.attributes, hfind]
  cases (valuesOf r.query name).head? with
  | none => rfl
  | some value => rfl

/-- Where the path is silent, a value in the query string is accepted. -/
theorem exists_handle_requiring (hbody : r.body = none) (hasks : r.Asks name) :
    ∃ value, (requiring name maxLength hname).handle r = .ok value := by
  obtain ⟨hpath, hquery⟩ := hasks
  have hpick := pick_requiring hname hbody hpath
  cases hvalues : valuesOf r.query name with
  | nil => exact absurd hvalues hquery
  | cons value rest =>
      rw [hvalues] at hpick
      have hvalid : validate (requiring name maxLength hname).settings
          (requiring name maxLength hname).schema [(name, .string value)] = .ok () := by
        change Field.validateAll _ 1 [] _ _ = .ok ()
        rw [Field.validateAll_eq_ok]
        intro f hf
        rw [List.mem_singleton.mp hf]
        refine ⟨fun _ _ => rfl, ?_⟩
        intro hmissing
        simp [Entries.get?, Field.key, Field.attributes, Attributes.key] at hmissing
      have hcoerced : coerceObject (requiring name maxLength hname).schema
          [(name, .string value)] = [(name, .string value)] := by
        simp [coerceObject, requiring, Field.coerceAll, Entries.adjust, Field.coerce, coerce]
      have hunmarked : (Json.object [(name, .string value)]).Unmarked :=
        ⟨Json.embedding?_eq_none_of_isValidKey hname, trivial, trivial⟩
      have hdecode : decode (requiring name maxLength hname).schema
          (requiring name maxLength hname).destination [(name, .string value)] =
            .ok (.object [(name, .string value)]) := by
        rw [decode, hcoerced]
        exact Outcome.mapError_eq_ok.mpr (Json.canonical_of_unmarked hunmarked)
      unfold handle
      rw [hpick]
      exact ⟨_, Outcome.bind_eq_ok.mpr ⟨_, rfl, Outcome.test_bind_eq_ok.mpr
        ⟨Outcome.mapError_eq_ok.mpr hvalid, Outcome.mapError_eq_ok.mpr hdecode⟩⟩⟩

/-- Where the query string is silent too, there is no value. -/
theorem exists_violation_requiring (hbody : r.body = none) (hpath : valuesOf r.path name = [])
    (hquery : valuesOf r.query name = []) :
    ∃ v, (requiring name maxLength hname).handle r = .error (.violation v) := by
  have hpick := pick_requiring hname hbody hpath
  rw [hquery] at hpick
  unfold handle
  rw [hpick]
  exact ⟨⟨[.name name], .required⟩, rfl⟩

end Handler

/-! ## Which of the two speaks -/

namespace Endpoint

theorem code_sent (method : String) (response : Response) :
    (sent method response).code = response.code := by
  unfold sent
  split <;> rfl

variable {α : Type} {endpoint : Endpoint α} {route : Route} {name : String} {head : Head}
  {parameters : List (String × List Char)} {body : List UInt8}

theorem code_respond_of_run_eq_ok {value : α}
    (hmatch : endpoint.route head.target.path = some parameters)
    (hrun : endpoint.run parameters head body = .ok value) :
    (endpoint.respond head body).code = (endpoint.answer value).code := by
  unfold respond
  simp only [hmatch, hrun, code_sent]

theorem code_respond_of_run_eq_error {e : ApiError}
    (hmatch : endpoint.route head.target.path = some parameters)
    (hrun : endpoint.run parameters head body = .error e) :
    (endpoint.respond head body).code = e.status.code := by
  unfold respond
  simp only [hmatch, hrun, code_sent]
  rfl

theorem run_eq_ok {r : Request} {value : α}
    (hrequest : endpoint.request parameters head body = .ok r)
    (hhandle : endpoint.handler.handle r = .ok value) :
    endpoint.run parameters head body = .ok value := by
  rw [run, hrequest]
  change (endpoint.handler.handle r).mapError _ = _
  rw [hhandle]
  rfl

theorem run_eq_error {r : Request} {e : Failure}
    (hrequest : endpoint.request parameters head body = .ok r)
    (hhandle : endpoint.handler.handle r = .error e) :
    endpoint.run parameters head body = .error e.toApiError := by
  rw [run, hrequest]
  change (endpoint.handler.handle r).mapError _ = _
  rw [hhandle]
  rfl

/-- An endpoint that answers with the value that must be in the address. -/
def requiring (route : Route) (name : String) (maxLength : Nat)
    (hname : isValidKey maxLength name = true) : Endpoint Json :=
  ⟨route, .requiring name maxLength hname, fun value => ⟨200, some value⟩⟩

/-- Where the parameters of a path are malformed, a request without the pairs of a name is refused
that is accepted with them. -/
theorem code_respond_requiring {maxLength : Nat} (hkey : isValidKey maxLength name = true)
    (hmatch : route head.target.path = some parameters)
    (hdecode : decodeParameters? parameters = none) :
    ((requiring route name maxLength hkey).respond head []).code =
      if valuesOf head.queryPairs name = [] then 422 else 200 := by
  obtain ⟨r, hrequest, hbody⟩ :=
    exists_request_nil (requiring route name maxLength hkey) parameters head
  obtain ⟨hquery, hpath⟩ := parts_of_request hrequest
  have hsilent : valuesOf r.path name = [] := by
    rw [hpath, hdecode]
    rfl
  rw [← hquery]
  split
  · next hnone =>
    obtain ⟨v, hhandle⟩ := Handler.exists_violation_requiring hkey hbody hsilent hnone
    exact code_respond_of_run_eq_error hmatch (run_eq_error hrequest hhandle)
  · next hsome =>
    obtain ⟨value, hhandle⟩ := Handler.exists_handle_requiring hkey hbody ⟨hsilent, hsome⟩
    exact code_respond_of_run_eq_ok hmatch (run_eq_ok hrequest hhandle)

/-- Each parameter of a path has a value, if all of them are well formed. -/
theorem valuesOf_ne_nil (hname : name ∈ parameters.map Prod.fst) {pairs : Pairs}
    (hdecode : decodeParameters? parameters = some pairs) : valuesOf pairs name ≠ [] := by
  intro hnone
  rw [valuesOf_eq_nil_iff, names_of_decodeParameters? hdecode] at hnone
  exact hnone hname

/-- Where the parameters of the path are malformed, some endpoint answers a request that has a pair
of a name in another way than the same request without it. -/
theorem exists_respond_ne {maxLength : Nat} (hkey : isValidKey maxLength name = true)
    (hmatch : route head.target.path = some parameters)
    (hdecode : decodeParameters? parameters = none)
    (hasked : name ∈ head.queryPairs.map Prod.fst) :
    ∃ (endpoint : Endpoint Json) (other : Head), endpoint.route = route ∧ head.Drops name other ∧
      endpoint.respond other [] ≠ endpoint.respond head [] := by
  obtain ⟨other, hdrops⟩ := Head.exists_drops name head
  refine ⟨requiring route name maxLength hkey, other, rfl, hdrops, ?_⟩
  -- The value is required, so that one of the two requests is accepted and the other refused.
  intro hsame
  have hmatch' : route other.target.path = some parameters := by
    rw [hdrops.path]
    exact hmatch
  have hsome : valuesOf head.queryPairs name ≠ [] :=
    fun hnone => valuesOf_eq_nil_iff.mp hnone hasked
  have hcode := congrArg Response.code hsame
  rw [code_respond_requiring hkey hmatch hdecode, code_respond_requiring hkey hmatch' hdecode,
    hdrops.pairs, valuesOf_filter_self, if_pos rfl, if_neg hsome] at hcode
  cases hcode

/-- For a parameter of the path, the path speaks before the query string exactly when all its
parameters are well formed.  If they are not, a field with the name of the parameter takes its value
from the query string, and responses depend on it, provided that the query string has the name and
that some handler can have such a field. -/
theorem path_before_query (hmatch : route head.target.path = some parameters)
    (hname : name ∈ parameters.map Prod.fst) :
    (∀ {α : Type} (endpoint : Endpoint α) (body : List UInt8) (r : Request),
        endpoint.request parameters head body = .ok r →
        ∀ (entries : Option (Entries Json)) (a : Attributes), a.source = .url → a.name = name →
          r.find entries a = a.ofTexts
            (match decodeParameters? parameters with
              | some pairs => valuesOf pairs name
              | none => valuesOf head.queryPairs name)) ∧
      ((∀ {α : Type} (endpoint : Endpoint α) (body : List UInt8) (other : Head),
          endpoint.route = route → head.Drops name other →
            endpoint.respond other body = endpoint.respond head body) ↔
        decodeParameters? parameters ≠ none ∨ name ∉ head.queryPairs.map Prod.fst ∨
          ∀ maxLength, isValidKey maxLength name = false) := by
  refine ⟨?_, ?_, ?_⟩
  · intro α endpoint body r hrequest entries a hsource ha
    obtain ⟨hquery, hpath⟩ := parts_of_request hrequest
    unfold Request.find
    rw [hsource, ha, hquery, hpath]
    cases hdecode : decodeParameters? parameters with
    | none => rfl
    | some pairs =>
        have hsome : (valuesOf pairs name).isEmpty = false := by
          rw [List.isEmpty_eq_false_iff]
          exact valuesOf_ne_nil hname hdecode
        simp only [Option.getD_some, hsome, Bool.false_eq_true, if_false]
  · intro hsame
    by_contra hnot
    simp only [ne_eq, not_or, not_not, not_forall, Bool.not_eq_false] at hnot
    obtain ⟨hdecode, hasked, maxLength, hkey⟩ := hnot
    obtain ⟨endpoint, other, hroute, hdrops, hne⟩ := exists_respond_ne hkey hmatch hdecode hasked
    exact hne (hsame endpoint [] other hroute hdrops)
  · intro hsilent α endpoint body other hroute hdrops
    apply respond_of_drops hdrops
    rintro parameters' r hmatch' hrequest f hf hsource hfname ⟨hpath, hquery⟩
    have hparameters : parameters' = parameters := by
      rw [hroute, hmatch] at hmatch'
      exact (Option.some.inj hmatch').symm
    rw [hparameters] at hrequest
    obtain ⟨hrquery, hrpath⟩ := parts_of_request hrequest
    rcases hsilent with hdecode | hunasked | hkey
    · obtain ⟨pairs, hdecoded⟩ := Option.ne_none_iff_exists'.mp hdecode
      rw [hrpath, hdecoded] at hpath
      exact valuesOf_ne_nil hname hdecoded hpath
    · rw [hrquery] at hquery
      exact hquery (valuesOf_eq_nil_iff.mpr hunasked)
    · have hschema := Schema.wellFormed_of_check endpoint.handler.check_eq
      have hvalid := hschema.isValidKey_name hf
      rw [Field.name, hfname, hkey] at hvalid
      cases hvalid

/-- A route with the identifier of a user. -/
def userPattern : Pattern :=
  [.literal ['u'], .parameter "id"]

/-- A request with a malformed identifier in the path and another one in the query string. -/
def twoIdentifiers : Head :=
  ⟨"GET", ⟨"/u/%FF", some "id=4"⟩, []⟩

theorem twoIdentifiers_path_before_query :
    ¬ ∀ {α : Type} (endpoint : Endpoint α) (body : List UInt8) (other : Head),
      endpoint.route = userPattern.route → twoIdentifiers.Drops "id" other →
        endpoint.respond other body = endpoint.respond twoIdentifiers body := by
  have hmatch : userPattern.route twoIdentifiers.target.path =
      some [("id", ['%', 'F', 'F'])] := by
    rfl
  have hname : "id" ∈ [("id", ['%', 'F', 'F'])].map Prod.fst := List.mem_cons_self
  have hdecode : decodeParameters? [("id", ['%', 'F', 'F'])] = none := by
    decide +kernel
  have hasked : "id" ∈ twoIdentifiers.queryPairs.map Prod.fst := by
    have hpairs : twoIdentifiers.queryPairs = [("id", "4")] := by
      decide +kernel
    rw [hpairs]
    exact List.mem_cons_self
  have hkey : isValidKey 100 "id" = true := by
    decide
  intro hsame
  rcases (path_before_query hmatch hname).2.mp hsame with hdecoded | hunasked | hinvalid
  · exact hdecoded hdecode
  · exact hunasked hasked
  · rw [hinvalid 100] at hkey
    cases hkey

end Endpoint

end Intake
