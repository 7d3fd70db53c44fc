import Introspection.Proofs.Http.Outcomes

/-!
# What responses carry

Two header fields that are added to responses by hand: the identifier of the request, and the order
not to store an answer. Neither is on every response.

The identifier is added last, to whatever was made inside, so no response inside has to have it;
but a failure that nobody foresees passes by the place where it is added (`serve_identifier`). The
order not to store is on what is decided, and is missing from all responses with status 500
(`serve_cacheControl`).
-/

namespace Introspection.Http

/-- The name of the header field for the identifier of a request, as it is looked up. -/
abbrev identifierName : String := lowerCase requestIdHeader

namespace Headers

/-- The first field of a name is in the first part, if there is one. -/
theorem get?_append (first second : Headers) (name : String) :
    get? (first ++ second) name = (get? first name).or (get? second name) := by
  rw [get?, get?, get?, List.find?_append, Option.map_or]

/-- Among fields of other names there is none of a name. -/
theorem get?_eq_none {headers : Headers} {name : String}
    (others : ∀ field ∈ headers, lowerCase field.1 ≠ name) : headers.get? name = none := by
  rw [get?, Option.map_eq_none_iff, List.find?_eq_none]
  intro field member same
  exact others field member (beq_iff_eq.mp same)

end Headers

section Layers

variable {request : Request} {response : Response} {name : String}

/-- The names of the fields that tell of a body. -/
def contentNames : List String := ["content-length", "content-type"]

/-- The names of the fields that tell which origins may see a response. -/
def originNames : List String := ["access-control-allow-origin", "vary"]

theorem lowerCase_of_mem_contentNames : ∀ name ∈ contentNames, lowerCase name = name := by
  decide

theorem lowerCase_of_mem_originNames : ∀ name ∈ originNames, lowerCase name = name := by
  decide

/-- Of the other fields, a response has those that it was made with. -/
theorem Response.get?_ofText {status : Nat} {mediaType : String} {headers : Headers}
    {body : String} (other : name ∉ contentNames) :
    (ofText status mediaType headers body).headers.get? name = headers.get? name := by
  have absent : Headers.get? [("content-length", Text.decimal (Text.utf8 body).length),
      ("content-type", mediaType)] name = none := by
    refine Headers.get?_eq_none fun field member same => other (same ▸ ?_)
    have named : field.1 ∈ contentNames := by
      rw [contentNames]
      exact List.mem_map_of_mem (f := Prod.fst) member
    rwa [lowerCase_of_mem_contentNames _ named]
  rw [ofText, Headers.get?_append, absent, Option.or_none]

/-- Of the other fields, a response has those that it had before it was admitted for its origin. -/
theorem get?_allow (other : name ∉ originNames) :
    (CrossOrigin.allow request response).headers.get? name = response.headers.get? name := by
  have absent : Headers.get? ((if (request.headers.get? "origin").isSome
      then [CrossOrigin.allowOrigin] else []) ++ [("vary", "Origin")]) name = none := by
    refine Headers.get?_eq_none fun field member same => other (same ▸ ?_)
    have named : field.1 ∈ originNames := by
      split at member
      · exact List.mem_map_of_mem (f := Prod.fst) member
      · exact List.mem_cons_of_mem _ (List.mem_map_of_mem (f := Prod.fst) member)
    rwa [lowerCase_of_mem_originNames _ named]
  rw [CrossOrigin.allow, Response.adding, Headers.get?_append, absent, Option.or_none]

/-- Of the other fields, a response has those that it had before it left the service. -/
theorem get?_finish {identifier : String} (other : name ∉ originNames)
    (notIdentifier : name ≠ identifierName) :
    (finish request identifier response).headers.get? name = response.headers.get? name := by
  have lower : lowerCase identifierName = identifierName := by decide
  have absent : Headers.get? [(identifierName, identifier)] name = none := by
    refine Headers.get?_eq_none fun field member same => notIdentifier ?_
    obtain rfl := List.mem_singleton.mp member
    rw [← same, lower]
  rw [finish, Response.adding, Headers.get?_append, absent, Option.or_none, get?_allow other]

end Layers

section Identifier

variable {request : Request} {response : Response} {identifier : String}

/-- A response is unnamed as long as the identifier has not been added. -/
def IsUnnamed (response : Response) : Prop := response.headers.get? identifierName = none

theorem isUnnamed_ofText {status : Nat} {mediaType : String} {headers : Headers} {body : String}
    (unnamed : headers.get? identifierName = none) :
    IsUnnamed (.ofText status mediaType headers body) := by
  rw [IsUnnamed, Response.get?_ofText (by decide), unnamed]

/-- An unnamed response gets the identifier that is added to it. -/
theorem IsUnnamed.get?_adding (unnamed : IsUnnamed response) :
    (response.adding [(identifierName, identifier)]).headers.get? identifierName =
      some identifier := by
  have lower : lowerCase identifierName = identifierName := by decide
  rw [Response.adding, Headers.get?_append, unnamed, Option.none_or]
  simp [Headers.get?, lower]

/-- A response is still unnamed when it has been admitted for its origin. -/
theorem IsUnnamed.allow (unnamed : IsUnnamed response) :
    IsUnnamed (CrossOrigin.allow request response) :=
  (get?_allow (by decide)).trans unnamed

theorem isUnnamed_failureResponse : IsUnnamed failureResponse := isUnnamed_ofText rfl

theorem isUnnamed_ending (ending : Ending) : IsUnnamed ending.response := by
  rcases ending with (_ | denial | (reason | refusal | told)) | store
  case outage => exact isUnnamed_failureResponse
  all_goals exact isUnnamed_ofText (by decide)

theorem isUnnamed_healthResponse : IsUnnamed healthResponse := isUnnamed_ofText rfl

theorem isUnnamed_answer (method : String) : IsUnnamed (CrossOrigin.answer request method) := by
  unfold CrossOrigin.answer
  extract_lets refused headers
  split
  all_goals exact isUnnamed_ofText (by decide)

theorem isUnnamed_notServed : IsUnnamed (notServed request) := by
  unfold notServed
  split
  · next page _ =>
    split
    · exact isUnnamed_ofText rfl
    · cases page
      all_goals exact isUnnamed_ofText (by decide)
  · split
    · have length : lowerCase "content-length" ≠ identifierName := by decide
      have location : lowerCase "location" ≠ identifierName := by decide
      simp [IsUnnamed, Headers.get?, length, location]
    · exact isUnnamed_ofText rfl

end Identifier

section Service

variable {surroundings : Surroundings} {configuration : Configuration} {request : Request}

/-- A response carries the identifier of its request: there is one, and it is the one that the
request was sent with, unless that is empty. -/
def CarriesIdentifier (request : Request) (response : Response) : Prop :=
  ∃ identifier, response.headers.get? identifierName = some identifier ∧
    ∀ sent, request.headers.get? identifierName = some sent -> sent ≠ "" -> identifier = sent

/-- The identifier that is added to a response is the one that its request was sent with. -/
theorem IsUnnamed.carriesIdentifier {inner : Response} (unnamed : IsUnnamed inner)
    (fresh : String) :
    CarriesIdentifier request (inner.adding [(identifierName, requestId request fresh)]) := by
  refine ⟨_, unnamed.get?_adding, fun sent isSent nonempty => ?_⟩
  simp [requestId, isSent, nonempty]

theorem IsUnnamed.not_carriesIdentifier {response : Response} (unnamed : IsUnnamed response) :
    ¬ CarriesIdentifier request response := by
  rintro ⟨identifier, carried, _⟩
  rw [unnamed] at carried
  cases carried

/-- A request to introspect fails in a way that is not foreseen. -/
structure FailsWith (surroundings : Surroundings) (configuration : Configuration)
    (request : Request) (failure : Failure) : Prop where
  post : request.method = "POST"
  page : pageAt? request.path = some .introspection
  unforeseen : IsUnforeseen failure
  failed : (Session.run surroundings
    (introspect configuration surroundings.now.wholeSeconds surroundings.depth request)
      .empty).result = .error failure

/-- A failure that is not foreseen is answered outside of all that is added to responses. -/
theorem FailsWith.serve {failure : Failure}
    (fails : FailsWith surroundings configuration request failure) (fresh : String) :
    (serve surroundings configuration fresh request).response = failureResponse ∧
      (serve surroundings configuration fresh request).failure = some failure := by
  rw [serve_eq fails.post fails.page]
  exact serveIntrospection_of_unforeseen fails.unforeseen fails.failed _

/-- A request is answered with a response to which its identifier is added last, or else it fails
in a way that is not foreseen. -/
theorem serve_exits (surroundings : Surroundings) (configuration : Configuration) (fresh : String)
    (request : Request) :
    (∃ inner, IsUnnamed inner ∧ (serve surroundings configuration fresh request).failure = none ∧
      (serve surroundings configuration fresh request).response =
        inner.adding [(identifierName, requestId request fresh)]) ∨
    ∃ failure, FailsWith surroundings configuration request failure := by
  cases asked : CrossOrigin.asked? request with
  | some method =>
    refine .inl ⟨CrossOrigin.answer request method, isUnnamed_answer method, ?_⟩
    simp only [serve, asked]
    exact ⟨rfl, rfl⟩
  | none =>
    cases served : (pageAt? request.path).filter (·.methods.contains request.method) with
    | none =>
      refine .inl ⟨CrossOrigin.allow request (notServed request), isUnnamed_notServed.allow, ?_⟩
      simp only [serve, asked, served]
      exact ⟨rfl, rfl⟩
    | some page =>
      cases page with
      | health =>
        refine .inl ⟨CrossOrigin.allow request healthResponse, isUnnamed_healthResponse.allow, ?_⟩
        simp only [serve, asked, served]
        exact ⟨rfl, rfl⟩
      | description =>
        refine .inl ⟨CrossOrigin.allow request (notServed request), isUnnamed_notServed.allow, ?_⟩
        simp only [serve, asked, served]
        exact ⟨rfl, rfl⟩
      | introspection =>
        obtain ⟨page, isMethod⟩ := Option.filter_eq_some_iff.mp served
        have post : request.method = "POST" := by simpa [Page.methods] using isMethod
        -- Failures of stores are endings as well: only others pass by what is added to responses.
        rcases exists_endsIn surroundings configuration request with
          ⟨ending, ends⟩ | ⟨failure, unforeseen, failed⟩
        · obtain ⟨isResponse, handled⟩ :=
            serveIntrospection_of_endsIn ends (requestId request fresh)
          rw [serve_eq post page]
          exact .inl ⟨_, (isUnnamed_ending ending).allow, handled, isResponse⟩
        · exact .inr ⟨failure, post, page, unforeseen, failed⟩

/-- Responses carry the identifiers of their requests, whatever is asked for and whatever comes of
it, if the request does not fail in a way that is not foreseen. Only requests to introspect fail so,
by a failure of their procedure that is none of a store, and then the response carries nothing. -/
theorem serve_identifier (surroundings : Surroundings) (configuration : Configuration)
    (fresh : String) (request : Request) :
    let exchange := serve surroundings configuration fresh request
    (CarriesIdentifier request exchange.response ↔ exchange.failure = none) ∧
      ∀ failure, exchange.failure = some failure ↔
        FailsWith surroundings configuration request failure := by
  rcases serve_exits surroundings configuration fresh request with
    ⟨inner, unnamed, handled, isResponse⟩ | ⟨failure, fails⟩
  · simp only [handled, isResponse, iff_true]
    refine ⟨unnamed.carriesIdentifier fresh, fun failure => ⟨nofun, fun fails => ?_⟩⟩
    rw [(fails.serve fresh).2] at handled
    cases handled
  · obtain ⟨isResponse, isFailure⟩ := fails.serve fresh
    simp only [isResponse, isFailure, isUnnamed_failureResponse.not_carriesIdentifier, reduceCtorEq,
      true_and]
    refine fun other => ⟨fun same => Option.some.inj same ▸ fails, fun also => ?_⟩
    exact isFailure.symm.trans (also.serve fresh).2

end Service

/-- The settings under which the following requests are served. -/
def plainConfiguration : Configuration :=
  ⟨.string "uma_protection", .string "subset", .null, .int 0⟩

/-- A database with one client and an access token of it, whose table of access tokens fails. -/
def failingSurroundings (outage : Outage) : Surroundings :=
  ⟨{ tokenDatabase with outages := [(.accessTokens, outage)] }, ⟨0, some 0⟩,
    fun _ => .unreachable, 900⟩

/-- A request with an identifier that comes with the access token, and asks about it. -/
def identifiedRequest : Request :=
  { tokenRequest with headers := ("x-request-id", "r-7") :: tokenRequest.headers }

/-- A request that is sent with an identifier is answered without one when the connection to the
database is refused. -/
theorem refusedConnection_unidentified :
    identifiedRequest.headers.get? identifierName = some "r-7" ∧
      ¬ CarriesIdentifier identifiedRequest
        (serve (failingSurroundings .connection) plainConfiguration "r-1"
          identifiedRequest).response := by
  have isResponse : (serve (failingSurroundings .connection) plainConfiguration "r-1"
      identifiedRequest).response = failureResponse := by
    decide +kernel
  rw [isResponse]
  exact ⟨by decide, isUnnamed_failureResponse.not_carriesIdentifier⟩

section CacheControl

/-- An ending is kept from being stored if it is a decision. -/
theorem get?_cacheControl_ending (ending : Ending) :
    ending.response.headers.get? "cache-control" =
      if ending.status ∈ [200, 403] then some "no-store" else none := by
  have kept : Headers.get? noStore "cache-control" = some "no-store" := by decide
  have basic : Headers.get? [("www-authenticate", "Basic")] "cache-control" = none := by decide
  have challenged : Headers.get? [("www-authenticate", challenge)] "cache-control" = none := by
    decide
  rcases ending with (_ | denial | (reason | refusal | told)) | store
  case settled.malformedBasic => exact (Response.get?_ofText (by decide)).trans basic
  case settled.denied => exact (Response.get?_ofText (by decide)).trans challenged
  case outage => exact Response.get?_ofText (by decide)
  all_goals exact (Response.get?_ofText (by decide)).trans kept

/-- Status 500 is for requests at whose end there is a failure. -/
theorem Ending.Is.status_eq_iff {result : Except Failure Verdict} {ending : Ending}
    (ends : ending.Is result) :
    ending.status = 500 ↔ ∃ failure, result = .error failure := by
  cases ending with
  | outage store =>
    obtain ⟨fromDatabase, failed⟩ := ends
    exact ⟨fun _ => ⟨_, failed⟩, fun _ => rfl⟩
  | settled verdict =>
    obtain rfl : result = .ok verdict := ends
    rcases verdict with _ | denial | (reason | refusal | told)
    all_goals simp [status]

/-- What is decided of a request to introspect is kept from being stored, and nothing else is:
responses with status 200 and 403 carry the order not to store them, and no other response has such
a field. Status 500 is for all failures, be they those of a store or others. -/
theorem serve_cacheControl {surroundings : Surroundings} {configuration : Configuration}
    {request : Request} (post : request.method = "POST")
    (page : pageAt? request.path = some .introspection) (fresh : String) :
    let response := (serve surroundings configuration fresh request).response
    (response.status = 500 ↔ ∃ failure, (Session.run surroundings
        (introspect configuration surroundings.now.wholeSeconds surroundings.depth request)
          .empty).result = .error failure) ∧
      response.headers.get? "cache-control" =
        if response.status ∈ [200, 403] then some "no-store" else none := by
  rw [serve_eq post page]
  rcases exists_endsIn surroundings configuration request with
    ⟨ending, ends⟩ | ⟨failure, unforeseen, failed⟩
  · have isResponse := (serveIntrospection_of_endsIn ends (requestId request fresh)).1
    have isStatus : (finish request (requestId request fresh) ending.response).status =
        ending.status := by
      rw [Response.status_finish, ending.status_response]
    simp only [isResponse, isStatus]
    refine ⟨ends.result.status_eq_iff, ?_⟩
    rw [get?_finish (by decide) (by decide), get?_cacheControl_ending]
  · have isResponse :=
      (serveIntrospection_of_unforeseen unforeseen failed (requestId request fresh)).1
    simp only [isResponse]
    exact ⟨⟨fun _ => ⟨failure, failed⟩, fun _ => rfl⟩, Response.get?_ofText (by decide)⟩

/-- That a token is active is answered with the order not to store it. -/
theorem serve_cacheControl_own_token :
    tokenRequest.method = "POST" ∧ pageAt? tokenRequest.path = some .introspection ∧
      (serve ⟨tokenDatabase, ⟨0, some 0⟩, fun _ => .unreachable, 900⟩ plainConfiguration "r-1"
        tokenRequest).response.headers.get? "cache-control" = some "no-store" := by
  have isStatus : (serve ⟨tokenDatabase, ⟨0, some 0⟩, fun _ => .unreachable, 900⟩ plainConfiguration
      "r-1" tokenRequest).response.status = 200 := by
    decide +kernel
  obtain ⟨_, carried⟩ := @serve_cacheControl
    ⟨tokenDatabase, ⟨0, some 0⟩, fun _ => .unreachable, 900⟩ plainConfiguration tokenRequest rfl rfl
    "r-1"
  rw [isStatus] at carried
  exact ⟨rfl, rfl, carried⟩

/-- A request that meets a table that fails is answered with status 500, and nothing keeps this
answer from being stored. -/
theorem failingTable_storable :
    tokenRequest.method = "POST" ∧ pageAt? tokenRequest.path = some .introspection ∧
      let response := (serve (failingSurroundings .database) plainConfiguration "r-1"
        tokenRequest).response
      response.status = 500 ∧ response.headers.get? "cache-control" = none := by
  have isResponse : (serve (failingSurroundings .database) plainConfiguration "r-1"
      tokenRequest).response = finish tokenRequest "r-1" failureResponse := by
    decide +kernel
  simp only [isResponse]
  exact ⟨rfl, rfl, rfl, (get?_finish (by decide) (by decide)).trans
    (Response.get?_ofText (by decide))⟩

end CacheControl

end Introspection.Http
