import Introspection.Proofs.Decision.Answers
import Introspection.Proofs.Decision.Kinds
import Introspection.Proofs.Double.Range
import Introspection.Proofs.Json.RoundTrip
import Introspection.Proofs.Session.Economy

/-!
# Outcomes over HTTP

A request for introspection passes two layers, authentication and the service, and either may come
to a store that cannot answer. How it ends is read off the two (`EndsIn`), which run one after the
other in one session. The response follows from the ending and from nothing else
(`serveIntrospection_of_endsIn`), so that the ending can be told from the response as far as it is
meant to be (`serve_outcome`): whether a token is active is told by status 200 alone, refusals by
the policy all look the same, and a store that cannot answer is never taken for a token that is
not active, for a refusal, or for a credential that is not accepted.

What a body says is what is read from its text. Of an active token this rests on the round trip of
answers, and on the time of expiry having few enough digits.
-/

namespace Introspection

/-- The whole seconds of a moment have so few digits that they can be read back. -/
theorem Moment.length_wholeSeconds_le (moment : Moment) :
    (Text.decimalDigits moment.wholeSeconds.natAbs).length ≤ Text.digitLimit := by
  have bounded : moment.wholeSeconds.natAbs ≤ 2 ^ 53 * 2 ^ Double.greatestExponent.toNat := by
    unfold wholeSeconds
    cases truncated : (Double.ofQuotient moment.instant 1000000).truncate? with
    | none => exact Nat.zero_le _
    | some seconds => exact Double.natAbs_truncate?_le (by decide) truncated
  have fits : 53 + Double.greatestExponent.toNat ≤ Text.digitLimit := by decide
  generalize Double.greatestExponent.toNat = greatest at bounded fits
  have few : moment.wholeSeconds.natAbs < 10 ^ Text.digitLimit :=
    calc moment.wholeSeconds.natAbs
      _ ≤ 2 ^ 53 * 2 ^ greatest := bounded
      _ = 2 ^ (53 + greatest) := (pow_add _ _ _).symm
      _ < 10 ^ (53 + greatest) := Nat.pow_lt_pow_left (by decide) (by omega)
      _ ≤ 10 ^ Text.digitLimit := Nat.pow_le_pow_right (by decide) fits
  exact (Nat.length_toDigits_le_iff (by decide) (by decide)).mpr few

namespace Answer

/-- The fields of an answer are values without parts. -/
theorem isScalar_of_mem_fields {answer : Answer}
    (short : ∀ expiry, answer.expiry = some expiry ->
      (Text.decimalDigits expiry.natAbs).length ≤ Text.digitLimit) :
    ∀ field ∈ answer.fields, field.2.IsScalar := by
  have text (value : Option String) : (Json.ofString? value).IsScalar := by
    cases value with
    | none => exact .null
    | some text => exact .string text
  have expiry : ((answer.expiry.map Json.int).getD .null).IsScalar := by
    cases told : answer.expiry with
    | none => exact .null
    | some expiry => exact .int (short expiry told)
  simp only [fields, List.forall_mem_cons, List.not_mem_nil, false_imp_iff, implies_true, and_true]
  exact ⟨.bool _, text _, text _, expiry, text _, text _, text _, text _⟩

/-- What is published of an answer can be read back. -/
theorem read?_payload {answer : Answer}
    (short : ∀ expiry, answer.expiry = some expiry ->
      (Text.decimalDigits expiry.natAbs).length ≤ Text.digitLimit) :
    Json.read? (answer.payload.write .answer).toList = some answer.payload := by
  cases active : answer.active with
  | false =>
    have inactive : answer.payload = .object [("active", .bool false)] := by
      simp [payload, active]
    rw [inactive]
    exact Json.read?_write (by simpa using Json.IsScalar.bool false) (by simp)
  | true =>
    rw [payload_of_active active]
    refine Json.read?_write (fun member published => ?_) ?_
    · exact isScalar_of_mem_fields short member (List.mem_filter.mp published).1
    · exact answer.nodup_fields.sublist (List.filter_sublist.map _)

/-- Whether the token is active is always published. -/
theorem get?_active (answer : Answer) :
    answer.payload.get? "active" = some (.bool answer.active) := by
  cases active : answer.active with
  | false => simp [payload, active, Json.get?, Json.member?]
  | true => simp [payload, active, fields, Json.get?, Json.member?]

end Answer

namespace Http

/-- The value of a body, for one that is a JSON text. -/
def Response.value? (response : Response) : Option Json := Json.read? response.body.toList

/-- The member of a body, for one that is an object. -/
def Response.member? (response : Response) (name : String) : Option Json :=
  response.value?.bind (·.get? name)

/-- How a request for introspection ends: with a verdict, or at a store that cannot answer. -/
inductive Ending
  | settled (verdict : Verdict)
  | outage (store : Store)

/-- The response to an ending, before it leaves the service. -/
def Ending.response : Ending -> Response
  | .settled verdict => verdict.response
  | .outage _ => failureResponse

section Layers

variable (surroundings : Surroundings) (configuration : Configuration) (request : Request)

/-- The credentials of a request are these. -/
def Presented (credentials : Credentials) : Prop :=
  Authorization.read? (request.headers.get? "authorization") = some credentials

/-- Authentication of the requester by its credentials, in a new session. -/
def authentication (credentials : Credentials) :
    Transcript Question Session (Except Denial Requester) :=
  Session.run surroundings (Credential.authenticate
    ⟨request.address, surroundings.now.wholeSeconds, configuration.leeway, surroundings.depth⟩
      credentials) .empty

/-- The decision that a request asks for. -/
def decision (policy : Policy) (requester : Requester) : Decision Outcome :=
  Decision.introspect policy (Form.value? (Form.read request) "token")
    (.ofString? (Form.value? (Form.read request) "token_type_hint")) requester

/-- The service to an authenticated requester, in the session that authentication leaves. -/
def service (credentials : Credentials) (policy : Policy) (requester : Requester) :
    Transcript Lookup Session Outcome :=
  (authentication surroundings configuration request credentials).state.runDecision
    surroundings.database surroundings.now (decision request policy requester)

/-- How a request ends, by what comes of authentication and then of the service. -/
inductive EndsIn : Ending -> Prop
  /-- There is a basic credential that cannot be read. -/
  | malformed (unreadable : Authorization.read? (request.headers.get? "authorization") = none) :
      EndsIn (.settled .malformedBasic)
  /-- The credential is not accepted. -/
  | denied {credentials : Credentials} {denial : Denial} (presented : Presented request credentials)
      (refused : (authentication surroundings configuration request credentials).result =
        .ok (.error denial)) :
      EndsIn (.settled (.denied denial))
  /-- A store cannot answer while the requester is authenticated. -/
  | unauthenticated {credentials : Credentials} {store : Store} {fromDatabase : Bool}
      (presented : Presented request credentials)
      (failed : (authentication surroundings configuration request credentials).result =
        .error (.unavailable store fromDatabase)) :
      EndsIn (.outage store)
  /-- The requester is authenticated, and the service has an outcome. -/
  | decided {credentials : Credentials} {requester : Requester} {policy : Policy}
      {outcome : Outcome} (presented : Presented request credentials)
      (authenticated : (authentication surroundings configuration request credentials).result =
        .ok (.ok requester))
      (laidDown : configuration.policy = .ok policy)
      (served : (service surroundings configuration request credentials policy requester).result =
        .ok outcome) :
      EndsIn (.settled (.decided outcome))
  /-- The requester is authenticated, and a store cannot answer the service. -/
  | undecided {credentials : Credentials} {requester : Requester} {policy : Policy} {store : Store}
      {fromDatabase : Bool} (presented : Presented request credentials)
      (authenticated : (authentication surroundings configuration request credentials).result =
        .ok (.ok requester))
      (laidDown : configuration.policy = .ok policy)
      (failed : (service surroundings configuration request credentials policy requester).result =
        .error (.unavailable store fromDatabase)) :
      EndsIn (.outage store)

end Layers

section Run

variable {surroundings : Surroundings} {configuration : Configuration} {request : Request}

/-- The result of a run is the one that belongs to an ending. -/
def Ending.Is (result : Except Failure Verdict) : Ending -> Prop
  | .settled verdict => result = .ok verdict
  | .outage store => ∃ fromDatabase, result = .error (.unavailable store fromDatabase)

/-- How the whole procedure runs, from how authentication and the service do. -/
theorem result_introspect (surroundings : Surroundings) (configuration : Configuration)
    {credentials : Credentials} (presented : Presented request credentials) :
    (Session.run surroundings
        (introspect configuration surroundings.now.wholeSeconds surroundings.depth request)
          .empty).result = (do
      match <- (authentication surroundings configuration request credentials).result with
      | .error denial => return .denied denial
      | .ok requester =>
        let policy <- configuration.policy
        let outcome <-
          (service surroundings configuration request credentials policy requester).result
        return .decided outcome) := by
  unfold Presented at presented
  rw [Session.result_run, introspect]
  simp only [presented]
  rw [Inquiry.eval_bind, authentication, Session.result_run]
  refine bind_congr fun outcome => ?_
  cases outcome with
  | error denial => rfl
  | ok requester =>
    simp only [Inquiry.eval_bind, Inquiry.eval_ofExcept, Procedure.eval_ofDecision, service,
      authentication, Session.result_runDecision]
    rfl

/-- How a request ends is how the whole procedure runs. -/
theorem EndsIn.result {ending : Ending} (ends : EndsIn surroundings configuration request ending) :
    ending.Is (Session.run surroundings
      (introspect configuration surroundings.now.wholeSeconds surroundings.depth request)
        .empty).result := by
  cases ends with
  | malformed unreadable =>
    simp only [Ending.Is, Session.result_run, introspect, unreadable]
    rfl
  | denied presented refused =>
    rw [Ending.Is, result_introspect _ _ presented, refused]
    rfl
  | unauthenticated presented failed =>
    exact ⟨_, by rw [result_introspect _ _ presented, failed]; rfl⟩
  | decided presented authenticated laidDown served =>
    rw [Ending.Is, result_introspect _ _ presented, authenticated]
    simp [laidDown, served]
  | @undecided _ _ _ _ fromDatabase presented authenticated laidDown failed =>
    refine ⟨fromDatabase, ?_⟩
    rw [result_introspect _ _ presented, authenticated]
    simp [laidDown, failed]

/-- A result belongs to one ending. -/
theorem Ending.Is.unique {result : Except Failure Verdict} {one other : Ending}
    (first : one.Is result) (second : other.Is result) : one = other := by
  cases one with
  | settled verdict =>
    obtain rfl : result = .ok verdict := first
    cases other with
    | settled verdict => rw [Except.ok.inj second]
    | outage store =>
      obtain ⟨_, impossible⟩ := second
      cases impossible
  | outage store =>
    obtain ⟨_, rfl⟩ := first
    cases other with
    | settled verdict => cases second
    | outage store =>
      obtain ⟨_, same⟩ := second
      cases same
      rfl

/-- A request ends in one way. -/
theorem EndsIn.unique {one other : Ending} (ends : EndsIn surroundings configuration request one)
    (also : EndsIn surroundings configuration request other) : one = other :=
  ends.result.unique also.result

/-- A request that fails at a store ends there. -/
theorem EndsIn.outage_of_result {ending : Ending}
    (ends : EndsIn surroundings configuration request ending) {store : Store} {fromDatabase : Bool}
    (failed : (Session.run surroundings
      (introspect configuration surroundings.now.wholeSeconds surroundings.depth request)
        .empty).result =
        .error (.unavailable store fromDatabase)) :
    EndsIn surroundings configuration request (.outage store) := by
  have there : (Ending.outage store).Is _ := ⟨fromDatabase, failed⟩
  exact ends.result.unique there ▸ ends

/-- A failure that is not one of a store. -/
def IsUnforeseen (failure : Failure) : Prop :=
  ∀ store fromDatabase, failure ≠ .unavailable store fromDatabase

/-- A request ends, or fails in a way that is not foreseen. -/
theorem exists_endsIn (surroundings : Surroundings) (configuration : Configuration)
    (request : Request) :
    (∃ ending, EndsIn surroundings configuration request ending) ∨
      ∃ failure, IsUnforeseen failure ∧
        (Session.run surroundings
          (introspect configuration surroundings.now.wholeSeconds surroundings.depth request)
            .empty).result =
            .error failure := by
  have foreseen (failure : Failure) :
      (∃ store fromDatabase, failure = .unavailable store fromDatabase) ∨
        IsUnforeseen failure := by
    cases failure with
    | unavailable store fromDatabase => exact .inl ⟨_, _, rfl⟩
    | _ => exact .inr fun _ _ same => by cases same
  cases presented : Authorization.read? (request.headers.get? "authorization") with
  | none => exact .inl ⟨_, .malformed presented⟩
  | some credentials =>
    have result := result_introspect surroundings configuration presented
    cases authenticated :
        (authentication surroundings configuration request credentials).result with
    | error failure =>
      rcases foreseen failure with ⟨store, fromDatabase, rfl⟩ | unforeseen
      · exact .inl ⟨_, .unauthenticated presented authenticated⟩
      · exact .inr ⟨failure, unforeseen, by rw [result, authenticated]; rfl⟩
    | ok outcome =>
      cases outcome with
      | error denial => exact .inl ⟨_, .denied presented authenticated⟩
      | ok requester =>
        cases laidDown : configuration.policy with
        | error failure =>
          refine .inr ⟨failure, ?_, by rw [result, authenticated]; simp [laidDown]⟩
          unfold Configuration.policy ScopeRule.ofJson at laidDown
          split at laidDown
          · cases laidDown
          · cases laidDown
            exact fun _ _ same => by cases same
        | ok policy =>
          cases served :
            (service surroundings configuration request credentials policy requester).result with
          | ok outcome => exact .inl ⟨_, .decided presented authenticated laidDown served⟩
          | error failure =>
            rcases foreseen failure with ⟨store, fromDatabase, rfl⟩ | unforeseen
            · exact .inl ⟨_, .undecided presented authenticated laidDown served⟩
            · exact .inr ⟨failure, unforeseen, by
                rw [result, authenticated]; simp [laidDown, served]⟩

/-- How introspection is served, when the request ends. -/
theorem serveIntrospection_of_endsIn {ending : Ending}
    (ends : EndsIn surroundings configuration request ending) (identifier : String) :
    let exchange := serveIntrospection surroundings configuration identifier request
    exchange.response = finish request identifier ending.response ∧ exchange.failure = none := by
  have result := ends.result
  unfold serveIntrospection
  generalize Session.run surroundings _ .empty = transcript at result
  obtain ⟨outcome, asked, events, state⟩ := transcript
  cases ending with
  | settled verdict =>
    obtain rfl : outcome = .ok verdict := result
    exact ⟨rfl, rfl⟩
  | outage store =>
    obtain ⟨fromDatabase, isError⟩ := result
    obtain rfl : outcome = .error (.unavailable store fromDatabase) := isError
    exact ⟨rfl, rfl⟩

/-- A failure that is not foreseen is told, and answered outside of all that is added to
responses. -/
theorem serveIntrospection_of_unforeseen {failure : Failure} (unforeseen : IsUnforeseen failure)
    (failed : (Session.run surroundings
      (introspect configuration surroundings.now.wholeSeconds surroundings.depth request)
        .empty).result =
        .error failure) (identifier : String) :
    let exchange := serveIntrospection surroundings configuration identifier request
    exchange.response = failureResponse ∧ exchange.failure = some failure := by
  unfold serveIntrospection
  generalize Session.run surroundings _ .empty = transcript at failed
  obtain ⟨outcome, asked, events, state⟩ := transcript
  obtain rfl : outcome = .error failure := failed
  cases failure with
  | unavailable store fromDatabase => exact absurd rfl (unforeseen store fromDatabase)
  | _ => exact ⟨rfl, rfl⟩

/-- A request to introspect is served by introspection. -/
theorem serve_eq (post : request.method = "POST")
    (page : pageAt? request.path = some .introspection) (fresh : String) :
    serve surroundings configuration fresh request =
      serveIntrospection surroundings configuration (requestId request fresh) request := by
  have notAsked : CrossOrigin.asked? request = none := by
    simp [CrossOrigin.asked?, post]
  have served : (pageAt? request.path).filter (·.methods.contains request.method) =
      some .introspection := by
    rw [page, post]
    rfl
  simp only [serve, notAsked, served]

end Run

/-- What a body says that holds nothing but a message. -/
def detail (message : String) : Json := .object [("detail", .string message)]

namespace Response

/-- A response says what it was made to say, when that can be read back. -/
theorem value?_ofJson (status : Nat) (headers : Headers) {value : Json}
    (readable : Json.read? (value.write .answer).toList = some value) :
    (ofJson status headers value).value? = some value := readable

theorem value?_detail (status : Nat) (headers : Headers) (message : String) :
    (Response.detail status headers message).value? = some (Http.detail message) :=
  value?_ofJson status headers (Json.read?_write (by simpa using Json.IsScalar.string message)
    (by simp))

/-- A response leaves the service with the status and the body that it was given. -/
theorem value?_finish (request : Request) (identifier : String) (response : Response) :
    (finish request identifier response).value? = response.value? := rfl

theorem status_finish (request : Request) (identifier : String) (response : Response) :
    (finish request identifier response).status = response.status := rfl

end Response

/-- The status of the response to an ending. -/
def Ending.status : Ending -> Nat
  | .settled (.decided (.inactive _)) => 200
  | .settled (.decided (.active _)) => 200
  | .settled (.decided (.forbidden _)) => 403
  | .settled _ => 401
  | .outage _ => 500

/-- What the response to an ending says. -/
def Ending.content : Ending -> Json
  | .settled .malformedBasic => detail "Not authenticated"
  | .settled (.denied denial) => detail denial.name
  | .settled (.decided (.inactive _)) => .object [("active", .bool false)]
  | .settled (.decided (.active told)) => told.payload
  | .settled (.decided (.forbidden _)) => detail "forbidden"
  | .outage _ => detail "Internal Server Error"

/-- Whether the response to an ending says that the token is active. -/
def Ending.active? : Ending -> Option Bool
  | .settled (.decided (.inactive _)) => some false
  | .settled (.decided (.active _)) => some true
  | _ => none

namespace Ending

theorem status_response (ending : Ending) : ending.response.status = ending.status := by
  rcases ending with (_ | denial | (reason | refusal | told)) | store
  all_goals rfl

/-- Whether the token is active is said with status 200. -/
theorem status_eq_ok_iff (ending : Ending) :
    (∃ value, ending.active?.map Json.bool = some value) ↔ ending.status = 200 := by
  rcases ending with (_ | denial | (reason | refusal | told)) | store
  all_goals simp [status, active?]

/-- That the token is active is said of active outcomes. -/
theorem active_iff (ending : Ending) :
    ending.status = 200 ∧ ending.active?.map Json.bool = some (.bool true) ↔
      ∃ told, .settled (.decided (.active told)) = ending := by
  rcases ending with (_ | denial | (reason | refusal | told)) | store
  all_goals simp [status, active?]

/-- Status 401 is for requesters that are not authenticated. -/
theorem status_eq_unauthorized_iff (ending : Ending) :
    ending.status = 401 ↔
      .settled .malformedBasic = ending ∨ ∃ denial, .settled (.denied denial) = ending := by
  rcases ending with (_ | denial | (reason | refusal | told)) | store
  all_goals simp [status]

end Ending

section Law

variable {surroundings : Surroundings} {configuration : Configuration} {request : Request}
  {ending : Ending}

/-- An active outcome is an answer that can be read back, and tells that the token is active. -/
theorem EndsIn.readable {told : Answer}
    (ends : EndsIn surroundings configuration request (.settled (.decided (.active told)))) :
    told.active = true ∧ Json.read? (told.payload.write .answer).toList = some told.payload := by
  cases ends with
  | decided presented authenticated laidDown served =>
    rw [service, authentication, Session.result_runDecision] at served
    obtain ⟨_, _, token, user, _, answers⟩ := Decision.eval_introspect_eq_active.mp served
    obtain ⟨issuer, rfl⟩ := Decision.exists_answer_of_assemble answers.assembled
    refine ⟨rfl, Answer.read?_payload fun expiry isExpiry => ?_⟩
    obtain ⟨moment, _, rfl⟩ := Option.map_eq_some_iff.mp isExpiry
    exact moment.length_wholeSeconds_le

/-- The response to an ending says what belongs to it. -/
theorem EndsIn.value?_response (ends : EndsIn surroundings configuration request ending) :
    ending.response.value? = some ending.content := by
  cases ending with
  | outage store => exact Response.value?_detail ..
  | settled verdict =>
    cases verdict with
    | malformedBasic => exact Response.value?_detail ..
    | denied denial => exact Response.value?_detail ..
    | decided outcome =>
      cases outcome with
      | inactive reason =>
        exact Response.value?_ofJson _ _
          (Json.read?_write (by simpa using Json.IsScalar.bool false) (by simp))
      | forbidden refusal => exact Response.value?_detail ..
      | active told => exact Response.value?_ofJson _ _ ends.readable.2

/-- The response to an ending says whether the token is active. -/
theorem EndsIn.get?_active (ends : EndsIn surroundings configuration request ending) :
    ending.content.get? "active" = ending.active?.map Json.bool := by
  rcases ending with (_ | denial | (reason | refusal | told)) | store
  case settled.decided.active => exact told.get?_active.trans (by rw [ends.readable.1]; rfl)
  all_goals rfl

/-- Nothing but that the token is not active is said of inactive outcomes. -/
theorem EndsIn.inactive_iff (ends : EndsIn surroundings configuration request ending) :
    ending.status = 200 ∧ ending.content = .object [("active", .bool false)] ↔
      ∃ reason, .settled (.decided (.inactive reason)) = ending := by
  have said := ends.get?_active
  clear ends
  rcases ending with (_ | denial | (reason | refusal | told)) | store
  case settled.decided.active =>
    have other : told.payload ≠ .object [("active", .bool false)] := by
      intro same
      rw [Ending.content, same] at said
      simp [Json.get?, Json.member?, Ending.active?] at said
    simp [Ending.content, other]
  all_goals simp [Ending.status, Ending.content]

/-- A request that ends in one way ends in this way alone. -/
theorem EndsIn.iff (ends : EndsIn surroundings configuration request ending) (other : Ending) :
    EndsIn surroundings configuration request other ↔ other = ending :=
  ⟨fun also => also.unique ends, fun same => same ▸ ends⟩

end Law

/-- What an exchange tells about the way in which its request ends. -/
structure OutcomeLaw (surroundings : Surroundings) (configuration : Configuration)
    (request : Request) (identifier : String) (exchange : Exchange) : Prop where
  /-- Whether a token is active is told with status 200, and not otherwise. -/
  told : (∃ value, exchange.response.member? "active" = some value) ↔
    exchange.response.status = 200
  /-- Nothing but that a token is not active is told where the requester was authenticated and the
  service found it so. -/
  inactive :
    exchange.response.status = 200 ∧
        exchange.response.value? = some (.object [("active", .bool false)]) ↔
      ∃ reason, EndsIn surroundings configuration request (.settled (.decided (.inactive reason)))
  /-- That a token is active is told where the service found it so. -/
  active :
    exchange.response.status = 200 ∧
        exchange.response.member? "active" = some (.bool true) ↔
      ∃ told, EndsIn surroundings configuration request (.settled (.decided (.active told)))
  /-- A refusal by the policy shows in nothing but that it is one. -/
  forbidden (refusal : Refusal) :
    EndsIn surroundings configuration request (.settled (.decided (.forbidden refusal))) ->
      exchange.response.status = 403 ∧ exchange.response.value? = some (detail "forbidden") ∧
        exchange.response = finish request identifier (.detail 403 noStore "forbidden")
  /-- A store that cannot answer, while the requester is authenticated or later. -/
  outage (store : Store) :
    EndsIn surroundings configuration request (.outage store) ->
      exchange.response.status = 500 ∧
        exchange.response.value? = some (detail "Internal Server Error") ∧
        exchange.response = finish request identifier failureResponse
  /-- Every query of a store whose database reports an error leads there. -/
  query (query : Query) (made : query ∈ exchange.queries) :
    surroundings.database.outages.get? query.store = some .database ->
      EndsIn surroundings configuration request (.outage query.store)
  /-- Status 401 is for requesters that are not authenticated. -/
  denied : exchange.response.status = 401 ↔
    EndsIn surroundings configuration request (.settled .malformedBasic) ∨
      ∃ denial, EndsIn surroundings configuration request (.settled (.denied denial))

/-- The law of outcomes of a request for introspection, whatever the database holds and whichever
of its tables fail, unless something else fails than a store. -/
theorem serve_outcome {surroundings : Surroundings} {configuration : Configuration}
    {request : Request} (post : request.method = "POST")
    (page : pageAt? request.path = some .introspection) (fresh : String)
    (handled : (serve surroundings configuration fresh request).failure = none) :
    OutcomeLaw surroundings configuration request (requestId request fresh)
      (serve surroundings configuration fresh request) := by
  rw [serve_eq post page] at handled ⊢
  rcases exists_endsIn surroundings configuration request with
    ⟨ending, ends⟩ | ⟨failure, unforeseen, failed⟩
  · have isResponse := (serveIntrospection_of_endsIn ends (requestId request fresh)).1
    have isStatus : (serveIntrospection surroundings configuration (requestId request fresh)
        request).response.status = ending.status := by
      rw [isResponse, Response.status_finish, ending.status_response]
    have isValue : (serveIntrospection surroundings configuration (requestId request fresh)
        request).response.value? = some ending.content := by
      rw [isResponse, Response.value?_finish, ends.value?_response]
    have isMember : (serveIntrospection surroundings configuration (requestId request fresh)
        request).response.member? "active" = ending.active?.map Json.bool := by
      rw [Response.member?, isValue, ← ends.get?_active]
      rfl
    constructor
    · simpa only [isMember, isStatus] using ending.status_eq_ok_iff
    · simpa only [isStatus, isValue, ends.iff, Option.some.injEq] using ends.inactive_iff
    · simpa only [isStatus, isMember, ends.iff] using ending.active_iff
    · intro refusal also
      obtain rfl := also.unique ends
      exact ⟨isStatus, isValue, isResponse⟩
    · intro store also
      obtain rfl := also.unique ends
      exact ⟨isStatus, isValue, isResponse⟩
    · intro query made broken
      rw [queries_serveIntrospection] at made
      have failed := Session.result_eq_error_of_query (meets_introspect _ _ _ _) made
        (Database.failure?_eq_some.mpr (.inl ⟨broken, rfl⟩))
      exact ends.outage_of_result failed
    · simpa only [isStatus, ends.iff] using ending.status_eq_unauthorized_iff
  · rw [(serveIntrospection_of_unforeseen unforeseen failed _).2] at handled
    cases handled

/-- A database with one client and an access token of it. -/
def tokenDatabase : Database where
  clients := [⟨"shop", .null, .null, .null, .null, .null, .null, .null, .null⟩]
  accessTokens := [⟨"t-1", .string "shop", .null, .list [.string "uma_protection"], .null,
    some ⟨5000000, some 0⟩⟩]
  refreshTokens := []
  users := []
  outages := []

/-- A request that comes with the access token, and asks about it. -/
def tokenRequest : Request where
  server := "localhost"
  method := "POST"
  scheme := "http"
  path := "/introspect"
  query := ""
  headers := [("authorization", "Bearer t-1"),
    ("content-type", "application/x-www-form-urlencoded")]
  body := Text.utf8 "token=t-1"

/-- The request is answered with status 200 and that the token is active. -/
theorem serve_outcome_own_token :
    let surroundings : Surroundings := ⟨tokenDatabase, ⟨0, some 0⟩, fun _ => .unreachable, 900⟩
    let configuration : Configuration :=
      ⟨.string "uma_protection", .string "subset", .null, .int 0⟩
    let exchange := serve surroundings configuration "r-1" tokenRequest
    tokenRequest.method = "POST" ∧ pageAt? tokenRequest.path = some .introspection ∧
      exchange.failure = none ∧ exchange.response.status = 200 ∧
        exchange.response.member? "active" = some (.bool true) := by
  intro surroundings configuration exchange
  have handled : exchange.failure = none := by decide +kernel
  have presented : Presented tokenRequest ⟨some ("Bearer", "t-1"), none⟩ := rfl
  have told : EndsIn surroundings configuration tokenRequest (.settled (.decided (.active
      ⟨true, some "uma_protection", some "shop", some 5, none, none, some "Bearer", none⟩))) :=
    .decided presented rfl rfl rfl
  exact ⟨rfl, rfl, handled, (serve_outcome rfl rfl "r-1" handled).active.mpr ⟨_, told⟩⟩

end Http

end Introspection
