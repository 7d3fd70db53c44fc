import Introspection.Proofs.Http.HeaderFields
import Mathlib.Data.List.TakeWhile

/-!
# The challenge of a denial

A requester that is not authenticated is answered with status 401 and a challenge, which names the
schemes to come back with: both of them, whichever way authentication is denied. Before that, the
header of the request is read, and one in the basic scheme that cannot be read is answered there,
with a challenge of its own that names the basic scheme alone (`serve_challenge`).
-/

namespace Introspection.Http

namespace Authorization

/-- A text that is read as no id and secret: it is not in base64, or what it stands for is not in
ASCII, or has no colon. -/
inductive IsUnreadable (encoded : String) : Prop
  | undecodable (noBytes : (Text.Ascii.encode? encoded).bind Base64.decode? = none)
  | binary {bytes : List UInt8}
      (decoded : (Text.Ascii.encode? encoded).bind Base64.decode? = some bytes)
      (noText : Text.Ascii.decode? bytes = none)
  | undivided {bytes : List UInt8} {text : String}
      (decoded : (Text.Ascii.encode? encoded).bind Base64.decode? = some bytes)
      (isText : Text.Ascii.decode? bytes = some text) (noColon : ':' ∉ text.toList)

/-- A header in the basic scheme, with a credential that cannot be read. -/
def IsMalformedBasic (header : String) : Prop :=
  schemeOf header = "basic" ∧ IsUnreadable (divide header).2

/-- What is left of a text from the first colon on is nothing where there is no colon. -/
theorem dropWhile_colon_eq_nil {text : List Char} :
    text.dropWhile (· ≠ ':') = [] ↔ ':' ∉ text := by
  simp [List.dropWhile_eq_nil_iff, List.forall_mem_ne']

/-- No id and secret are read from a text just when it is unreadable. -/
theorem readBasic?_eq_none {encoded : String} :
    readBasic? encoded = none ↔ IsUnreadable encoded := by
  simp only [readBasic?, Option.bind_eq_bind]
  rw [← Option.bind_assoc]
  constructor
  · intro unread
    cases decoded : (Text.Ascii.encode? encoded).bind Base64.decode? with
    | none => exact .undecodable decoded
    | some bytes =>
      rw [decoded, Option.bind_some] at unread
      cases isText : Text.Ascii.decode? bytes with
      | none => exact .binary decoded isText
      | some text =>
        rw [isText, Option.bind_some] at unread
        refine .undivided decoded isText (dropWhile_colon_eq_nil.mp ?_)
        split at unread
        · cases unread
        · next nothing => exact nothing
  · intro unreadable
    cases unreadable with
    | undecodable noBytes => rw [noBytes, Option.bind_none]
    | binary decoded noText => rw [decoded, Option.bind_some, noText, Option.bind_none]
    | undivided decoded isText noColon =>
      rw [decoded, Option.bind_some, isText, Option.bind_some, dropWhile_colon_eq_nil.mpr noColon]

/-- No credentials are read just from a header in the basic scheme that cannot be read. -/
theorem read?_eq_none {header : Option String} :
    read? header = none ↔ ∃ text, header = some text ∧ IsMalformedBasic text := by
  cases header with
  | none =>
    have absent : read? none = some ⟨none, none⟩ := by decide
    simp [absent]
  | some text =>
    rw [read?, Option.getD_some]
    by_cases isBasic : schemeOf text = "basic"
    · simp [IsMalformedBasic, isBasic, readBasic?_eq_none]
    · simp [IsMalformedBasic, isBasic]

end Authorization

/-- The challenge that comes with an ending. -/
def Ending.challenge? : Ending -> Option String
  | .settled .malformedBasic => some "Basic"
  | .settled (.denied _) => some challenge
  | _ => none

/-- A response has the challenge that comes with its ending. -/
theorem get?_challenge_ending (ending : Ending) :
    ending.response.headers.get? "www-authenticate" = ending.challenge? := by
  have alone (scheme : String) :
      Headers.get? [("www-authenticate", scheme)] "www-authenticate" = some scheme := by
    have lower : lowerCase "www-authenticate" = "www-authenticate" := by decide
    simp [Headers.get?, lower]
  have others : Headers.get? noStore "www-authenticate" = none := by decide
  rcases ending with (_ | denial | (reason | refusal | told)) | store
  case outage => exact Response.get?_ofText (by decide)
  case settled.malformedBasic => exact (Response.get?_ofText (by decide)).trans (alone _)
  case settled.denied => exact (Response.get?_ofText (by decide)).trans (alone _)
  all_goals exact (Response.get?_ofText (by decide)).trans others

section Service

variable {surroundings : Surroundings} {configuration : Configuration} {request : Request}

/-- A request ends before authentication just when its header is a malformed basic one. -/
theorem EndsIn.malformed_iff {ending : Ending}
    (ends : EndsIn surroundings configuration request ending) :
    ending = .settled .malformedBasic ↔
      Authorization.read? (request.headers.get? "authorization") = none := by
  constructor
  · rintro rfl
    cases ends with
    | malformed unreadable => exact unreadable
  · intro unreadable
    exact ends.unique (.malformed unreadable)

/-- Which challenge comes with a response to a request to introspect. A header in the basic scheme
whose credential cannot be read is always answered with status 401, and with a challenge that names
the basic scheme alone. Whatever else the request has for a header, or if it has none, a response
with status 401 has a challenge that names both schemes, and no other response has a challenge. -/
theorem serve_challenge (post : request.method = "POST")
    (page : pageAt? request.path = some .introspection) (fresh : String) :
    let response := (serve surroundings configuration fresh request).response
    let isMalformed := ∃ header, request.headers.get? "authorization" = some header ∧
      Authorization.IsMalformedBasic header
    (isMalformed ->
      response.status = 401 ∧ response.headers.get? "www-authenticate" = some "Basic") ∧
    (¬ isMalformed -> response.headers.get? "www-authenticate" =
      if response.status = 401 then some "Bearer, Basic" else none) := by
  intro response isMalformed
  have unread : Authorization.read? (request.headers.get? "authorization") = none ↔ isMalformed :=
    Authorization.read?_eq_none
  rcases exists_endsIn surroundings configuration request with
    ⟨ending, ends⟩ | ⟨failure, unforeseen, failed⟩
  · have isResponse : response = finish request (requestId request fresh) ending.response := by
      rw [← (serveIntrospection_of_endsIn ends _).1, ← serve_eq post page]
    have isStatus : response.status = ending.status := by
      rw [isResponse, Response.status_finish, ending.status_response]
    have isChallenge : response.headers.get? "www-authenticate" = ending.challenge? := by
      rw [isResponse, get?_finish (by decide) (by decide), get?_challenge_ending]
    rw [isStatus, isChallenge, ← unread, ← ends.malformed_iff]
    constructor
    · rintro rfl
      exact ⟨rfl, rfl⟩
    · intro wellFormed
      rcases ending with (_ | denial | (reason | refusal | told)) | store
      · exact absurd rfl wellFormed
      all_goals rfl
  · have isResponse : response = failureResponse := by
      rw [← (serveIntrospection_of_unforeseen unforeseen failed (requestId request fresh)).1,
        ← serve_eq post page]
    rw [isResponse]
    constructor
    · intro malformed
      have ends : EndsIn surroundings configuration request _ := .malformed (unread.mpr malformed)
      cases failed.symm.trans ends.result
    · exact fun _ => Response.get?_ofText (by decide)

/-- A request without a header for credentials is denied with a challenge that names both
schemes. -/
theorem serve_challenge_absent :
    let request : Request := { tokenRequest with headers := [] }
    let response := (serve ⟨tokenDatabase, ⟨0, some 0⟩, fun _ => .unreachable, 900⟩
      plainConfiguration "r-1" request).response
    request.method = "POST" ∧ pageAt? request.path = some .introspection ∧
      response.status = 401 ∧
      response.headers.get? "www-authenticate" = some "Bearer, Basic" := by
  intro request response
  have isStatus : response.status = 401 := by decide +kernel
  obtain ⟨_, wellFormed⟩ := @serve_challenge
    ⟨tokenDatabase, ⟨0, some 0⟩, fun _ => .unreachable, 900⟩ plainConfiguration request rfl rfl
    "r-1"
  have carried := wellFormed (fun ⟨_, isHeader, _⟩ => nomatch isHeader)
  rw [if_pos isStatus] at carried
  exact ⟨rfl, rfl, isStatus, carried⟩

/-- A basic credential without a colon is denied with a challenge that does not name both
schemes. -/
theorem colonless_challenge :
    let request : Request := { tokenRequest with headers := [("authorization", "Basic YQ==")] }
    let response := (serve ⟨tokenDatabase, ⟨0, some 0⟩, fun _ => .unreachable, 900⟩
      plainConfiguration "r-1" request).response
    request.method = "POST" ∧ pageAt? request.path = some .introspection ∧
      response.status = 401 ∧ response.headers.get? "www-authenticate" ≠ some "Bearer, Basic" := by
  intro request response
  have isResponse : response =
      finish request "r-1" (Ending.settled .malformedBasic).response := by
    decide +kernel
  have carried : response.headers.get? "www-authenticate" = some "Basic" := by
    rw [isResponse, get?_finish (by decide) (by decide), get?_challenge_ending]
    rfl
  refine ⟨rfl, rfl, ?_, ?_⟩
  · rw [isResponse]
    rfl
  · rw [carried]
    decide

end Service

end Introspection.Http
