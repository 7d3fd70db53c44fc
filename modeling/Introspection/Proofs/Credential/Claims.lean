import Introspection.Proofs.Credential.Verification
import Introspection.Proofs.Double.Order
import Mathlib.Data.List.TakeWhile

/-!
# Claims of a verified assertion

What the claims of an assertion are that has passed its check (`verifyAssertion_claims`). Times are
numbers that fit the present, give or take the leeway, however large they are and without being
rounded (`Assertion.checkTimes_eq_ok`); the one that is no number is refused nowhere, so that an
assertion with it never expires. Issuer and subject are the client.

The audience is the requested address without its query, on its own or as one of several. That they
are several is not looked at closely: a list is gone through by its items, and an object by the
names of its members, so that one with the address for a name passes as well
(`objectAudience_accepted`).
-/

namespace Introspection

/-- A number as a value. -/
def Json.ofNumber : Json.Number -> Json
  | .int value => .int value
  | .double value => .double value

theorem Json.ofNumber_inj {a b : Json.Number} : ofNumber a = ofNumber b ↔ a = b := by
  cases a with
  | int value => cases b <;> simp [ofNumber]
  | double value => cases b <;> simp [ofNumber]

theorem Json.string?_eq_some {value : Json} {text : String} :
    value.string? = some text ↔ value = .string text := by
  cases value with
  | string other => simp [string?]
  | _ => simp [string?]

namespace Assertion

open Json (Number)

variable {claims : Members} {name : String} {now : Int} {leeway : Json}

/-- A time passes where it is absent, or else is a number that does not compare in the refused way
with a bound. -/
theorem checkTime_eq_ok {refused : Ordering} {bound : Except Fault Number} :
    checkTime claims name refused bound = .ok () ↔
      ∀ value, Json.member? name claims = some value ->
        ∃ time limit, value = .ofNumber time ∧ bound = .ok limit ∧
          time.compare? limit ≠ some refused := by
  have compared (time : Number) :
      (do if time.compare? (<- bound) == some refused then throw .unusable : Except Fault Unit) =
          .ok () ↔
        ∃ other limit, Json.ofNumber time = .ofNumber other ∧ bound = .ok limit ∧
          other.compare? limit ≠ some refused := by
    simp only [Json.ofNumber_inj]
    cases bound with
    | error fault => simp
    | ok limit =>
      by_cases same : time.compare? limit = some refused
      · simp [same]
      · simp [same]
  cases held : Json.member? name claims with
  | none => simp [checkTime, held]
  | some value =>
    simp only [checkTime, held, Option.some.injEq, forall_eq']
    cases value with
    | int value => exact compared (.int value)
    | double value => exact compared (.double value)
    | _ =>
      refine ⟨nofun, ?_⟩
      rintro ⟨time, _, same, _⟩
      cases time <;> cases same

/-- Claims are timely: times are numbers, that of expiry is not before the earliest that is
admitted, and the others are not after the latest. -/
structure Timely (now : Int) (leeway : Json) (claims : Members) : Prop where
  expiry : ∀ value, Json.member? "exp" claims = some value ->
    ∃ time limit, value = .ofNumber time ∧ earlier now leeway = .ok limit ∧
      ¬ time.IsBelow limit
  start : ∀ name ∈ ["nbf", "iat"], ∀ value, Json.member? name claims = some value ->
    ∃ time limit, value = .ofNumber time ∧ later now leeway = .ok limit ∧
      ¬ limit.IsBelow time

/-- Times pass their check where they are timely. -/
theorem checkTimes_eq_ok : checkTimes now leeway claims = .ok () ↔ Timely now leeway claims := by
  have checked : checkTimes now leeway claims = .ok () ↔
      checkTime claims "exp" .lt (earlier now leeway) = .ok () ∧
        checkTime claims "nbf" .gt (later now leeway) = .ok () ∧
          checkTime claims "iat" .gt (later now leeway) = .ok () := by
    simp [checkTimes, bind_eq_ok, Unique.exists_iff]
  rw [checked, checkTime_eq_ok, checkTime_eq_ok, checkTime_eq_ok]
  simp only [ne_eq, Number.compare?_eq_lt_iff, Number.compare?_eq_gt_iff]
  constructor
  · rintro ⟨expiry, start, issue⟩
    exact ⟨expiry, List.forall_mem_cons.mpr ⟨start, List.forall_mem_singleton.mpr issue⟩⟩
  · rintro ⟨expiry, start⟩
    exact ⟨expiry, start "nbf" (by simp), start "iat" (by simp)⟩

/-- With a leeway of whole seconds, the limit is exact: a time of expiry that has a value is not
less than the present by more than the leeway. -/
theorem Timely.lapse {leeway : Int} (timely : Timely now (.int leeway) claims) {time : Number}
    {seconds : ℚ} (held : Json.member? "exp" claims = some (.ofNumber time))
    (isTime : time.value? = some (Extended.ofRat seconds)) : (now : ℚ) ≤ seconds + leeway := by
  obtain ⟨_, limit, same, isLimit, notBelow⟩ := timely.expiry _ held
  obtain rfl := Json.ofNumber_inj.mp same
  obtain rfl : Number.int (now - leeway) = limit := Except.ok.inj isLimit
  -- Had the leeway passed, the time would be below the limit, which is a whole number here.
  by_contra passed
  refine notBelow ⟨_, _, isTime, rfl, Extended.ofRat_strictMono ?_⟩
  push_cast
  linarith

end Assertion

namespace Credential

open Assertion (Members Fault Parsed)

/-- A text is an address without its query: all that comes before the first question mark, or the
whole address where it has none. -/
def IsWithoutQuery (base address : String) : Prop :=
  '?' ∉ base.toList ∧ (base = address ∨ ∃ query, base ++ "?" ++ query = address)

theorem isWithoutQuery_iff {base address : String} :
    IsWithoutQuery base address ↔ base = audience address := by
  constructor
  · rintro ⟨noMark, whole⟩
    have inside : ∀ c ∈ base.toList, decide (c ≠ '?') = true := fun c member => by
      simpa using ne_of_mem_of_not_mem member noMark
    rcases whole with rfl | ⟨query, rfl⟩
    · rw [audience, List.takeWhile_eq_self_iff.mpr inside, String.ofList_toList]
    · rw [audience, String.toList_append, String.toList_append, List.append_assoc,
        List.takeWhile_append_of_pos inside]
      simp
  · rintro rfl
    have parts := List.takeWhile_append_dropWhile (p := (· ≠ '?')) (l := address.toList)
    have noMark : '?' ∉ (audience address).toList := by
      rw [audience, String.toList_ofList]
      intro marked
      simpa using List.mem_takeWhile_imp marked
    refine ⟨noMark, ?_⟩
    cases rest : address.toList.dropWhile (· ≠ '?') with
    | nil =>
      rw [rest, List.append_nil] at parts
      rw [audience, parts, String.ofList_toList]
      exact .inl rfl
    | cons mark query =>
      have stops := List.head?_dropWhile_not (· ≠ '?') address.toList
      rw [rest] at stops parts
      obtain rfl : mark = '?' := by simpa using stops
      refine .inr ⟨String.ofList query, String.toList_inj.mp ?_⟩
      rw [String.toList_append, String.toList_append, audience, String.toList_ofList,
        String.toList_ofList, List.append_assoc]
      simpa using parts

/-- An audience that claims name has a text: it is the text, or a list with the text as an item, or
an object with the text as the name of a member. -/
inductive NamesAudience (base : String) : Json -> Prop
  | text : NamesAudience base (.string base)
  | item {items : List Json} (member : .string base ∈ items) : NamesAudience base (.list items)
  | name {members : Members} {value : Json} (member : (base, value) ∈ members) :
      NamesAudience base (.object members)

/-- An audience is accepted where it has the address without its query. -/
theorem isAudience_eq_ok_true {address : String} {named : Json} :
    isAudience address named = .ok true ↔ NamesAudience (audience address) named := by
  cases named with
  | string text =>
    simp only [isAudience, Except.ok.injEq, beq_iff_eq]
    exact ⟨fun same => same ▸ .text, fun | .text => rfl⟩
  | list items =>
    simp only [isAudience, Except.ok.injEq, List.any_eq_true, beq_iff_eq, Json.string?_eq_some]
    constructor
    · rintro ⟨item, member, rfl⟩
      exact .item member
    · intro names
      cases names with
      | item member => exact ⟨_, member, rfl⟩
  | object members =>
    simp only [isAudience, Except.ok.injEq, List.any_eq_true, beq_iff_eq]
    constructor
    · rintro ⟨⟨name, value⟩, member, rfl⟩
      exact .name member
    · intro names
      cases names with
      | name member => exact ⟨_, member, rfl⟩
  | _ =>
    refine ⟨fun accepted => ?_, nofun⟩
    simp only [isAudience] at accepted
    split at accepted
    · cases accepted
    · cases accepted

/-- What the claims of a verified assertion are. -/
structure ClaimsLaw (occasion : Occasion) (client : ClientRow) (claims : Members) : Prop where
  /-- All claims that are required are there. -/
  complete : ∀ name ∈ requiredClaims, ∃ value, Json.member? name claims = some value
  /-- The time of expiry is a number, and it is not before the present less the leeway. -/
  expiry : ∃ time limit, Json.member? "exp" claims = some (.ofNumber time) ∧
    Assertion.earlier occasion.now occasion.leeway = .ok limit ∧ ¬ time.IsBelow limit
  /-- With a leeway of whole seconds, the present is not after the time of expiry by more. -/
  lapse (time : Json.Number) (seconds : ℚ) (leeway : Int) :
    Json.member? "exp" claims = some (.ofNumber time) ->
      time.value? = some (Extended.ofRat seconds) -> occasion.leeway = .int leeway ->
        (occasion.now : ℚ) ≤ seconds + leeway
  /-- The time of its start, if there is one, is a number, and it is not after the present with the
  leeway. -/
  start (value : Json) : Json.member? "nbf" claims = some value ->
    ∃ time limit, value = .ofNumber time ∧
      Assertion.later occasion.now occasion.leeway = .ok limit ∧ ¬ limit.IsBelow time
  /-- The audience has the address without its query. -/
  audience : ∃ base named, IsWithoutQuery base occasion.address ∧
    Json.member? "aud" claims = some named ∧ NamesAudience base named
  /-- Issuer and subject are the client. -/
  identity : ∃ issuer subject, Json.member? "iss" claims = some issuer ∧
    Json.member? "sub" claims = some subject ∧ issuer.display = client.clientId ∧
      subject.display = client.clientId

/-- The claims of an assertion that is verified against whichever keys. -/
theorem verifyAssertion_claims {occasion : Occasion} {client : ClientRow}
    {accepted : List Assertion.Algorithm}
    {keys : Except Fault (Members -> Except Fault Assertion.Key)} {assertion : String}
    {parsed : Parsed}
    (verified : verifyAssertion occasion client accepted keys assertion = .ok (.ok parsed)) :
    (Assertion.parse occasion.depth (Text.utf8 assertion) = .ok parsed ∧
        ∃ algorithm ∈ accepted, ∃ key, parsed.SignedBy algorithm key) ∧
      ClaimsLaw occasion client parsed.claims := by
  obtain ⟨keyFor, _, vouches⟩ := vouchesFor_of_verifyAssertion verified
  obtain ⟨algorithm, isAccepted, key, _, signed⟩ := vouches.accepted.signed
  have timely := Assertion.checkTimes_eq_ok.mp vouches.accepted.times
  have complete : ∀ name ∈ requiredClaims, ∃ value,
      Json.member? name parsed.claims = some value := fun name member =>
    Option.isSome_iff_exists.mp (vouches.claims.required name member)
  refine ⟨⟨vouches.accepted.read, algorithm, isAccepted, key, signed⟩, ?_⟩
  obtain ⟨issuer, isIssuer⟩ := complete "iss" (by decide)
  obtain ⟨subject, isSubject⟩ := complete "sub" (by decide)
  obtain ⟨named, isNamed⟩ := complete "aud" (by decide)
  obtain ⟨expiry, isExpiry⟩ := complete "exp" (by decide)
  constructor
  · exact complete
  · obtain ⟨time, limit, rfl, isLimit, notBelow⟩ := timely.expiry _ isExpiry
    exact ⟨time, limit, isExpiry, isLimit, notBelow⟩
  · intro time seconds leeway held isTime isLeeway
    exact Assertion.Timely.lapse (isLeeway ▸ timely) held isTime
  · exact timely.start "nbf" (by decide)
  · refine ⟨_, named, isWithoutQuery_iff.mpr rfl, isNamed, ?_⟩
    have accepted := vouches.claims.audience
    rw [claim, isNamed, Option.getD_some] at accepted
    exact isAudience_eq_ok_true.mp accepted
  · refine ⟨issuer, subject, isIssuer, isSubject, ?_, ?_⟩
    · simpa [claim, isIssuer] using vouches.claims.issuer
    · simpa [claim, isSubject] using vouches.claims.subject

section Shared

/-- The claims that a check yields. -/
def claims? : Except Failure (Except Denial Parsed) -> Option Members
  | .ok (.ok parsed) => some parsed.claims
  | _ => none

theorem claims?_eq_some {verified : Except Failure (Except Denial Parsed)} {claims : Members}
    (yielded : claims? verified = some claims) :
    ∃ parsed, verified = .ok (.ok parsed) ∧ parsed.claims = claims := by
  unfold claims? at yielded
  split at yielded
  · next parsed => exact ⟨parsed, rfl, Option.some.inj yielded⟩
  · cases yielded

/-- A client that signs its assertions with a secret that it shares. -/
def sharingClient : ClientRow :=
  ⟨"rs", .string "shared_bearer", .null, .string "a-shared-secret-that-is-long-enough-for-hs256",
    .null, .null, .bool true, .list [.string "openid"], .null⟩

/-- A request with a query, a minute after the start of 1970 and with a leeway of half a minute. -/
def sharingMinute : Occasion := ⟨"http://t/i?kind=access", 60, .int 30, 900⟩

/-- The check of an assertion of the client then. -/
def verifyShared (assertion : String) : Except Failure (Except Denial Parsed) :=
  verifyAssertion sharingMinute sharingClient Assertion.Algorithm.sharedSecret
    ((Assertion.SharedKey.ofSecret sharingMinute.depth sharingClient.secret).map
      Assertion.SharedKey.keyFor) assertion

/-- An assertion that is valid for half a minute more, with an object as its audience that has the
requested address as the name of its only member. -/
def objectAudience : String :=
  "eyJhbGciOiJIUzI1NiJ9." ++
    "eyJpc3MiOiJycyIsInN1YiI6InJzIiwiYXVkIjp7Imh0dHA6Ly90L2kiOjF9LCJpYXQiOjAsImV4cCI6OTB9." ++
    "os9zdMlcfzVbkGiyDblS65wG_faLjnouKoRD-tErMsI"

/-- The names of the members of a value that is an object. -/
def memberNames? : Json -> Option (List String)
  | .object members => some (members.map (·.1))
  | _ => none

/-- The assertion is verified. -/
theorem verifyShared_objectAudience :
    ∃ parsed members, verifyShared objectAudience = .ok (.ok parsed) ∧
      Json.member? "aud" parsed.claims = some (.object members) := by
  have yielded : ((claims? (verifyShared objectAudience)).bind fun claims =>
      (Json.member? "aud" claims).bind memberNames?) = some ["http://t/i"] := by
    decide +kernel
  obtain ⟨claims, isClaims, held⟩ := Option.bind_eq_some_iff.mp yielded
  obtain ⟨named, isNamed, isObject⟩ := Option.bind_eq_some_iff.mp held
  obtain ⟨parsed, verified, rfl⟩ := claims?_eq_some isClaims
  unfold memberNames? at isObject
  split at isObject
  · next members => exact ⟨parsed, members, verified, isNamed⟩
  · cases isObject

/-- The claims of the assertion are what those of verified assertions are. -/
theorem verifyAssertion_claims_object :
    ∃ parsed, verifyShared objectAudience = .ok (.ok parsed) ∧
      ClaimsLaw sharingMinute sharingClient parsed.claims := by
  obtain ⟨parsed, _, verified, _⟩ := verifyShared_objectAudience
  exact ⟨parsed, verified, (verifyAssertion_claims verified).2⟩

/-- The assertion is verified, although its audience is neither a text nor a list. -/
theorem objectAudience_accepted :
    ∃ parsed named, verifyShared objectAudience = .ok (.ok parsed) ∧
      Json.member? "aud" parsed.claims = some named ∧ (∀ text, named ≠ .string text) ∧
        ∀ items, named ≠ .list items := by
  obtain ⟨parsed, members, verified, held⟩ := verifyShared_objectAudience
  exact ⟨parsed, _, verified, held, nofun, nofun⟩

end Shared

end Credential

end Introspection
