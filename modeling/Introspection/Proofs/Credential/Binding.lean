import Introspection.Proofs.Assertion.Reading
import Introspection.Proofs.Credential.Claims
import Introspection.Proofs.Credential.Settlement
import Introspection.Proofs.Session.Economy

/-!
# What a verified assertion is bound to

An assertion is read twice: to find out which client it names and whether its algorithm is the one
laid down for that client, and again when its signature is checked. An assertion that is verified
was read alike both times (`IsBound`). So the client that is looked up is the one that the signed
issuer names, and the algorithm laid down is the one that the signature is right under.

The subject of an assertion stands in for an issuer that is absent, but only in the look-up: an
assertion without an issuer makes nobody a direct requester, whomever its subject names
(`assertions_bound`).
-/

namespace Introspection.Credential

open Assertion (Members Fault Parsed Algorithm)

variable {surroundings : Surroundings} {occasion : Occasion} {client : ClientRow}
  {accepted : List Algorithm} {keys : Except Fault (Members -> Except Fault Assertion.Key)}
  {assertion clientId : String} {parsed : Parsed}

/-- A verified assertion is bound to the client that its issuer names. -/
structure IsBound (depth : Nat) (client : ClientRow) (accepted : List Algorithm)
    (keys : Except Fault (Members -> Except Fault Assertion.Key)) (assertion : String)
    (parsed : Parsed) (issuer : Json) : Prop where
  /-- What is read of it before the check is what is checked. -/
  header : Assertion.unverifiedHeader depth assertion = .ok parsed.header
  claims : Assertion.unverifiedClaims depth assertion = .ok parsed.claims
  /-- Its signature is right under the algorithm that this header names, with the key for this
  header; where an algorithm is laid down for the client, it is this one. -/
  signed : ∃ algorithm ∈ accepted, ∃ keyFor key, keys = .ok keyFor ∧
    keyFor parsed.header = .ok key ∧ parsed.SignedBy algorithm key ∧
      (client.signingAlg.isVoid = false -> client.signingAlg = .string algorithm.name)
  /-- The issuer is among the claims that are signed, and is the client. -/
  issued : Json.member? "iss" parsed.claims = some issuer ∧ issuer.isVoid = false ∧
    issuer.display = client.clientId
  /-- As a bearer credential that is no access token, it has the issuer looked up, and no other
  client, on every occasion on which lists and objects may stand in one another as deeply. -/
  lookedUp (surroundings : Surroundings) (occasion : Occasion) (credentials : Credentials)
      (clientId : String) : depth ≤ occasion.depth -> bearerValue? credentials = some assertion ->
    (.registration clientId ∈
        (Session.run surroundings (authenticate occasion credentials) .empty).asked ↔
      IsNoToken surroundings assertion ∧ clientId = issuer.display)

/-- A value that is the same as a text is this text. -/
theorem eq_string_of_same {text : String} {value : Json}
    (same : (Json.string text).same value = true) : value = .string text := by
  unfold Json.same at same
  split at same
  · next other => rw [beq_iff_eq.mp same]
  · cases same

/-- A client is looked up for a bearer credential that is no access token and names it. -/
theorem mem_asked_authenticate {credentials : Credentials} {named : String}
    (given : bearerValue? credentials = some assertion)
    (names : Names occasion.depth assertion named) :
    .registration clientId ∈
        (Session.run surroundings (authenticate occasion credentials) .empty).asked ↔
      IsNoToken surroundings assertion ∧ clientId = named := by
  obtain ⟨claims, unverified, present, rfl⟩ := names
  unfold namedBy at present ⊢
  have comesDown : (⟨.clients, clientId⟩ : Query) ∈
      (Question.registration clientId).queries := List.mem_singleton_self _
  rw [Session.asked_run]
  unfold authenticate
  simp only [given]
  rw [Inquiry.mem_asked_bind, Procedure.eval_ofDecision]
  constructor
  · rintro (asked | ⟨found, looked, asked⟩)
    · have takes : Procedure.TakesAtMost surroundings _ _ :=
        .ofDecision (Decision.delegatedRequester_takes assertion)
      simpa using takes.mem_bound asked comesDown
    · cases found with
      | some requester => cases asked
      | none =>
        obtain ⟨answered, absent⟩ := delegatedRequester_eq_none.mp looked
        simp only [unverified, ofFault, Inquiry.ofExcept_ok_bind, present, Bool.false_eq_true,
          if_false] at asked
        exact ⟨⟨answered, absent⟩, by
          simpa using (direct_takes _ true assertion).mem_bound asked comesDown⟩
  · rintro ⟨noToken, rfl⟩
    refine .inr ⟨none, delegatedRequester_eq_none.mpr ⟨noToken.answered, noToken.absent⟩, ?_⟩
    simp only [unverified, ofFault, Inquiry.ofExcept_ok_bind, present, Bool.false_eq_true, if_false,
      direct]
    exact Inquiry.mem_asked_bind.mpr (.inl (by simp [Procedure.ask]))

/-- An assertion that is verified, against whichever keys, is bound to the client that its issuer
names. -/
theorem isBound_of_verified
    (verified : verifyAssertion occasion client accepted keys assertion = .ok (.ok parsed)) :
    ∃ issuer, IsBound occasion.depth client accepted keys assertion parsed issuer := by
  obtain ⟨keyFor, isKeyFor, vouches⟩ := vouchesFor_of_verifyAssertion verified
  obtain ⟨header, claims⟩ := Assertion.unverified_of_parse vouches.accepted.parts
    vouches.accepted.read
  obtain ⟨algorithm, isAccepted, key, isKey, signed⟩ := vouches.accepted.signed
  obtain ⟨issuer, isIssuer⟩ := Option.isSome_iff_exists.mp
    (vouches.claims.required "iss" (by decide))
  have present := vouches.claims.present
  have isClient := vouches.claims.issuer
  have isClaim : claim parsed.claims "iss" = issuer := by rw [claim, isIssuer, Option.getD_some]
  rw [isClaim] at present isClient
  refine ⟨issuer, header, claims, ⟨algorithm, isAccepted, keyFor, key, isKeyFor, isKey, signed, ?_⟩,
    ⟨isIssuer, present, isClient⟩, ?_⟩
  · intro laidDown
    -- The header in which the algorithm is looked for is the one that is signed.
    obtain ⟨other, found, same⟩ := vouches.laidDown.resolve_left (by simp [laidDown])
    obtain rfl := Except.ok.inj (header.symm.trans found)
    rw [claim, signed.named, Option.getD_some] at same
    exact eq_string_of_same same
  · intro surroundings other credentials clientId higher given
    have named : namedBy parsed.claims = issuer := by simp [namedBy, isClaim, present]
    have names : Names other.depth assertion issuer.display :=
      ⟨parsed.claims, Assertion.unverifiedPart_mono higher claims, named ▸ present, by rw [named]⟩
    exact mem_asked_authenticate given names

/-- A bearer credential that passes the check for a client is an assertion that is verified. -/
theorem exists_verified_of_check
    (checked : (check occasion client true assertion).eval surroundings.reply = .ok (.ok ())) :
    ∃ accepted keys parsed,
      verifyAssertion occasion client accepted keys assertion = .ok (.ok parsed) := by
  cases isRight_of_check checked with
  | ownKey registered =>
    rw [check_of_privateKey registered, Inquiry.eval_bind] at checked
    obtain ⟨value, _, checked⟩ := bind_eq_ok.mp checked
    rw [Inquiry.eval_bind, Inquiry.eval_ofExcept] at checked
    obtain ⟨outcome, verified, checked⟩ := bind_eq_ok.mp checked
    cases outcome with
    | error denial => cases checked
    | ok parsed =>
      unfold verifyWithKeySet at verified
      split at verified
      · split at verified
        · cases verified
        · obtain ⟨taken, _, verified⟩ := bind_eq_ok.mp verified
          cases taken with
          | error denial => cases verified
          | ok keys => exact ⟨_, _, parsed, verified⟩
      · cases verified
  | sharedKey registered =>
    rw [check_of_sharedBearer registered, Inquiry.eval_bind, Inquiry.eval_ofExcept] at checked
    obtain ⟨outcome, verified, checked⟩ := bind_eq_ok.mp checked
    cases outcome with
    | error denial => cases checked
    | ok parsed =>
      unfold verifyWithSecret at verified
      split at verified
      · cases verified
      · exact ⟨_, _, parsed, verified⟩

/-- An assertion makes nobody a direct requester without an issuer in its claims. -/
theorem not_direct_of_unissued {credentials : Credentials} {claims : Members}
    (given : bearerValue? credentials = some assertion)
    (unverified : Assertion.unverifiedClaims occasion.depth assertion = .ok claims)
    (unissued : (claim claims "iss").isVoid = true) (authorities : ScopeSet) :
    (Session.run surroundings (authenticate occasion credentials) .empty).result ≠
      .ok (.ok (.direct clientId authorities)) := by
  rw [Session.result_run]
  intro authenticated
  obtain ⟨noToken, names⟩ := names_of_authenticate given authenticated
  rw [eval_authenticate_of_names given noToken names] at authenticated
  obtain ⟨client, _, _, checked⟩ := check_of_direct authenticated
  obtain ⟨accepted, keys, parsed, verified⟩ := exists_verified_of_check checked
  obtain ⟨issuer, bound⟩ := isBound_of_verified verified
  obtain ⟨isIssuer, present, _⟩ := bound.issued
  obtain rfl := Except.ok.inj (bound.claims.symm.trans unverified)
  rw [claim, isIssuer, Option.getD_some, present] at unissued
  cases unissued

/-- Assertions are bound: one that is verified, against whichever keys, to the client that its
issuer names; and one without an issuer to nobody, whomever its subject names. -/
theorem assertions_bound :
    (∀ (occasion : Occasion) (client : ClientRow) (accepted : List Algorithm)
      (keys : Except Fault (Members -> Except Fault Assertion.Key)) (assertion : String)
      (parsed : Parsed),
      verifyAssertion occasion client accepted keys assertion = .ok (.ok parsed) ->
        ∃ issuer, IsBound occasion.depth client accepted keys assertion parsed issuer) ∧
    (∀ (surroundings : Surroundings) (occasion : Occasion) (credentials : Credentials)
      (assertion : String) (claims : Members),
      bearerValue? credentials = some assertion ->
        Assertion.unverifiedClaims occasion.depth assertion = .ok claims ->
          (claim claims "iss").isVoid = true ->
            ∀ clientId authorities,
              (Session.run surroundings (authenticate occasion credentials) .empty).result ≠
                .ok (.ok (.direct clientId authorities))) := by
  constructor
  · intro occasion client accepted keys assertion parsed verified
    exact isBound_of_verified verified
  · intro surroundings occasion credentials assertion claims given unverified unissued clientId
      authorities
    exact not_direct_of_unissued given unverified unissued authorities

/-- The client of the assertion with an object as its audience, with the algorithm laid down that
this assertion is signed under. -/
def pinnedClient : ClientRow := { sharingClient with signingAlg := .string "HS256" }

/-- The header of the assertion names the algorithm. -/
theorem pinnedClient_fits : FitsAlgorithm sharingMinute.depth pinnedClient objectAudience := by
  have read : ((Assertion.unverifiedHeader sharingMinute.depth objectAudience).toOption.map
      fun header => (claim header "alg").same pinnedClient.signingAlg) = some true := by
    decide +kernel
  obtain ⟨header, isHeader, same⟩ := Option.map_eq_some_iff.mp read
  exact .inr ⟨header, eq_ok_of_toOption isHeader, same⟩

/-- An assertion that is signed with the secret of the client and names it as its subject, but has
no text as its issuer. -/
def unissuedAssertion : String :=
  "eyJhbGciOiJIUzI1NiJ9." ++
    "eyJpc3MiOiIiLCJzdWIiOiJycyIsImF1ZCI6Imh0dHA6Ly90L2kiLCJpYXQiOjAsImV4cCI6OTB9." ++
    "iCxBeN43yxzc9up1e8y6gF0uO3hBzPrNmys8KnkJiK4"

/-- The surroundings in which it is presented, with the client in the database. -/
def unissuedSurroundings : Surroundings :=
  ⟨sharingDatabase, ⟨60, some 0⟩, fun _ => .unreachable, 900⟩

/-- The first assertion is bound although an algorithm is laid down, and nobody is identified by
the second. -/
theorem assertions_bound_pinned :
    (∃ parsed issuer, IsBound sharingMinute.depth pinnedClient Assertion.Algorithm.sharedSecret
      ((Assertion.SharedKey.ofSecret sharingMinute.depth pinnedClient.secret).map
        Assertion.SharedKey.keyFor) objectAudience parsed issuer) ∧
    ∃ claims, Assertion.unverifiedClaims sharingMinute.depth unissuedAssertion = .ok claims ∧
      (claim claims "sub").display = pinnedClient.clientId ∧
      ∀ clientId authorities,
        (Session.run unissuedSurroundings
          (authenticate sharingMinute ⟨some ("Bearer", unissuedAssertion), none⟩) .empty).result ≠
            .ok (.ok (.direct clientId authorities)) := by
  constructor
  · obtain ⟨parsed, _, verified, _⟩ := verifyShared_objectAudience
    rw [verifyShared, verifyAssertion_of_fits (.inl rfl)] at verified
    exact ⟨parsed, assertions_bound.1 sharingMinute _ _ _ _ _
      ((verifyAssertion_of_fits pinnedClient_fits).trans verified)⟩
  · have read : ((Assertion.unverifiedClaims sharingMinute.depth unissuedAssertion).toOption.map
        fun claims => ((claim claims "iss").isVoid, (claim claims "sub").display)) =
          some (true, "rs") := by
      decide +kernel
    obtain ⟨claims, isRead, same⟩ := Option.map_eq_some_iff.mp read
    have unverified := eq_ok_of_toOption isRead
    obtain ⟨unissued, subject⟩ := Prod.mk.inj same
    exact ⟨claims, unverified, subject,
      assertions_bound.2 _ _ _ _ claims (by decide +kernel) unverified unissued⟩

end Introspection.Credential
