import Introspection.Credential
import Introspection.Proofs.Assertion.Acceptance

/-!
# Verified credentials

What a credential is that has been found right for a client: an assertion that was accepted, fits
the algorithm laid down for the client and has claims that name it (`VouchesFor`), checked with the
keys of a key set (`vouchesFor_of_verifyWithKeySet`) or with the client's secret
(`vouchesFor_of_verifyWithSecret`); or the secret itself (`right_of_verifySecret`).
-/

namespace Introspection

/-- A client is registered for a way to authenticate, under its name in any case. -/
def ClientRow.IsRegisteredFor (row : ClientRow) (method : AuthMethod) : Prop :=
  ∃ text, row.authMethod = .string text ∧ Text.lower text = method.name

/-- The method that a client is found to be registered for is the one that its text names. -/
theorem ClientRow.isRegisteredFor_of_ofJson? {row : ClientRow} {method : AuthMethod}
    (found : AuthMethod.ofJson? row.authMethod = .ok (some method)) :
    row.IsRegisteredFor method := by
  unfold AuthMethod.ofJson? at found
  split at found
  · next text isText =>
    have named := List.find?_some (Except.ok.inj found)
    exact ⟨text, isText, (beq_iff_eq.mp named).symm⟩
  · split at found
    · cases found
    · cases found

namespace Credential

open Assertion (Members Fault Parsed Accepted)

/-- What a fault amounts to is a value only where there is no fault. -/
theorem ofFault_eq_ok {α : Type} {denial : Denial} {computed : Except Fault α} {value : α}
    (sound : ofFault denial computed = .ok (.ok value)) : computed = .ok value := by
  unfold ofFault at sound
  split at sound
  · cases sound
    rfl
  · cases sound
  · cases sound

/-- Claims fit a request and a client: all that are required are there, the audience is the
requested address, and issuer and subject are the client. -/
structure ClaimsFit (address clientId : String) (claims : Members) : Prop where
  required : ∀ name ∈ requiredClaims, (Json.member? name claims).isSome = true
  audience : isAudience address (claim claims "aud") = .ok true
  present : (claim claims "iss").isVoid = false
  issuer : (claim claims "iss").display = clientId
  subject : (claim claims "sub").display = clientId

/-- Claims that pass the check fit. -/
theorem claimsFit_of_checkClaims {address clientId : String} {claims : Members}
    (checked : checkClaims address clientId claims = .ok (.ok ())) :
    ClaimsFit address clientId claims := by
  unfold checkClaims at checked
  split at checked
  · cases checked
  · next complete =>
    obtain ⟨isNamed, audience, checked⟩ := bind_eq_ok.mp checked
    cases isNamed with
    | false => cases checked
    | true =>
      simp only [Bool.not_true, Bool.false_eq_true, if_false] at checked
      split at checked
      · cases checked
      · next same =>
        simp only [Bool.or_eq_true, bne_iff_ne, ne_eq, not_or, Bool.not_eq_true,
          Decidable.not_not] at same
        obtain ⟨⟨present, subject⟩, issuer⟩ := same
        refine ⟨?_, audience, present, issuer, subject.symm.trans issuer⟩
        intro name member
        have absent := List.find?_eq_none.mp complete name member
        exact Option.isSome_iff_ne_none.mpr (by simpa using absent)

/-- An assertion vouches for a client, with the keys that are tried. -/
structure VouchesFor (occasion : Occasion) (client : ClientRow)
    (accepted : List Assertion.Algorithm) (keyFor : Members -> Except Fault Assertion.Key)
    (assertion : String) (parsed : Parsed) : Prop where
  /-- The header names the algorithm that is laid down for the client, if one is. -/
  laidDown : client.signingAlg.isVoid = true ∨
    ∃ header, Assertion.unverifiedHeader occasion.depth assertion = .ok header ∧
      (claim header "alg").same client.signingAlg = true
  accepted : Accepted accepted keyFor occasion.depth occasion.now occasion.leeway assertion parsed
  claims : ClaimsFit occasion.address client.clientId parsed.claims

variable {occasion : Occasion} {client : ClientRow} {assertion : String} {parsed : Parsed}

/-- An assertion that passes its check vouches for the client. -/
theorem vouchesFor_of_verifyAssertion {accepted : List Assertion.Algorithm}
    {keys : Except Fault (Members -> Except Fault Assertion.Key)}
    (verified : verifyAssertion occasion client accepted keys assertion = .ok (.ok parsed)) :
    ∃ keyFor, keys = .ok keyFor ∧
      VouchesFor occasion client accepted keyFor assertion parsed := by
  unfold verifyAssertion at verified
  extract_lets checkRest at verified
  have header : (client.signingAlg.isVoid = true ∨
      ∃ header, Assertion.unverifiedHeader occasion.depth assertion = .ok header ∧
        (claim header "alg").same client.signingAlg = true) ∧
      checkRest () = .ok (.ok parsed) := by
    split at verified
    · obtain ⟨outcome, computed, verified⟩ := bind_eq_ok.mp verified
      cases outcome with
      | error denial => cases verified
      | ok header =>
        dsimp only at verified
        split at verified
        · cases verified
        · next same =>
          exact ⟨.inr ⟨header, ofFault_eq_ok computed, by simpa using same⟩, verified⟩
    · next unbound => exact ⟨.inl (by simpa using unbound), verified⟩
  obtain ⟨laidDown, rest⟩ := header
  obtain ⟨outcome, computed, rest⟩ := bind_eq_ok.mp rest
  cases outcome with
  | error denial => cases rest
  | ok taken =>
    obtain ⟨fit, checked, rest⟩ := bind_eq_ok.mp rest
    cases fit with
    | error denial => cases rest
    | ok _ =>
      obtain rfl := Except.ok.inj (Except.ok.inj rest)
      obtain ⟨keyFor, isKeyFor, accepted⟩ := bind_eq_ok.mp (ofFault_eq_ok computed)
      exact ⟨keyFor, isKeyFor, laidDown, Assertion.accepted_of_check accepted,
        claimsFit_of_checkClaims checked⟩

/-- An assertion that is right by a key set was checked with the keys that the set is taken
for. -/
theorem vouchesFor_of_verifyWithKeySet {keySet : Json}
    (verified : verifyWithKeySet occasion client keySet assertion = .ok (.ok parsed)) :
    ∃ members keys, keySet = .object members ∧ Assertion.Key.ofSet members = .ok keys ∧
      VouchesFor occasion client Assertion.Algorithm.publicKey
        (fun header => Assertion.Key.select keys (Assertion.keyIdentifier header)) assertion
        parsed := by
  unfold verifyWithKeySet at verified
  split at verified
  · next members =>
    split at verified
    · cases verified
    · obtain ⟨outcome, computed, verified⟩ := bind_eq_ok.mp verified
      cases outcome with
      | error denial => cases verified
      | ok keys =>
        obtain ⟨keyFor, isKeyFor, vouches⟩ := vouchesFor_of_verifyAssertion verified
        obtain rfl := Except.ok.inj isKeyFor
        exact ⟨members, keys, rfl, ofFault_eq_ok computed, vouches⟩
  · cases verified

/-- An assertion that is right by a client secret was checked with the key that the secret is,
which is not empty. -/
theorem vouchesFor_of_verifyWithSecret
    (verified : verifyWithSecret occasion client assertion = .ok (.ok parsed)) :
    client.secret.isVoid = false ∧
      ∃ shared, Assertion.SharedKey.ofSecret occasion.depth client.secret = .ok shared ∧
        VouchesFor occasion client Assertion.Algorithm.sharedSecret shared.keyFor assertion
          parsed := by
  unfold verifyWithSecret at verified
  split at verified
  · cases verified
  · next present =>
    obtain ⟨keyFor, isKeyFor, vouches⟩ := vouchesFor_of_verifyAssertion verified
    cases read : Assertion.SharedKey.ofSecret occasion.depth client.secret with
    | error fault =>
      rw [read] at isKeyFor
      cases isKeyFor
    | ok shared =>
      rw [read] at isKeyFor
      obtain rfl := Except.ok.inj isKeyFor
      exact ⟨by simpa using present, shared, rfl, vouches⟩

/-- A secret that is right is not empty, and verifies against the one that is stored. -/
theorem right_of_verifySecret {presented : String}
    (verified : verifySecret client presented = .ok (.ok ())) :
    presented ≠ "" ∧ ∃ stored, client.secret = .string stored ∧
      Secret.verify presented stored = .ok true := by
  unfold verifySecret at verified
  split at verified
  · cases verified
  · next present =>
    simp only [Bool.or_eq_true, String.isEmpty_iff, not_or] at present
    split at verified
    · next stored held =>
      obtain ⟨right, computed, verified⟩ := bind_eq_ok.mp verified
      cases right with
      | false => cases verified
      | true => exact ⟨present.2, stored, held, computed⟩
    · cases verified

end Credential

end Introspection
