import Introspection.Http.Endpoint
import Introspection.Proofs.Propagation

/-!
# Failures that end a request

A request is authenticated and decided in one procedure, and the refusals that a decision raises are
the only failures that are met in it (`meets_introspect`). Whatever else comes up, among the tables
or where a credential is checked, ends the procedure as it is.
-/

namespace Introspection

open Inquiry

/-- A procedure that meets no failures but refusals. -/
abbrev Procedure.MeetsRefusals {α : Type} (procedure : Procedure α) : Prop :=
  procedure.MeetsOnly .forbidden

theorem Procedure.meets_ask (question : Question) : (ask question).MeetsRefusals :=
  .question question

namespace Credential

variable {occasion : Occasion}

theorem meets_fetch (depth : Nat) (address : Web.Address) :
    (fetch depth address).MeetsRefusals := by
  unfold fetch
  split
  · exact .done none
  · refine (Procedure.meets_ask _).bind fun reply => ?_
    split
    · exact .ofExcept _
    · exact .done none

theorem meets_keySet (depth : Nat) (client : ClientRow) :
    (keySet depth client).MeetsRefusals := by
  unfold keySet
  split
  · exact .done _
  · split
    · exact .done _
    · split
      · split
        · exact .fail _
        · next address _ =>
          refine (meets_fetch depth address).bind fun document => ?_
          cases document with
          | some value => exact .done value
          | none => exact .note _ (.done _)
      · exact .fail _

theorem meets_check (client : ClientRow) (isBearer : Bool) (value : String) :
    (check occasion client isBearer value).MeetsRefusals := by
  unfold check
  split
  · exact .fail _
  · exact .done _
  · next method _ =>
    split
    · exact .done _
    · cases method with
      | privateKey =>
        exact (meets_keySet _ client).bind fun keySet =>
          (MeetsOnly.ofExcept _).bind fun _ => .done _
      | sharedBearer => exact (MeetsOnly.ofExcept _).bind fun _ => .done _
      | secretBasic => exact .ofExcept _

theorem meets_direct (clientId : String) (isBearer : Bool) (value : String) :
    (direct occasion clientId isBearer value).MeetsRefusals := by
  refine (Procedure.meets_ask _).bind fun registration => ?_
  cases registration with
  | none => exact .done _
  | some client =>
    refine (meets_check client isBearer value).bind fun checked => ?_
    cases checked with
    | error denial => exact .done _
    | ok _ => exact .done _

theorem meets_authenticate (credentials : Credentials) :
    (authenticate occasion credentials).MeetsRefusals := by
  unfold authenticate
  split
  · next value _ =>
    refine (Decision.meets_delegatedRequester value).translate.bind fun delegated => ?_
    cases delegated with
    | some requester => exact .done _
    | none =>
      refine (MeetsOnly.ofExcept _).bind fun outcome => ?_
      cases outcome with
      | error denial => exact .done _
      | ok claims =>
        -- Which client the claims name makes no difference.
        dsimp only
        generalize (if (claim claims "iss").isVoid = true then claim claims "sub"
          else claim claims "iss") = named
        split
        · exact .done _
        · exact meets_direct _ true value
  · split
    · exact .done _
    · split
      · exact .done _
      · exact meets_direct _ false _

end Credential

/-- Of the failures that can come up in a request for introspection, the refusals are met, and all
others end it. -/
theorem Http.meets_introspect (configuration : Configuration) (now : Int) (depth : Nat)
    (request : Request) : (introspect configuration now depth request).MeetsRefusals := by
  simp only [introspect]
  split
  · exact .done _
  · refine (Credential.meets_authenticate _).bind fun outcome => ?_
    cases outcome with
    | error denial => exact .done _
    | ok requester =>
      exact (MeetsOnly.ofExcept _).bind fun policy =>
        (Decision.meets_introspect policy _ _ requester).translate.bind fun _ => .done _

end Introspection
