import Introspection.Database.Engine
import Introspection.Proofs.Evaluation

/-!
# What an engine can be refused for

An engine that cannot be made is refused for what it is to be made of: an address, a driver, hosts,
options or a word (`isObjection_of_ofText`). What is wrong with the keeping of an engine is another
matter, and no text brings it about.

Each reader has one lemma, put together in the order in which the reader is.
-/

namespace Introspection.Database

/-- An objection to what an engine is to be made of, and not to how one is kept. -/
def Fault.IsObjection : Fault -> Prop
  | .noAddress => False
  | .noFactory => False
  | .notDisposed => False
  | _ => True

/-- A computation that fails for objections alone. -/
def Examines {α : Type} (computed : Except Fault α) : Prop :=
  ∀ fault, computed = .error fault -> fault.IsObjection

namespace Examines

variable {α β : Type}

theorem ok (value : α) : Examines (.ok value) := nofun

theorem error {fault : Fault} (objects : fault.IsObjection) :
    Examines (.error fault : Except Fault α) := by
  rintro _ ⟨⟩
  exact objects

theorem bind {first : Except Fault α} {next : α -> Except Fault β} (atFirst : Examines first)
    (atNext : ∀ value, Examines (next value)) : Examines (first >>= next) := by
  intro fault failed
  rcases bind_eq_error.mp failed with refused | ⟨value, _, refused⟩
  · exact atFirst fault refused
  · exact atNext value fault refused

theorem ite {condition : Prop} [Decidable condition] {first other : Except Fault α}
    (ifSo : Examines first) (ifNot : Examines other) :
    Examines (if condition then first else other) := by
  split
  · exact ifSo
  · exact ifNot

theorem mapM {f : α -> Except Fault β} (each : ∀ value, Examines (f value)) (values : List α) :
    Examines (values.mapM f) := by
  induction values with
  | nil => exact ok []
  | cons value rest ih =>
    rw [List.mapM_cons]
    exact bind (each value) fun _ => bind ih fun _ => ok _

end Examines

section Readers

open Examines

variable (address : Address) (name : String)

theorem examines_driver : Examines address.driver? := by
  unfold Address.driver?
  dsimp only
  split
  · split
    · exact ok _
    · exact error trivial
  · split
    · exact ok _
    · exact error trivial
  · exact error trivial

theorem examines_hostOptions : Examines (HostOptions.ofAddress address) := by
  unfold HostOptions.ofAddress
  dsimp only
  split
  case' h_1 => refine bind (ok _) fun named => ?_
  case' h_2 => refine bind (ok _) fun named => ?_
  case' h_3 => refine bind (ite (error trivial) (ok _)) fun named => ?_
  -- Whichever hosts are named, the numbers are read alike.
  all_goals
    split
    · exact ok _
    · exact ite (error trivial) (ok _)
    · exact ite (error trivial) (ok _)

theorem examines_numberOf (text : Option String) : Examines (HostOptions.numberOf text) := by
  unfold HostOptions.numberOf
  split
  · exact ok _
  · split
    · exact ok _
    · exact error trivial

theorem examines_hosts (options : HostOptions) : Examines options.read :=
  bind (mapM examines_numberOf _) fun _ => ite (error trivial) (ok _)

theorem examines_checkHosts (hosts : List (String × Option Int)) : Examines (checkHosts hosts) :=
  ite (ok _) (ite (ok _) (error trivial))

theorem examines_option (isValid : String -> Bool) :
    Examines (address.checkOption name isValid) := by
  unfold Address.checkOption
  split
  · exact ok _
  · exact ite (ok _) (error trivial)
  · exact error trivial

theorem examines_truth : Examines (address.checkTruth name) := by
  unfold Address.checkTruth
  split
  · exact ok _
  · split
    · exact ok _
    · exact error trivial
  · exact ok _

theorem examines_remote : Examines address.checkRemote :=
  bind (examines_hostOptions address) fun options =>
    bind (examines_hosts options) fun hosts =>
      bind (examines_option address _ _) fun _ => examines_checkHosts hosts

theorem examines_local : Examines address.checkLocal :=
  ite (error trivial) <|
    bind (examines_truth address _) fun _ =>
      bind (examines_option address _ _) fun _ =>
        bind (examines_option address _ _) fun _ =>
          bind (examines_truth address _) fun _ =>
            bind (examines_option address _ _) fun _ => ite (error trivial) (ok _)

theorem examines_usable (text : String) : Examines (Address.usable text) := by
  unfold Address.usable
  split
  · exact error trivial
  · refine ite (error trivial) (bind (examines_driver _) fun driver => ?_)
    cases driver with
    | usable => exact bind (examines_remote _) fun _ => ok _
    | absent => exact error trivial
    | noDriver => exact error trivial
    | blocking => exact bind (examines_local _) fun _ => error trivial

theorem examines_echo (value : Json) : Examines (Echo.ofJson value) := by
  unfold Echo.ofJson
  split
  · exact ok _
  · exact ite (ok _) (error trivial)
  · exact error trivial
  · exact error trivial
  · exact ite (ok _) (ite (ok _) (error trivial))

end Readers

/-- An engine is refused for what it is to be made of. -/
theorem isObjection_of_ofText {serial : Nat} {text : String} {echo : Json}
    {searchPath : Option String} {fault : Fault}
    (refused : Engine.ofText serial text echo searchPath = .error fault) : fault.IsObjection := by
  have examines : Examines (Engine.ofText serial text echo searchPath) :=
    .bind (examines_usable text) fun _ => .bind (examines_echo echo) fun _ => .ok _
  exact examines fault refused

end Introspection.Database
