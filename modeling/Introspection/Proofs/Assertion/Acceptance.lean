import Introspection.Assertion
import Introspection.Proofs.Evaluation

/-!
# Accepted assertions

What an assertion is that has passed the check (`accepted_of_check`): it is taken apart, its header
names an accepted algorithm, its signature is right under the key that is given for the header,
and its times fit. A key that is selected for an assertion is one of the keys of a set
(`Key.select_mem`), which have all been taken in from it (`Key.isIn_of_ofSet`).
-/

namespace Introspection.Assertion

/-- What is made of the items of a list, one by one, is made of an item each. -/
theorem mem_of_mapM_eq_ok {ε α β : Type} {make : α -> Except ε β} {items : List α}
    {made : List β} (all : items.mapM make = .ok made) {value : β} (member : value ∈ made) :
    ∃ item ∈ items, make item = .ok value := by
  induction items generalizing made with
  | nil =>
    obtain rfl : [] = made := by simpa using all
    exact absurd member List.not_mem_nil
  | cons item rest ih =>
    rw [List.mapM_cons] at all
    obtain ⟨first, isFirst, others⟩ := bind_eq_ok.mp all
    obtain ⟨more, areMore, together⟩ := bind_eq_ok.mp others
    obtain rfl : first :: more = made := by simpa using together
    rcases List.mem_cons.mp member with rfl | inMore
    · exact ⟨item, List.mem_cons_self, isFirst⟩
    · obtain ⟨other, inRest, isValue⟩ := ih areMore inMore
      exact ⟨other, List.mem_cons_of_mem _ inRest, isValue⟩

/-- The algorithm that is chosen is an accepted one, and the header has its name. -/
theorem Algorithm.choose_eq_ok {accepted : List Algorithm} {named : Option Json}
    {algorithm : Algorithm} (chosen : choose accepted named = .ok algorithm) :
    algorithm ∈ accepted ∧ named = some (.string algorithm.name) := by
  unfold choose at chosen
  split at chosen
  · next text =>
    split at chosen
    · next other found =>
      obtain rfl := Except.ok.inj chosen
      have same : other.name = text := by simpa using List.find?_some found
      exact ⟨List.mem_of_find?_eq_some found, by rw [same]⟩
    · cases chosen
  · cases chosen
  · cases chosen
  · cases chosen

namespace Key

/-- A key is one of the items of a key set, taken in. -/
def IsIn (key : Key) (members : Members) : Prop :=
  ∃ items, Json.member? "keys" members = some (.list items) ∧ ∃ item ∈ items, ofJson item = .ok key

/-- A text is no key. -/
theorem ofJson_string (text : String) : ofJson (.string text) = .error .unusable := rfl

/-- The keys that a set is taken for are in it. -/
theorem isIn_of_ofSet {members : Members} {keys : List Key} (taken : ofSet members = .ok keys)
    {key : Key} (member : key ∈ keys) : key.IsIn members := by
  unfold ofSet at taken
  cases held : Json.member? "keys" members with
  | none =>
    rw [held] at taken
    cases taken
  | some value =>
    rw [held, Option.getD_some] at taken
    cases value with
    | list items => exact ⟨items, held, mem_of_mapM_eq_ok taken member⟩
    | object fields =>
      obtain ⟨field, _, isKey⟩ := mem_of_mapM_eq_ok taken member
      rw [ofJson_string] at isKey
      cases isKey
    | string text =>
      obtain ⟨c, _, isKey⟩ := mem_of_mapM_eq_ok taken member
      rw [ofJson_string] at isKey
      cases isKey
    | null => cases taken
    | bool _ => cases taken
    | int _ => cases taken
    | double _ => cases taken

/-- A key that is selected is in the set. -/
theorem select_mem {keys : List Key} {identifier : Json} {key : Key}
    (selected : select keys identifier = .ok key) : key ∈ keys := by
  unfold select at selected
  split at selected
  · next only =>
    obtain rfl := Except.ok.inj selected
    exact List.mem_singleton_self only
  · split at selected
    · next other found =>
      obtain rfl := Except.ok.inj selected
      exact List.mem_of_find?_eq_some found
    · cases selected

end Key

/-- An assertion has a signature by a key under an algorithm that its header names. -/
structure Parsed.SignedBy (parsed : Parsed) (algorithm : Algorithm) (key : Key) : Prop where
  named : Json.member? "alg" parsed.header = some (.string algorithm.name)
  verified : algorithm.verify key parsed.signed parsed.signature = .ok true

/-- An assertion passes the check, taken apart in some way. -/
structure Accepted (accepted : List Algorithm) (keyFor : Members -> Except Fault Key)
    (depth : Nat) (now : Int) (leeway : Json) (assertion : String) (parsed : Parsed) : Prop where
  parts : (Text.utf8 assertion).count dot = 2
  read : parse depth (Text.utf8 assertion) = .ok parsed
  signed : ∃ algorithm ∈ accepted, ∃ key, keyFor parsed.header = .ok key ∧
    parsed.SignedBy algorithm key
  times : checkTimes now leeway parsed.claims = .ok ()

variable {accepted : List Algorithm} {keyFor : Members -> Except Fault Key} {depth : Nat}
  {now : Int} {leeway : Json} {assertion : String} {parsed : Parsed}

/-- The check of an assertion yields it taken apart, if it passes. -/
theorem accepted_of_check
    (checked : check accepted keyFor depth now leeway assertion = .ok parsed) :
    Accepted accepted keyFor depth now leeway assertion parsed := by
  simp only [check] at checked
  split at checked
  · next parts =>
    obtain ⟨taken, read, checked⟩ := bind_eq_ok.mp checked
    obtain ⟨algorithm, chosen, checked⟩ := bind_eq_ok.mp checked
    obtain ⟨key, isKey, checked⟩ := bind_eq_ok.mp checked
    obtain ⟨right, verified, checked⟩ := bind_eq_ok.mp checked
    cases right with
    | false => cases checked
    | true =>
      obtain ⟨_, times, same⟩ := bind_eq_ok.mp checked
      obtain rfl := Except.ok.inj same
      obtain ⟨member, named⟩ := Algorithm.choose_eq_ok chosen
      exact ⟨parts, read, ⟨algorithm, member, key, isKey, named, verified⟩, times⟩
  · cases checked
  · cases checked

end Introspection.Assertion
