import Introspection.Decision

/-!
# Stores in memory

Four maps from keys to records, any of which may be failing. A failing store answers no lookup at
all, which is not the same as having no record.
-/

namespace Introspection

/-- A map as a list of entries with different keys. -/
abbrev Entries (key value : Type) : Type := List (key × value)

namespace Entries

variable {key value : Type} [DecidableEq key]

/-- The record under a key. -/
def get? (entries : Entries key value) (wanted : key) : Option value :=
  (entries.find? (·.1 = wanted)).map (·.2)

/-- The entries without the one under a key. -/
def erase (entries : Entries key value) (unwanted : key) : Entries key value :=
  entries.filter (·.1 ≠ unwanted)

/-- The entries with a record under a key, in place of the one there if any. -/
def put (entries : Entries key value) (name : key) (record : value) : Entries key value :=
  entries.erase name ++ [(name, record)]

/-- The record that was put under a key is found there. -/
theorem get?_put_self (entries : Entries key value) (name : key) (record : value) :
    (entries.put name record).get? name = some record := by
  have absent : ∀ entry ∈ entries.erase name, ¬ entry.1 = name := fun entry member => by
    simpa using (List.mem_filter.mp member).2
  have none : (entries.erase name).find? (·.1 = name) = none :=
    List.find?_eq_none.mpr fun entry member => by simpa using absent entry member
  simp [get?, put, List.find?_append, none]

/-- What is under other keys stays as it is. -/
theorem get?_put_of_ne (entries : Entries key value) {name other : key} (record : value)
    (different : other ≠ name) : (entries.put name record).get? other = entries.get? other := by
  induction entries with
  | nil => simp [get?, put, erase, Ne.symm different]
  | cons entry rest ih =>
    simp only [get?, put, erase, List.filter_cons, List.find?_cons] at ih ⊢
    by_cases isName : entry.1 = name
    · simp [isName, Ne.symm different] at ih ⊢
      exact ih
    · by_cases isOther : entry.1 = other
      · simp [isOther, different]
      · simp [isName, isOther] at ih ⊢
        exact ih

end Entries

/-- The content of the four stores, and which of them are failing. -/
structure Stores where
  clients : Entries String ClientProfile
  accessTokens : Entries String AccessToken
  refreshTokens : Entries String RefreshToken
  users : Entries (String × String) UserContext
  failing : List Store

namespace Stores

/-- The record that a lookup is for. -/
def find (stores : Stores) : (question : Lookup) -> question.Reply
  | .client clientId => stores.clients.get? clientId
  | .access value => stores.accessTokens.get? value
  | .refresh value => stores.refreshTokens.get? value
  | .user username clientId => stores.users.get? (username, clientId)

/-- Answer a lookup, unless its store is failing. -/
def reply (stores : Stores) (question : Lookup) : Except Failure question.Reply :=
  if question.store ∈ stores.failing then .error (.unavailable question.store false)
  else .ok (stores.find question)

/-- Run a decision over the stores. -/
def run {α : Type} (stores : Stores) (decision : Decision α) : Transcript Lookup Unit α :=
  Inquiry.run (fun question _ => (stores.reply question, ())) decision ()

end Stores

end Introspection
