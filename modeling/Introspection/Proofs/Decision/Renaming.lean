import Introspection.Proofs.Decision.Consultation

/-!
# The value of a token

The value of a token stands for the token and is not to be seen by anybody. It is in the request and
in the stores; in an answer, in a failure or on record it never is. This is stated by renaming: when
the tokens of a value are moved to another value, a request about that one is decided as the request
about the first one was, to the last event, and only the lookups show which of the two was given
(`introspect_moved`).
-/

namespace Introspection

/-- Entries with the record under a key moved to another key, and changed on the way. -/
def Entries.move {key value : Type} [DecidableEq key] (entries : Entries key value)
    (name other : key) (changed : value -> value) : Entries key value :=
  entries.map fun entry => if entry.1 = name then (other, changed entry.2) else entry

/-- A record is found under the key that it was moved to, if there was none before. -/
theorem Entries.get?_move {key value : Type} [DecidableEq key] {entries : Entries key value}
    {name other : key} (unused : entries.get? other = none) (changed : value -> value) :
    (entries.move name other changed).get? other = (entries.get? name).map changed := by
  induction entries with
  | nil => rfl
  | cons entry rest ih =>
    have isOther : entry.1 ≠ other := by
      rintro rfl
      simp [get?] at unused
    have unusedLater : Entries.get? rest other = none := by
      simpa [get?, isOther] using unused
    have later := ih unusedLater
    simp only [get?, move, List.map_cons, List.find?_cons] at later ⊢
    by_cases isName : entry.1 = name
    · simp [isName]
    · simpa [isName, isOther] using later

/-- Stores with the tokens of a value moved to another value, under which they carry that one. -/
def Stores.moveTokens (stores : Stores) (value other : String) : Stores :=
  { stores with
    accessTokens := stores.accessTokens.move value other fun token => { token with value := other }
    refreshTokens :=
      stores.refreshTokens.move value other fun token => { token with value := other } }

/-- A lookup with one value replaced by another one. -/
def Lookup.replacing (value other : String) : Lookup -> Lookup :=
  Lookup.renamed fun name => if name = value then other else name

namespace Decision

/-- What is consulted about a value is alike in stores in which its tokens have been moved. -/
theorem alike_moveTokens {stores : Stores} {requester : Requester} {value : String}
    {rename : String -> String} (unusedAccess : stores.accessTokens.get? (rename value) = none)
    (unusedRefresh : stores.refreshTokens.get? (rename value) = none) (hint : Json)
    {question : Lookup} (consulted : Consulted stores.find requester value question) :
    (indifference rename hint hint).alike question (stores.find question)
      ((stores.moveTokens value (rename value)).find (question.renamed rename)) := by
  cases consulted with
  | client => rfl
  | access =>
    change Option.Rel _ _ (((stores.moveTokens value _).accessTokens.get? _).map _)
    rw [Stores.moveTokens, Entries.get?_move unusedAccess]
    simp only [Stores.find]
    cases stores.accessTokens.get? value with
    | none => exact .none
    | some token => exact .some (.access ..)
  | refresh =>
    change Option.Rel _ _ (((stores.moveTokens value _).refreshTokens.get? _).map _)
    rw [Stores.moveTokens, Entries.get?_move unusedRefresh]
    simp only [Stores.find]
    cases stores.refreshTokens.get? value with
    | none => exact .none
    | some token => exact .some (.refresh ..)
  | user named issuedFor => rfl

/-- The value of a token never reaches an answer, a failure or the record. When the tokens of a
value are moved to another value that was none before, a request about the other value ends as the
one about the first did, with the same outcome or failure and the same events; and its lookups are
those of the first with the value replaced. -/
theorem introspect_moved {stores : Stores} {value other : String} (given : value ≠ "")
    (otherGiven : other ≠ "") (unusedAccess : stores.accessTokens.get? other = none)
    (unusedRefresh : stores.refreshTokens.get? other = none) (policy : Policy) (hint : Json)
    (requester : Requester) :
    let run := stores.run (introspect policy (some value) hint requester)
    let moved := (stores.moveTokens value other).run
      (introspect policy (some other) hint requester)
    moved.result = run.result ∧ moved.events = run.events ∧
      moved.asked = run.asked.map (Lookup.replacing value other) := by
  intro run moved
  obtain ⟨rename, rfl, replacing⟩ : ∃ rename : String -> String, rename value = other ∧
      Lookup.replacing value other = Lookup.renamed rename :=
    ⟨fun name => if name = value then other else name, if_pos rfl, rfl⟩
  have failing : ∀ store, store ∈ (stores.moveTokens value (rename value)).failing ↔
      store ∈ stores.failing := fun _ => Iff.rfl
  obtain ⟨result, asked, events⟩ := introspect_alike given otherGiven failing
    (fun question => @alike_moveTokens stores requester value rename unusedAccess unusedRefresh hint
      question) policy
  refine ⟨result, ?_, replacing ▸ asked⟩
  have same := events.imp fun _ _ => Event.SameButHint.eq
  rw [List.forall₂_eq_eq_eq] at same
  exact same.symm

/-- Stores with a refresh token of the client that asks, and an access token of another value. -/
def refreshingStores : Stores where
  clients := [("shop", ⟨"shop", true, .empty, .ofList [clientRole]⟩)]
  accessTokens := [("a-1", ⟨"a-1", ⟨"bank", .empty, none, none⟩, "Bearer"⟩)]
  refreshTokens := [("r-1", ⟨"r-1", ⟨"shop", .ofList ["read"], some "alice", none⟩⟩)]
  users := [(("alice", "shop"), ⟨"u-1", some "alice"⟩)]
  failing := []

/-- The client is told the same about the refresh token under another value, and what is put on
record is the same. -/
theorem introspect_moved_refresh :
    let policy : Policy := .ofTexts "uma_protection" .subset none
    let requester : Requester := .direct "shop" .empty
    let run := refreshingStores.run (introspect policy (some "r-1") .null requester)
    let moved := (refreshingStores.moveTokens "r-1" "r-9").run
      (introspect policy (some "r-9") .null requester)
    refreshingStores.accessTokens.get? "r-9" = none ∧
      refreshingStores.refreshTokens.get? "r-9" = none ∧
      run.result = .ok (.active
        ⟨true, some "read", some "shop", none, some "u-1", some "alice", none, none⟩) ∧
      run.asked = [.client "shop", .access "r-1", .refresh "r-1", .user "alice" "shop"] ∧
      moved.result = run.result ∧ moved.events = run.events ∧
      moved.asked = run.asked.map (Lookup.replacing "r-1" "r-9") := by
  intro policy requester run moved
  have unusedAccess : refreshingStores.accessTokens.get? "r-9" = none := rfl
  have unusedRefresh : refreshingStores.refreshTokens.get? "r-9" = none := rfl
  exact ⟨unusedAccess, unusedRefresh, rfl, rfl, introspect_moved (by decide) (by decide)
    unusedAccess unusedRefresh policy .null requester⟩

end Decision

end Introspection
