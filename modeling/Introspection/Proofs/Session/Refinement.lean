import Introspection.Proofs.Database.Maps

/-!
# The service over a database

A decision over records, made in a session of a database, is the decision over plain maps
(`introspect_refines`). Neither the rows that the session remembers show in it, nor the expiry in
the queries, the hashing of refresh tokens, the clients that tokens refer to, or the way in which
columns are normalized.
-/

namespace Introspection

namespace Session

/-- The maps of a database that conforms to its schema hold what is in it, and to decide about a
token over the database is to decide over these maps: with the same outcome, the same lookups and
the same events. It makes no difference what was asked in the session before. -/
theorem introspect_refines (surroundings : Surroundings)
    (conforms : surroundings.database.Conforms) (running : surroundings.database.outages = []) :
    let records := surroundings.database.records surroundings.now
    surroundings.database.Represents surroundings.now records ∧
      ∀ {α : Type} (before : Procedure α) (policy : Policy) (token : Option String) (hint : Json)
        (requester : Requester),
        ((Session.run surroundings before .empty).state.runDecision surroundings.database
            surroundings.now (Decision.introspect policy token hint requester)).visible =
          records.run (Decision.introspect policy token hint requester) := by
  refine ⟨conforms.represents surroundings.now, ?_⟩
  intro α before policy token hint requester
  have remembered : (Session.run surroundings before .empty).state.Coherent surroundings.database
      surroundings.now := (visible_run before empty_coherent).2
  rw [(visible_runDecision _ remembered).1, conforms.reply_eq running, Records.run]

/-- A database with a refresh token of a client that knows its user by an identifier of its own.
There is an access token of the same value, which expires now. -/
def pairwiseDatabase : Database where
  clients := [⟨"shop", .string "client_secret_basic", .null, .null, .null, .null, .bool true,
    .list [.string "read", .string "write"], .string "ROLE_CLIENT"⟩]
  accessTokens := [⟨"r-1", .string "shop", .null, .null, .null, some ⟨0, some 0⟩⟩]
  refreshTokens := [⟨tokenHash "r-1", .string "shop", .list [.string "read"], .string "alice",
    some ⟨5000000, some 0⟩⟩]
  users := [⟨.string "u-1", "alice", [⟨.string "shop", .string "shop-7"⟩]⟩]
  outages := []

/-- Its rows are of the declared types, and each table has one. -/
theorem pairwiseDatabase_conforms : pairwiseDatabase.Conforms where
  clientIds := by simp [pairwiseDatabase]
  tokens := by simp [pairwiseDatabase]
  tokenHashes := by simp [pairwiseDatabase]
  usernames := by simp [pairwiseDatabase]
  clients row member := by
    obtain rfl := List.mem_singleton.mp member
    exact ⟨.names ["read", "write"], .words "ROLE_CLIENT"⟩
  accessGrants row member := by
    obtain rfl := List.mem_singleton.mp member
    exact ⟨⟨_, List.mem_singleton_self _, rfl⟩, .absent, .absent⟩
  tokenTypes row member := by
    obtain rfl := List.mem_singleton.mp member
    exact .absent
  refreshGrants row member := by
    obtain rfl := List.mem_singleton.mp member
    exact ⟨⟨_, List.mem_singleton_self _, rfl⟩, .names ["read"], .present "alice"⟩
  users row member := by
    obtain rfl := List.mem_singleton.mp member
    refine ⟨⟨"u-1", rfl⟩, ?_, by simp⟩
    intro pairwise member
    obtain rfl := List.mem_singleton.mp member
    exact ⟨"shop-7", rfl⟩

set_option maxRecDepth 1024 in
/-- The client is told about its refresh token, and of the user by its own identifier, also when
the value was first tried as an access token. -/
theorem introspect_refines_pairwise :
    pairwiseDatabase.Conforms ∧ pairwiseDatabase.outages = [] ∧
      ((Session.run ⟨pairwiseDatabase, ⟨0, some 0⟩, fun _ => .unreachable, 900⟩
          (Procedure.ofDecision (Decision.delegatedRequester "r-1")) .empty).state.runDecision
          pairwiseDatabase ⟨0, some 0⟩ (Decision.introspect
            ⟨.string "uma_protection", .subset, .null⟩ (some "r-1") .null
            (.direct "shop" .empty))).visible.result =
        .ok (.active ⟨true, some "read", some "shop", some 5, some "shop-7", some "alice", none,
          none⟩) := by
  refine ⟨pairwiseDatabase_conforms, rfl, ?_⟩
  obtain ⟨_, refined⟩ := introspect_refines
    ⟨pairwiseDatabase, ⟨0, some 0⟩, fun _ => .unreachable, 900⟩ pairwiseDatabase_conforms rfl
  rw [refined]
  rfl

end Session

end Introspection
