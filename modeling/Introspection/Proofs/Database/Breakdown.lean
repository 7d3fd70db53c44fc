import Introspection.Proofs.Session.Coherence

/-!
# Rows that no record is made of

A record is made of a row, or it cannot be made for what is in the columns (`Failure.OfRow`). So a
lookup that comes to nothing fails with its table or on the row that was found
(`Database.reply_eq_error`). In neither case is anybody refused anything: refusals are raised by
decisions, and by nothing that answers them (`Surroundings.reply_isA`).
-/

namespace Introspection

/-- What keeps a record from being made of a row: a column that is of another type, or the defects
of what the columns hold. -/
inductive Failure.OfRow : Failure -> Prop
  | wrongType : OfRow .wrongType
  | invalid (errors : List FieldError) : OfRow (.invalidRecord errors)

variable {α : Type} {failure : Failure}

theorem Checked.toExcept_eq_error {checked : Checked α}
    (failed : checked.toExcept = .error failure) : failure.OfRow := by
  cases checked with
  | valid value => cases failed
  | invalid errors =>
    cases failed
    exact .invalid errors

theorem Scope.distinctMembers_eq_error {items : List Json}
    (failed : Scope.distinctMembers items = .error failure) : failure = .wrongType := by
  simp only [distinctMembers] at failed
  split at failed
  · cases failed
  · exact (Except.error.inj failed).symm

theorem Scope.members_eq_error {stored : Json} (failed : Scope.members stored = .error failure) :
    failure = .wrongType := by
  unfold members at failed
  split at failed
  · cases failed
  · split at failed
    · exact distinctMembers_eq_error failed
    · exact distinctMembers_eq_error failed
    · exact distinctMembers_eq_error failed
    · exact (Except.error.inj failed).symm

theorem Scope.column_eq_error {field : String} {stored : Json}
    (failed : Scope.column field stored = .error failure) : failure = .wrongType := by
  obtain failed | ⟨members, _, failed⟩ := bind_eq_error.mp failed
  · exact Scope.members_eq_error failed
  · split at failed
    · cases failed
    · cases failed

theorem Grant.ofColumns_eq_error {owner scope principal : Json} {expiresAt : Option Moment}
    (failed : Grant.ofColumns owner scope principal expiresAt = .error failure) :
    failure = .wrongType := by
  obtain failed | ⟨scopes, _, failed⟩ := bind_eq_error.mp failed
  · exact Scope.column_eq_error failed
  · cases failed

theorem ClientRow.profile_eq_error {row : ClientRow} (failed : row.profile = .error failure) :
    failure.OfRow := by
  obtain failed | ⟨scopes, _, failed⟩ := bind_eq_error.mp failed
  · exact Scope.column_eq_error failed ▸ .wrongType
  · obtain failed | ⟨authorities, _, failed⟩ := bind_eq_error.mp failed
    · exact Scope.column_eq_error failed ▸ .wrongType
    · exact Checked.toExcept_eq_error failed

theorem AccessTokenRow.record_eq_error {row : AccessTokenRow}
    (failed : row.record = .error failure) : failure.OfRow := by
  obtain failed | ⟨grant, _, failed⟩ := bind_eq_error.mp failed
  · exact Grant.ofColumns_eq_error failed ▸ .wrongType
  · exact Checked.toExcept_eq_error failed

theorem RefreshTokenRow.record_eq_error {row : RefreshTokenRow} {value : String}
    (failed : row.record value = .error failure) : failure.OfRow := by
  obtain failed | ⟨grant, _, failed⟩ := bind_eq_error.mp failed
  · exact Grant.ofColumns_eq_error failed ▸ .wrongType
  · exact Checked.toExcept_eq_error failed

theorem UserRow.seenBy_eq_error {row : UserRow} {clientId : String}
    (failed : row.seenBy clientId = .error failure) : failure.OfRow :=
  Checked.toExcept_eq_error failed

namespace Database

variable {database : Database} {now : Moment}

/-- A record that is made of what a table answers fails with the table, or on the row. -/
theorem answer_mapM_eq_error {row : Type} {store : Store} {found : Option row}
    {make : row -> Except Failure α}
    (unmade : ∀ read failure, make read = .error failure -> failure.OfRow)
    (failed : (database.answer store found >>= fun found => found.mapM make) = .error failure) :
    database.failure? store = some failure ∨ failure.OfRow := by
  obtain failed | ⟨read, answered, failed⟩ := bind_eq_error.mp failed
  · exact .inl (answer_eq_error.mp failed)
  · right
    cases read with
    | none => cases failed
    | some read =>
      obtain failed | ⟨_, _, failed⟩ := bind_eq_error.mp failed
      · exact unmade read failure failed
      · cases failed

/-- A lookup fails with its table, or on the row that was found. -/
theorem reply_eq_error {question : Lookup}
    (failed : database.reply now question = .error failure) :
    database.failure? question.store = some failure ∨ failure.OfRow := by
  cases question with
  | client clientId =>
    exact answer_mapM_eq_error (fun _ _ failed => ClientRow.profile_eq_error failed) failed
  | access value =>
    exact answer_mapM_eq_error (fun _ _ failed => AccessTokenRow.record_eq_error failed) failed
  | refresh value =>
    exact answer_mapM_eq_error (fun _ _ failed => RefreshTokenRow.record_eq_error failed) failed
  | user username clientId =>
    exact answer_mapM_eq_error (fun _ _ failed => UserRow.seenBy_eq_error failed) failed

/-- A table that fails refuses nobody. -/
theorem failure?_isA {store : Store} (failed : database.failure? store = some failure) :
    failure.isA .forbidden = false := by
  obtain ⟨_, rfl⟩ | ⟨_, rfl⟩ := failure?_eq_some.mp failed
  · rfl
  · rfl

/-- No lookup is answered with a refusal. -/
theorem reply_isA {question : Lookup} (failed : database.reply now question = .error failure) :
    failure.isA .forbidden = false := by
  obtain outage | ofRow := reply_eq_error failed
  · exact failure?_isA outage
  · cases ofRow <;> rfl

end Database

/-- No question of a procedure is answered with a refusal. -/
theorem Surroundings.reply_isA {surroundings : Surroundings} {question : Question}
    (failed : surroundings.reply question = .error failure) : failure.isA .forbidden = false := by
  cases question with
  | record lookup => exact Database.reply_isA failed
  | registration clientId => exact Database.failure?_isA (Database.answer_eq_error.mp failed)
  | document address => cases failed

end Introspection
