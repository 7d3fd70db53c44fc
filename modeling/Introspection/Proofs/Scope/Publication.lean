import Introspection.Proofs.Database.Maps
import Introspection.Proofs.Decision.Answers
import Introspection.Proofs.Decision.Kinds
import Introspection.Proofs.Text.Words

/-!
# The scopes that are told

An answer tells the scopes of a token as a text: the names in order, with single spaces between
them. Where the scopes are stored as a text too, this one is read back as the same set of scopes
(`ScopeSet.ofText_toText`), and it is the only text that is ever told of that set, whatever the
order, the repetitions and the blanks of the stored one (`TokenRow.published_scope`).
-/

namespace Introspection

/-- A stored value is read as a set of scopes, in whatever field it is. -/
def Json.Holds (stored : Json) (scopes : ScopeSet) : Prop :=
  ∀ field, Scope.column field stored = .ok (.valid scopes)

/-- A stored value is read as one set of scopes. -/
theorem Json.Holds.unique {stored : Json} {scopes others : ScopeSet} (holds : stored.Holds scopes)
    (also : stored.Holds others) : scopes = others :=
  Checked.valid.inj (Except.ok.inj ((holds "scopes").symm.trans (also "scopes")))

/-- A text is read as the set of its words. -/
theorem Json.holds_string (text : String) : (Json.string text).Holds (.ofText text) :=
  fun field => Scope.column_of_isScope field (.words text)

namespace ScopeSet

/-- The scopes of a text are its words. -/
theorem mem_ofText {text name : String} :
    name ∈ ofText text ↔ name.toList ∈ Text.words text.toList := by
  rw [ofText, mem_ofList, List.mem_map]
  constructor
  · rintro ⟨word, isWord, rfl⟩
    rwa [String.toList_ofList]
  · intro isWord
    exact ⟨name.toList, isWord, String.ofList_toList⟩

variable {scopes : ScopeSet}

/-- The set of the members of a set is the set itself. -/
theorem ofList_members (scopes : ScopeSet) : ofList scopes.members = scopes :=
  ext_mem fun _ => mem_ofList

/-- The characters of the text that a set is written as. -/
theorem toList_toText (scopes : ScopeSet) :
    scopes.toText.toList = [' '].intercalate (scopes.members.map String.toList) :=
  String.toList_intercalate

/-- Scopes that are words are read back from the text that they are written as. -/
theorem ofText_toText (areWords : ∀ name ∈ scopes, Text.IsWord name.toList) :
    ofText scopes.toText = scopes := by
  have read : Text.words scopes.toText.toList = scopes.members.map String.toList := by
    rw [toList_toText]
    exact Text.words_intercalate_of_isWord (List.forall_mem_map.mpr areWords)
  rw [ofText, read, List.map_map]
  simpa [Function.comp_def] using ofList_members scopes

/-- The text that scopes without spaces are written as is divided at the spaces into increasing
parts. -/
theorem pairwise_splitOn_toText (noSpace : ∀ name ∈ scopes, ' ' ∉ name.toList) :
    ((scopes.toText.toList.splitOn ' ').map String.ofList).Pairwise (· < ·) := by
  rw [toList_toText]
  by_cases empty : scopes.members = []
  · -- The text without characters has one part, which is empty.
    simp [empty]
  · rw [List.splitOn_intercalate ' ' (List.forall_mem_map.mpr noSpace) (by simpa using empty)]
    simpa [Function.comp_def] using scopes.increasing

end ScopeSet

/-- A stored token, a refresh token with the value that it is found by. -/
inductive TokenRow
  | access (row : AccessTokenRow)
  | refresh (row : RefreshTokenRow) (value : String)

namespace TokenRow

/-- The column for the scopes. -/
def scope : TokenRow -> Json
  | .access row => row.scope
  | .refresh row _ => row.scope

/-- The record of a stored token. -/
def record : TokenRow -> Except Failure SubjectToken
  | .access row => do return .access (<- row.record)
  | .refresh row value => do return .refresh (<- row.record value)

/-- The columns other than that for the scopes are of their types. -/
inductive IsTyped : TokenRow -> Prop
  | access {row : AccessTokenRow} {clientId : String} (owned : row.owner = .string clientId)
      (isName : row.principal.IsOptionalText) (typed : row.tokenType.IsOptionalText) :
      IsTyped (.access row)
  | refresh {row : RefreshTokenRow} {value clientId : String}
      (owned : row.owner = .string clientId) (isName : row.principal.IsOptionalText) :
      IsTyped (.refresh row value)

/-- What is assembled about a stored token, for an issuer and a user. -/
def Tells (row : TokenRow) (issuer : Json) (user : Option UserContext) (told : Answer) : Prop :=
  ∃ token, row.record = .ok token ∧ Decision.assemble issuer token user = .ok told

variable {row : TokenRow} {scopes : ScopeSet} {issuer : Json} {user : Option UserContext}
  {told : Answer}

/-- Of columns of their types and stored scopes a record can be made. -/
theorem IsTyped.exists_record (typed : row.IsTyped) (isScope : row.scope.IsScope) :
    ∃ token, row.record = .ok token := by
  cases typed with
  | access owned isName typed =>
    exact ⟨_, bind_eq_ok.mpr ⟨_, AccessTokenRow.record_eq owned isScope isName typed, rfl⟩⟩
  | refresh owned isName =>
    exact ⟨_, bind_eq_ok.mpr ⟨_, RefreshTokenRow.record_eq owned isScope isName _, rfl⟩⟩

/-- A record has the scopes that the column for them holds. -/
theorem scopes_eq_of_record {token : SubjectToken} (made : row.record = .ok token)
    (holds : row.scope.Holds scopes) : token.grant.scopes = scopes := by
  have read {owner principal : Json} {expiresAt : Option Moment} {grant : Grant}
      (read : Grant.ofColumns owner row.scope principal expiresAt = .ok (.valid grant)) :
      grant.scopes = scopes := by
    obtain ⟨_, isColumn, _⟩ := Grant.holds_of_ofColumns read
    exact Checked.valid.inj (Except.ok.inj (isColumn.symm.trans (holds "scopes")))
  cases row with
  | access row =>
    obtain ⟨access, rowMade, isToken⟩ := bind_eq_ok.mp made
    cases isToken
    exact read (AccessTokenRow.grant_of_record rowMade)
  | refresh row value =>
    obtain ⟨refresh, rowMade, isToken⟩ := bind_eq_ok.mp made
    cases isToken
    exact read (RefreshTokenRow.grant_of_record rowMade)

/-- What is told of the scopes of a token is the text that they are written as. -/
theorem Tells.get?_scope (tells : row.Tells issuer user told) (holds : row.scope.Holds scopes) :
    told.payload.get? "scope" = some (.string scopes.toText) := by
  obtain ⟨token, made, assembled⟩ := tells
  obtain ⟨name, rfl⟩ := Decision.exists_answer_of_assemble assembled
  rw [← scopes_eq_of_record made holds]
  have listed : ("scope", Json.ofString? (some token.grant.scopes.toText)) ∈
      (Decision.answer name token user).fields := by simp [Answer.fields, Decision.answer]
  exact Answer.get?_text rfl listed

/-- The scopes of a token that are stored as a text are told as one that is read back as the same
set. They are words, and the text that is told has them in strictly increasing order, with single
spaces between them. All that is told of this token, for any issuer and any user, has this text,
and so has all that is told of any other one whose stored scopes are read as the same set. -/
theorem published_scope {text : String} (stored : row.scope = .string text) :
    ∃ (scopes : ScopeSet) (published : String),
      (Json.string text).Holds scopes ∧
      (∀ name ∈ scopes, Text.IsWord name.toList) ∧
      (row.IsTyped -> ∀ (issuer : Option String) (user : Option UserContext),
        ∃ told, row.Tells (.ofString? issuer) user told) ∧
      (∀ (issuer : Json) (user : Option UserContext) (told : Answer),
        row.Tells issuer user told -> told.payload.get? "scope" = some (.string published)) ∧
      (Json.string published).Holds scopes ∧
      ((published.toList.splitOn ' ').map String.ofList).Pairwise (· < ·) ∧
      ∀ other : TokenRow, other.scope.Holds scopes ->
        ∀ (issuer : Json) (user : Option UserContext) (told : Answer),
          other.Tells issuer user told ->
            told.payload.get? "scope" = some (.string published) := by
  have holds : (Json.string text).Holds (.ofText text) := Json.holds_string text
  have areWords : ∀ name ∈ ScopeSet.ofText text, Text.IsWord name.toList :=
    fun _ member => Text.isWord_of_mem_words (ScopeSet.mem_ofText.mp member)
  refine ⟨.ofText text, (ScopeSet.ofText text).toText, holds, areWords, ?_, ?_, ?_, ?_, ?_⟩
  · intro typed issuer user
    obtain ⟨token, made⟩ := typed.exists_record (stored ▸ .words text)
    exact ⟨_, token, made, Decision.assemble_ofString? issuer token user⟩
  · intro issuer user told tells
    exact tells.get?_scope (stored ▸ holds)
  · have readBack := Json.holds_string (ScopeSet.ofText text).toText
    rwa [ScopeSet.ofText_toText areWords] at readBack
  · exact ScopeSet.pairwise_splitOn_toText fun name member => (areWords name member).space_not_mem
  · intro other sameScopes issuer user told tells
    exact tells.get?_scope sameScopes

/-- Two scopes that are stored out of order, twice and with a wide space between them are told in
order with a single space, and so are those of a refresh token that has them as a list. -/
theorem published_scope_spaced :
    let access : TokenRow :=
      .access ⟨"t-1", .string "shop", .null, .string "write\u2003read\t write", .null, none⟩
    let refresh : TokenRow := .refresh
      ⟨tokenHash "t-2", .string "desk", .list [.string "read", .string "write"], .null, none⟩ "t-2"
    access.scope = .string "write\u2003read\t write" ∧
      ∃ told also : Answer, access.Tells .null none told ∧ refresh.Tells .null none also ∧
        told.payload.get? "scope" = some (.string "read write") ∧
          also.payload.get? "scope" = some (.string "read write") := by
  intro access refresh
  have stored : access.scope = .string "write\u2003read\t write" := rfl
  obtain ⟨scopes, published, holds, _, tellsAll, toldAll, _, _, others⟩ := published_scope stored
  obtain ⟨told, tells⟩ := tellsAll (.access rfl .absent .absent) none none
  obtain rfl : scopes = .ofList ["read", "write"] := holds.unique (Json.holds_string _)
  have isPublished : published = "read write" := by
    have same := (toldAll _ _ _ tells).symm.trans (tells.get?_scope holds)
    exact Json.string.inj (Option.some.inj same)
  have alsoHolds : refresh.scope.Holds (.ofList ["read", "write"]) :=
    fun field => Scope.column_of_isScope field (.names ["read", "write"])
  obtain ⟨token, made⟩ := (IsTyped.refresh rfl .absent : refresh.IsTyped).exists_record
    (.names ["read", "write"])
  have tellsAlso : refresh.Tells .null none _ := ⟨token, made, rfl⟩
  rw [isPublished] at toldAll others
  exact ⟨stored, told, _, tells, tellsAlso, toldAll _ _ _ tells, others _ alsoHolds _ _ _ tellsAlso⟩

end TokenRow

end Introspection
