import Introspection.Problem

/-!
# Failures

What can be raised where a decision is made: a refusal, a store that cannot answer, and data that is
not of the shape the code relies on. A failure names its cause; the words for it are chosen where it
is reported. The first two are problems of some kind, by which they are told apart where failures
are met.
-/

namespace Introspection

/-- The four stores that records come from. -/
inductive Store
  | clients
  | accessTokens
  | refreshTokens
  | users
  deriving DecidableEq, Repr

/-- The name under which a store is reported. -/
def Store.name : Store -> String
  | .clients => "client_store"
  | .accessTokens => "access_token_store"
  | .refreshTokens => "refresh_token_store"
  | .users => "user_store"

/-- A step into a record: the name of a field, or the place in a list. -/
inductive Place
  | field (name : String)
  | index (place : Nat)
  deriving DecidableEq, Repr

/-- What is wrong with a field of a record. -/
inductive Defect
  | missing
  | notText
  | notSet
  | notList
  | notBool
  | unreadableBool
  | notInteger
  | unreadableInteger
  | fractionalInteger
  | integerTooLarge
  | notFinite
  | notFloat
  | unreadableFloat
  | notTime
  | unreadableTime
  | timeOutOfRange
  | notChoice
  | notLiteral
  | notRecord
  | frozen
  deriving DecidableEq, Repr

/-- The name under which a defect is reported. -/
def Defect.name : Defect -> String
  | .missing => "missing"
  | .notText => "string_type"
  | .notSet => "frozen_set_type"
  | .notList => "list_type"
  | .notBool => "bool_type"
  | .unreadableBool => "bool_parsing"
  | .notInteger => "int_type"
  | .unreadableInteger => "int_parsing"
  | .fractionalInteger => "int_from_float"
  | .integerTooLarge => "int_parsing_size"
  | .notFinite => "finite_number"
  | .notFloat => "float_type"
  | .unreadableFloat => "float_parsing"
  | .notTime => "datetime_type"
  | .unreadableTime => "datetime_from_date_parsing"
  | .timeOutOfRange => "datetime_parsing"
  | .notChoice => "enum"
  | .notLiteral => "literal_error"
  | .notRecord => "model_type"
  | .frozen => "frozen_instance"

/-- A defect and where in the record it is. -/
structure FieldError where
  place : List Place
  defect : Defect
  deriving DecidableEq, Repr

/-- Why a requester gets no answer about a token. -/
inductive Refusal
  /-- The token that a delegated requester came with lacks the protection scope. -/
  | insufficientScope
  /-- The client is not registered as one that may ask. -/
  | introspectionNotAllowed
  /-- Nothing is registered about the client. -/
  | clientNotFound
  /-- The policy does not let the requester see this token of another client. -/
  | notPermitted
  deriving DecidableEq, Repr

/-- The name of a reason to refuse. -/
def Refusal.name : Refusal -> String
  | .insufficientScope => "insufficient_scope"
  | .introspectionNotAllowed => "introspection_not_allowed"
  | .clientNotFound => "client_not_found"
  | .notPermitted => "introspection_not_permitted"

/-- The kind of problem that a refusal is. -/
def Refusal.kind : Refusal -> ProblemKind
  | .insufficientScope => .unauthenticatedRequester
  | .introspectionNotAllowed => .unauthenticatedRequester
  | .clientNotFound => .unauthenticatedRequester
  | .notPermitted => .policyDenied

/-- A failure, by its cause. -/
inductive Failure
  /-- A requester gets no answer. -/
  | refused (refusal : Refusal)
  /-- A store cannot answer; `fromDatabase` tells whether its database reported the error. -/
  | unavailable (store : Store) (fromDatabase : Bool)
  /-- The connection to the database was refused before a query could be put. -/
  | connectionRefused
  /-- A record does not have the fields it has to have. -/
  | invalidRecord (errors : List FieldError)
  /-- A value of another type was expected. -/
  | wrongType
  /-- A key names a type, curve or algorithm that is not known. -/
  | unknownName
  /-- A key cannot be used in the way an algorithm asks for. -/
  | unsupportedKey
  /-- A number is outside the range that a computation admits. -/
  | outOfRange
  /-- A text is no address. -/
  | invalidAddress
  /-- No derivation can be done with no iterations. -/
  | noIterations
  /-- A derivation refuses what it has counted of its iterations. -/
  | derivationRefused
  /-- Lists and objects stand in one another more deeply than they can be read. -/
  | tooDeep
  /-- There is no such scope rule. -/
  | unknownScopeRule (shown : String)
  deriving DecidableEq, Repr

namespace Failure

/-- The kind of problem that a failure is, if it is one. -/
def kind? : Failure -> Option ProblemKind
  | .refused refusal => some refusal.kind
  | .unavailable _ _ => some .storeFailure
  | _ => none

/-- Whether a failure is a problem of a kind, or of one below it. -/
def isA (failure : Failure) (general : ProblemKind) : Bool :=
  failure.kind?.any (·.isA general)

/-- The refusal that a failure is, if it is one of the kind of refusals. -/
def refusal (failure : Failure) (forbidden : failure.isA .forbidden = true) : Refusal :=
  match failure, forbidden with
  | .refused refusal, _ => refusal

end Failure

/-- What is reported of a scope rule that there is not. -/
def Failure.unknownRuleMessage (shown : String) : String := shown ++ " is not a valid ScopeRule"

end Introspection
