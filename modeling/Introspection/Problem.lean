import Introspection.Json.Printer

/-!
# Kinds of problem

How the reasons for not answering are classified. A problem of a special kind is also one of every
more general kind; a failure of a store is not a refusal.
-/

namespace Introspection

/-- A kind of problem. -/
inductive ProblemKind
  | introspection
  | forbidden
  | unauthenticatedRequester
  | policyDenied
  | storeFailure
  deriving DecidableEq, Repr

namespace ProblemKind

/-- Every kind, a more general one before those below it. -/
def all : List ProblemKind :=
  [.introspection, .forbidden, .unauthenticatedRequester, .policyDenied, .storeFailure]

/-- The next more general kind. -/
def parent? : ProblemKind -> Option ProblemKind
  | .introspection => none
  | .forbidden => some .introspection
  | .unauthenticatedRequester => some .forbidden
  | .policyDenied => some .forbidden
  | .storeFailure => some .introspection

/-- Whether a problem of the first kind is one of the second. -/
def isA (kind general : ProblemKind) : Bool :=
  kind == general || match kind.parent? with
    | none => false
    | some parent => parent == general || parent.parent? == some general

end ProblemKind

/-- A problem: its kind, and its reason or the store that failed. -/
structure Problem where
  kind : ProblemKind
  subject : Json

namespace Problem

/-- The message that a store cannot answer. -/
def unavailable (store : String) : String := store ++ "_unavailable"

/-- The reason that is reported. -/
def reason (problem : Problem) : Json :=
  if problem.kind = .storeFailure then .string (unavailable problem.subject.display)
  else problem.subject

/-- The store that failed, if the problem is such a failure. -/
def store? (problem : Problem) : Option Json :=
  if problem.kind = .storeFailure then some problem.subject else none

end Problem

end Introspection
