import Introspection.Http.Endpoint
import Introspection.Log
import Introspection.Problem
import Introspection.Proofs.Assertion.Breakdown
import Introspection.Proofs.Assertion.KeyBreakdown
import Introspection.Proofs.Assertion.SetBreakdown
import Introspection.Proofs.Credential.Basic
import Introspection.Proofs.Credential.Binding
import Introspection.Proofs.Credential.Breakdown
import Introspection.Proofs.Credential.Claims
import Introspection.Proofs.Credential.Identity
import Introspection.Proofs.Credential.KeySource
import Introspection.Proofs.Credential.Settlement
import Introspection.Proofs.Database.Lifetime
import Introspection.Proofs.Decision.Consultation
import Introspection.Proofs.Decision.Law
import Introspection.Proofs.Decision.Outage
import Introspection.Proofs.Decision.Privilege
import Introspection.Proofs.Decision.Punctuality
import Introspection.Proofs.Decision.Renaming
import Introspection.Proofs.Decision.Secrecy
import Introspection.Proofs.Decision.Steps
import Introspection.Proofs.Decision.Trail
import Introspection.Proofs.Http.Challenge
import Introspection.Proofs.Scope.Shape
import Introspection.Proofs.Secret.Fields
import Introspection.Proofs.Session.Deadline
import Introspection.Proofs.Session.Expiry
import Introspection.Proofs.Session.Memory
import Introspection.Proofs.Session.Permanence
import Introspection.Proofs.Session.Refinement
import Introspection.Proofs.Session.Subject
import Introspection.Proofs.Text.Words
