import Introspection.Proofs.Assertion.Fields

/-!
# Keys that break down in use

The check of a signature comes to a verdict or finds that the key is unusable, or it fails. It
fails in the ways that `Key.UseBreakdown` lists, and in no other (`Algorithm.verify_eq_failed`): the
key is of another family than the algorithm, a field that is needed has no bytes, what the key may
be used for cannot be looked through, or its curve is one for which there are no signatures.
-/

namespace Introspection.Assertion

variable {failure : Failure}

namespace Key

/-- The curves of the Edwards family for signatures, with the sizes of what is encoded on them. -/
def signatureSizes : List (String × Nat) := [("Ed25519", 32), ("Ed448", 57)]

/-- The curves of the Edwards family for key agreement, with the sizes of what is encoded on
them. -/
def agreementSizes : List (String × Nat) := [("X25519", 32), ("X448", 56)]

/-- The field in which an Edwards key is told. -/
def edwardsField (key : Key) : String := if key.has "d" then "d" else "x"

/-- What breaks the use of an Edwards key down. -/
inductive EdwardsBreakdown (key : Key) : Failure -> Prop
  /-- Its curve is not named by a text, but by a list or an object. -/
  | compoundCurve (compound : (key.get "crv").isCompound = true) : EdwardsBreakdown key .wrongType
  /-- There is no curve of the name. -/
  | unknownCurve (notCompound : (key.get "crv").isCompound = false)
      (unknown : ∀ known ∈ signatureSizes ++ agreementSizes, key.get "crv" ≠ .string known.1) :
      EdwardsBreakdown key .unknownName
  /-- It has no bytes. -/
  | noBytes {known : String × Nat} (isKnown : known ∈ signatureSizes ++ agreementSizes)
      (named : key.get "crv" = .string known.1)
      (noBytes : (key.get key.edwardsField).HasNoBytes) : EdwardsBreakdown key .wrongType
  /-- It is a key for key agreement, of the right size, and not for signatures. -/
  | noSignatures {known : String × Nat} {encoded : List UInt8} (isKnown : known ∈ agreementSizes)
      (named : key.get "crv" = .string known.1)
      (read : bytes (fun text => some (Text.utf8 text)) (key.get key.edwardsField) = .ok encoded)
      (size : encoded.length = known.2) : EdwardsBreakdown key .unsupportedKey

/-- What is done with the bytes of a field once they have been found to be of some size. -/
theorem bytes_ofSize_eq_failed {encode : String -> Option (List UInt8)} {value : Json} {size : Nat}
    {breaks : Prop} {next : List UInt8 -> Except Fault (List UInt8)}
    (after : ∀ encoded, next encoded = .error (.failed failure) ↔ breaks) :
    (do
      let encoded <- bytes encode value
      if encoded.length ≠ size then .error .unusable else next encoded) =
        .error (.failed failure) ↔
      value.HasNoBytes ∧ failure = .wrongType ∨
        breaks ∧ ∃ encoded, bytes encode value = .ok encoded ∧ encoded.length = size := by
  rw [bind_eq_error, bytes_eq_failed]
  refine or_congr_right ⟨?_, ?_⟩
  · rintro ⟨encoded, read, failed⟩
    split at failed
    · cases failed
    · next same => exact ⟨(after encoded).mp failed, encoded, read, Decidable.not_not.mp same⟩
  · rintro ⟨broken, encoded, read, same⟩
    refine ⟨encoded, read, ?_⟩
    rw [if_neg (Decidable.not_not.mpr same)]
    exact (after encoded).mpr broken

theorem edwards_eq_failed_of_known {key : Key} {known : String × Nat}
    (isKnown : known ∈ signatureSizes ++ agreementSizes) (named : key.get "crv" = .string known.1) :
    key.edwards = .error (.failed failure) ↔
      (key.get key.edwardsField).HasNoBytes ∧ failure = .wrongType ∨
        (known ∈ agreementSizes ∧ failure = .unsupportedKey) ∧
          ∃ encoded, bytes (fun text => some (Text.utf8 text)) (key.get key.edwardsField) =
            .ok encoded ∧ encoded.length = known.2 := by
  unfold edwards
  rw [named]
  simp only [signatureSizes, agreementSizes, List.cons_append, List.nil_append, List.mem_cons,
    List.not_mem_nil, or_false] at isKnown
  rcases isKnown with rfl | rfl | rfl | rfl
  · exact bytes_ofSize_eq_failed fun encoded => by simp [agreementSizes, Json.string?]
  · exact bytes_ofSize_eq_failed fun encoded => by simp [agreementSizes, Json.string?]
  · exact bytes_ofSize_eq_failed fun encoded => by
      simp [agreementSizes, Json.string?, eq_comm]
  · exact bytes_ofSize_eq_failed fun encoded => by
      simp [agreementSizes, Json.string?, eq_comm]

theorem edwards_of_unknown {key : Key}
    (unknown : ∀ known ∈ signatureSizes ++ agreementSizes, key.get "crv" ≠ .string known.1) :
    key.edwards =
      .error (.failed (if (key.get "crv").isCompound then .wrongType else .unknownName)) := by
  unfold edwards
  extract_lets useSize
  split
  · next named => exact absurd named (unknown ("Ed25519", 32) (by simp [signatureSizes]))
  · next named => exact absurd named (unknown ("Ed448", 57) (by simp [signatureSizes]))
  · next named => exact absurd named (unknown ("X25519", 32) (by simp [agreementSizes]))
  · next named => exact absurd named (unknown ("X448", 56) (by simp [agreementSizes]))
  · next items named => rw [named]; rfl
  · next members named => rw [named]; rfl
  · next notList notObject =>
    rw [Json.isCompound_eq_false notList notObject]
    rfl

theorem edwards_eq_failed {key : Key} :
    key.edwards = .error (.failed failure) ↔ key.EdwardsBreakdown failure := by
  constructor
  · intro failed
    by_cases known : ∃ known ∈ signatureSizes ++ agreementSizes, key.get "crv" = .string known.1
    · obtain ⟨known, isKnown, named⟩ := known
      obtain ⟨noBytes, rfl⟩ | ⟨⟨agreement, rfl⟩, encoded, read, size⟩ :=
        (edwards_eq_failed_of_known isKnown named).mp failed
      · exact .noBytes isKnown named noBytes
      · exact .noSignatures agreement named read size
    · have unknown : ∀ known ∈ signatureSizes ++ agreementSizes, key.get "crv" ≠ .string known.1 :=
        fun one isKnown named => known ⟨one, isKnown, named⟩
      rw [edwards_of_unknown unknown] at failed
      obtain rfl := Fault.failed.inj (Except.error.inj failed)
      cases compound : (key.get "crv").isCompound with
      | true => exact .compoundCurve compound
      | false => exact .unknownCurve compound unknown
  · intro broken
    cases broken with
    | compoundCurve compound =>
      have unknown :
          ∀ known ∈ signatureSizes ++ agreementSizes, key.get "crv" ≠ .string known.1 := by
        intro known isKnown named
        rw [named] at compound
        cases compound
      rw [edwards_of_unknown unknown, compound]
      rfl
    | unknownCurve notCompound unknown =>
      rw [edwards_of_unknown unknown, notCompound]
      rfl
    | noBytes isKnown named noBytes =>
      exact (edwards_eq_failed_of_known isKnown named).mpr (.inl ⟨noBytes, rfl⟩)
    | noSignatures isKnown named read size =>
      exact (edwards_eq_failed_of_known (List.mem_append_right _ isKnown) named).mpr
        (.inr ⟨⟨isKnown, rfl⟩, _, read, size⟩)

theorem EdwardsBreakdown.mem_formFailures {key : Key} (broken : key.EdwardsBreakdown failure) :
    failure ∈ formFailures := by
  cases broken with
  | _ => simp [formFailures]

/-- What a key may be used for is told by a number, which cannot be looked through. -/
def HasNoOperations (key : Key) : Prop := (key.get "key_ops").number?.isSome = true

theorem permits_eq_failed {operations : Json} {operation : String} :
    permits operations operation = .error (.failed failure) ↔
      operations.number?.isSome = true ∧ failure = .wrongType := by
  cases operations with
  | _ => simp [permits, Json.number?, eq_comm]

theorem checkUse_eq_failed {key : Key} :
    key.checkUse = .error (.failed failure) ↔ key.HasNoOperations ∧ failure = .wrongType := by
  unfold checkUse HasNoOperations
  rw [bind_eq_error, permits_eq_failed]
  refine or_iff_left ?_
  rintro ⟨permitted, _, failed⟩
  split at failed
  · cases failed
  · dsimp only at failed
    split at failed
    · cases failed
    · cases failed

theorem shared_eq_failed {key : Key} :
    key.shared = .error (.failed failure) ↔
      (∃ family members, key = .described family members) ∧ (key.get "k").HasNoBytes ∧
        failure = .wrongType := by
  unfold shared
  cases key with
  | secret raw =>
    refine iff_of_false ite_ne_failed ?_
    rintro ⟨⟨family, members, same⟩, _⟩
    cases same
  | described family members =>
    dsimp only
    rw [bind_eq_error, bytes_eq_failed]
    constructor
    · rintro (failed | ⟨raw, _, failed⟩)
      · exact ⟨⟨family, members, rfl⟩, failed⟩
      · exact absurd failed ite_ne_failed
    · exact fun ⟨_, failed⟩ => .inl failed

/-- What breaks down when a signature is checked with a key of the algorithm's own family. What the
key may be used for is looked at first, but on a curve after the point. -/
inductive OwnBreakdown (key : Key) (signature : List UInt8) : Algorithm -> Failure -> Prop
  | operations {algorithm : Algorithm} (notElliptic : ∀ curve, algorithm ≠ .elliptic curve)
      (noOperations : key.HasNoOperations) : OwnBreakdown key signature algorithm .wrongType
  | secret {digest : Crypto.Digest} {family : Family} {members : Members}
      (usable : key.checkUse = .ok ()) (described : key = .described family members)
      (noBytes : (key.get "k").HasNoBytes) : OwnBreakdown key signature (.keyed digest) .wrongType
  | numbers {algorithm : Algorithm} (isRsa : algorithm.family = .rsa)
      (usable : key.checkUse = .ok ()) (stops : key.StopsReading key.fieldsUsed) :
      OwnBreakdown key signature algorithm .wrongType
  | edwards {failure : Failure} (usable : key.checkUse = .ok ())
      (broken : key.EdwardsBreakdown failure) : OwnBreakdown key signature .edwards failure
  | point {curve : Crypto.Curve} (named : (key.get "crv").string? = some curve.name)
      (stops : key.StopsReading key.fieldsOfPoint) :
      OwnBreakdown key signature (.elliptic curve) .wrongType
  | operationsAtPoint {curve : Crypto.Curve} {point : Nat × Nat}
      (named : (key.get "crv").string? = some curve.name) (isPoint : key.point curve = .ok point)
      (size : signature.length = 2 * curve.size) (noOperations : key.HasNoOperations) :
      OwnBreakdown key signature (.elliptic curve) .wrongType

/-- What breaks down when a signature is checked with a key. -/
inductive UseBreakdown (key : Key) (signature : List UInt8) (algorithm : Algorithm) :
    Failure -> Prop
  /-- Keys of another family are not known under the algorithm. -/
  | otherFamily (other : key.family ≠ algorithm.family) :
      UseBreakdown key signature algorithm .unknownName
  | ownFamily {failure : Failure} (own : key.family = algorithm.family)
      (broken : key.OwnBreakdown signature algorithm failure) :
      UseBreakdown key signature algorithm failure

theorem OwnBreakdown.mem_formFailures {key : Key} {signature : List UInt8}
    {algorithm : Algorithm} (broken : key.OwnBreakdown signature algorithm failure) :
    failure ∈ formFailures := by
  cases broken with
  | edwards usable broken => exact broken.mem_formFailures
  | _ => simp [formFailures]

theorem UseBreakdown.mem_formFailures {key : Key} {signature : List UInt8}
    {algorithm : Algorithm} (broken : key.UseBreakdown signature algorithm failure) :
    failure ∈ formFailures := by
  cases broken with
  | otherFamily other => simp [formFailures]
  | ownFamily own broken => exact broken.mem_formFailures

/-- Where a key is looked at for what it may be used for, and then read. -/
theorem checkUse_bind_eq_failed {α β : Type} {key : Key} {read : Except Fault α}
    {result : α -> β} :
    (do
      key.checkUse
      return result (<- read)) = .error (.failed failure) ↔
      key.HasNoOperations ∧ failure = .wrongType ∨
        key.checkUse = .ok () ∧ read = .error (.failed failure) := by
  rw [bind_eq_error, checkUse_eq_failed]
  refine or_congr_right ⟨?_, ?_⟩
  · rintro ⟨_, usable, failed⟩
    obtain failed | ⟨value, _, failed⟩ := bind_eq_error.mp failed
    · exact ⟨usable, failed⟩
    · cases failed
  · rintro ⟨usable, failed⟩
    exact ⟨(), usable, bind_eq_error.mpr (.inl failed)⟩

end Key

theorem Algorithm.verify_eq_failed_of_own {algorithm : Algorithm} {key : Key}
    {message signature : List UInt8} (own : key.family = algorithm.family) :
    algorithm.verify key message signature = .error (.failed failure) ↔
      key.OwnBreakdown signature algorithm failure := by
  unfold verify
  simp only [own, ne_eq, not_true_eq_false, if_false]
  cases algorithm with
  | keyed digest =>
    rw [Key.checkUse_bind_eq_failed, Key.shared_eq_failed]
    constructor
    · rintro (⟨noOperations, rfl⟩ | ⟨usable, ⟨family, members, described⟩, noBytes, rfl⟩)
      · exact .operations (by simp) noOperations
      · exact .secret usable described noBytes
    · intro broken
      cases broken with
      | operations notElliptic noOperations => exact .inl ⟨noOperations, rfl⟩
      | secret usable described noBytes => exact .inr ⟨usable, ⟨_, _, described⟩, noBytes, rfl⟩
      | numbers isRsa usable stops => cases isRsa
  | rsa digest =>
    rw [Key.checkUse_bind_eq_failed, Key.rsa_eq_failed]
    constructor
    · rintro (⟨noOperations, rfl⟩ | ⟨usable, stops, rfl⟩)
      · exact .operations (by simp) noOperations
      · exact .numbers rfl usable stops
    · intro broken
      cases broken with
      | operations notElliptic noOperations => exact .inl ⟨noOperations, rfl⟩
      | numbers isRsa usable stops => exact .inr ⟨usable, stops, rfl⟩
  | rsaSalted =>
    rw [Key.checkUse_bind_eq_failed, Key.rsa_eq_failed]
    constructor
    · rintro (⟨noOperations, rfl⟩ | ⟨usable, stops, rfl⟩)
      · exact .operations (by simp) noOperations
      · exact .numbers rfl usable stops
    · intro broken
      cases broken with
      | operations notElliptic noOperations => exact .inl ⟨noOperations, rfl⟩
      | numbers isRsa usable stops => exact .inr ⟨usable, stops, rfl⟩
  | edwards =>
    rw [Key.checkUse_bind_eq_failed, Key.edwards_eq_failed]
    constructor
    · rintro (⟨noOperations, rfl⟩ | ⟨usable, broken⟩)
      · exact .operations (by simp) noOperations
      · exact .edwards usable broken
    · intro broken
      cases broken with
      | operations notElliptic noOperations => exact .inl ⟨noOperations, rfl⟩
      | numbers isRsa usable stops => cases isRsa
      | edwards usable broken => exact .inr ⟨usable, broken⟩
  | elliptic curve =>
    dsimp only
    constructor
    · intro failed
      split at failed
      · cases failed
      · next named =>
        have named : (key.get "crv").string? = some curve.name := by simpa using named
        obtain failed | ⟨point, isPoint, failed⟩ := bind_eq_error.mp failed
        · obtain ⟨stops, rfl⟩ := Key.point_eq_failed.mp failed
          exact .point named stops
        · split at failed
          · cases failed
          · next size =>
            obtain failed | ⟨_, _, failed⟩ := bind_eq_error.mp failed
            · obtain ⟨noOperations, rfl⟩ := Key.checkUse_eq_failed.mp failed
              exact .operationsAtPoint named isPoint (by simpa using size) noOperations
            · cases failed
    · intro broken
      cases broken with
      | operations notElliptic noOperations => exact absurd rfl (notElliptic curve)
      | numbers isRsa usable stops => cases isRsa
      | point named stops =>
        rw [if_neg (by simp [named])]
        exact bind_eq_error.mpr (.inl (Key.point_eq_failed.mpr ⟨stops, rfl⟩))
      | operationsAtPoint named isPoint size noOperations =>
        rw [if_neg (by simp [named])]
        refine bind_eq_error.mpr (.inr ⟨_, isPoint, ?_⟩)
        rw [if_neg (by simp [size])]
        exact bind_eq_error.mpr (.inl (Key.checkUse_eq_failed.mpr ⟨noOperations, rfl⟩))

/-- What brings the check of a signature to fail. -/
theorem Algorithm.verify_eq_failed {algorithm : Algorithm} {key : Key}
    {message signature : List UInt8} :
    algorithm.verify key message signature = .error (.failed failure) ↔
      key.UseBreakdown signature algorithm failure := by
  by_cases own : key.family = algorithm.family
  · rw [verify_eq_failed_of_own own]
    constructor
    · exact .ownFamily own
    · intro broken
      cases broken with
      | otherFamily other => exact absurd own other
      | ownFamily own broken => exact broken
  · simp only [verify, own, ne_eq, not_false_eq_true, if_true, throw_eq_error, error_bind,
      Except.error.injEq, Fault.failed.injEq]
    constructor
    · rintro rfl
      exact .otherFamily own
    · intro broken
      cases broken with
      | otherFamily other => rfl
      | ownFamily same broken => exact absurd same own

end Introspection.Assertion
