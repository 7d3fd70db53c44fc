import Introspection.Proofs.Assertion.KeyBreakdown
import Introspection.Proofs.Assertion.Reading

/-!
# Assertions whose check breaks down

The check of an assertion finds it right or finds fault with it, or it fails. By `check_eq_failed`,
it fails in the ways of `CheckBreakdown` alone. Some of them need nothing but an assertion: in its
header or its claims, lists and objects stand in one another too deeply, or in its header, a list or
an object stands in the place of the algorithm's name. The others come with the key, and with a
leeway that is no number.
-/

namespace Introspection.Assertion

variable {failure : Failure}

/-- A list or an object cannot even be looked up among the names of algorithms. -/
theorem Algorithm.choose_eq_failed {accepted : List Algorithm} {named : Option Json} :
    choose accepted named = .error (.failed failure) ↔
      (∃ value, named = some value ∧ value.isCompound = true) ∧ failure = .wrongType := by
  cases named with
  | none => simp [choose]
  | some value =>
    cases value with
    | string text =>
      simp only [choose]
      split
      · simp [Json.isCompound]
      · simp [Json.isCompound]
    | _ => simp [choose, Json.isCompound, @eq_comm Failure failure]

section Times

theorem later_eq_failed {now : Int} {leeway : Json} :
    later now leeway = .error (.failed failure) ↔
      leeway.number? = none ∧ failure = .wrongType := by
  cases leeway with
  | _ => simp [later, Json.number?, eq_comm]

theorem earlier_eq_failed {now : Int} {leeway : Json} :
    earlier now leeway = .error (.failed failure) ↔
      leeway.number? = none ∧ failure = .wrongType := by
  cases leeway with
  | _ => simp [earlier, Json.number?, eq_comm]

/-- Claims have a time, right or wrong, under a name. -/
def HasTime (claims : Members) (name : String) : Prop :=
  (∃ value, Json.member? name claims = some (.int value)) ∨
    ∃ value, Json.member? name claims = some (.double value)

theorem checkTime_eq_failed {claims : Members} {name : String} {refused : Ordering}
    {bound : Except Fault Json.Number} :
    checkTime claims name refused bound = .error (.failed failure) ↔
      HasTime claims name ∧ bound = .error (.failed failure) := by
  have compared (value : Json.Number) : (do
      if value.compare? (<- bound) == some refused then throw .unusable : Except Fault Unit) =
        .error (.failed failure) ↔ bound = .error (.failed failure) := by
    rw [bind_eq_error]
    refine or_iff_left ?_
    rintro ⟨_, _, failed⟩
    split at failed
    · cases failed
    · cases failed
  cases held : Json.member? name claims with
  | none => simp [checkTime, HasTime, held]
  | some value =>
    cases value with
    | int value => simp only [checkTime, HasTime, held, compared]; simp
    | double value => simp only [checkTime, HasTime, held, compared]; simp
    | _ => simp [checkTime, HasTime, held]

/-- Where there is no bound, only a time that is absent passes. -/
theorem checkTime_unbound_eq_ok {claims : Members} {name : String} {refused : Ordering}
    {value : Unit} :
    checkTime claims name refused (.error (.failed failure)) = .ok value ↔
      Json.member? name claims = none := by
  cases held : Json.member? name claims with
  | none => simp [checkTime, held]
  | some value =>
    cases value with
    | _ => simp [checkTime, held]

/-- The names of the claims that are times, in the order in which they are checked. -/
def timeNames : List String := ["exp", "nbf", "iat"]

/-- With a leeway that is no number, the check of times fails at the first time there is. -/
theorem checkTimes_eq_failed {now : Int} {leeway : Json} {claims : Members} :
    checkTimes now leeway claims = .error (.failed failure) ↔
      Reaches (fun name => Json.member? name claims = none) (HasTime claims) timeNames ∧
        leeway.number? = none ∧ failure = .wrongType := by
  unfold checkTimes
  by_cases noNumber : leeway.number? = none
  · have noEarlier : earlier now leeway = .error (.failed .wrongType) :=
      earlier_eq_failed.mpr ⟨noNumber, rfl⟩
    have noLater : later now leeway = .error (.failed .wrongType) :=
      later_eq_failed.mpr ⟨noNumber, rfl⟩
    rw [noEarlier, noLater, ← reaches_and]
    simp [bind_eq_error, checkTime_eq_failed, checkTime_unbound_eq_ok, timeNames, Reaches, noNumber,
      @eq_comm Failure failure]
  · simp [bind_eq_error, checkTime_eq_failed, earlier_eq_failed, later_eq_failed, noNumber]

end Times

section Parts

variable {depth : Nat} {assertion : String} {bytes : List UInt8}

/-- The bytes of a part are base64 of a text in which lists and objects stand in one another too
deeply. -/
def IsTooDeep (depth : Nat) (part : List UInt8) : Prop :=
  ∃ bytes text, Base64.decodeAddress? part = some bytes ∧ Text.Utf8.decode? bytes = some text ∧
    Json.read depth text.toList = .error .tooDeep

/-- The part of an assertion in some place is one of these. -/
def PartTooDeep (depth : Nat) (assertion : String) (place : Nat) : Prop :=
  ∃ part, (assertion.toList.splitOn '.')[place]? = some part ∧
    IsTooDeep depth (Text.utf8 (.ofList part))

@[simp] theorem orUnusable_ne_failed {α : Type} {found : Option α} :
    orUnusable found ≠ .error (.failed failure) := by
  cases found with
  | none => simp [orUnusable]
  | some value => simp [orUnusable]

theorem orUnusable_eq_ok {α : Type} {found : Option α} {value : α} :
    orUnusable found = .ok value ↔ found = some value := by
  cases found with
  | none => simp [orUnusable]
  | some other => simp [orUnusable]

/-- What could be had is gone on with, and of the rest only its failures count. -/
theorem orUnusable_bind_eq_failed {α β : Type} {found : Option α} {next : α -> Except Fault β} :
    orUnusable found >>= next = .error (.failed failure) ↔
      ∃ value, found = some value ∧ next value = .error (.failed failure) := by
  simp only [bind_eq_error, orUnusable_ne_failed, false_or, orUnusable_eq_ok]

theorem readPart_eq_failed {part : List UInt8} :
    readPart depth part = .error (.failed failure) ↔
      IsTooDeep depth part ∧ failure = .tooDeep := by
  unfold readPart IsTooDeep
  simp only [orUnusable_bind_eq_failed, ← exists_and_right, and_assoc]
  refine exists_congr fun bytes => ?_
  rw [exists_and_left]
  refine and_congr_right fun _ => exists_congr fun text => and_congr_right fun _ => ?_
  cases read : Json.read depth text.toList with
  | ok value =>
    cases value with
    | _ => simp [Except.mapError]
  | error flaw =>
    cases flaw with
    | malformed => simp [Except.mapError, faultOf]
    | tooDeep => simp [Except.mapError, faultOf, @eq_comm Failure failure]

theorem unverifiedPart_eq_failed {place : Nat} :
    unverifiedPart depth assertion place = .error (.failed failure) ↔
      PartTooDeep depth assertion place ∧ failure = .tooDeep := by
  unfold unverifiedPart PartTooDeep
  simp only [orUnusable_bind_eq_failed, readPart_eq_failed, ← and_assoc, exists_and_right]

/-- What brings an assertion of three parts to fail while it is taken apart. -/
inductive TooDeepWithin (depth : Nat) (assertion : String) : Prop
  | header (deep : PartTooDeep depth assertion 0) : TooDeepWithin depth assertion
  /-- The claims are read once nothing unknown is listed as critical in the header. -/
  | claims {header : Members} (read : unverifiedHeader depth assertion = .ok header)
      (known : criticalHeadersHold header = true) (deep : PartTooDeep depth assertion 1) :
      TooDeepWithin depth assertion

theorem parse_eq_failed (dots : (Text.utf8 assertion).count dot = 2) :
    parse depth (Text.utf8 assertion) = .error (.failed failure) ↔
      ((Text.utf8 assertion).length ≤ sizeLimit ∧ TooDeepWithin depth assertion) ∧
        failure = .tooDeep := by
  obtain ⟨signed, signature, isParse⟩ := exists_parse_eq dots depth
  rw [isParse]
  by_cases long : sizeLimit < (Text.utf8 assertion).length
  · rw [if_pos long]
    exact iff_of_false (by simp) fun within => absurd long (Nat.not_lt.mpr within.1.1)
  rw [if_neg long]
  constructor
  · intro failed
    obtain failed | ⟨header, isHeader, failed⟩ := bind_eq_error.mp failed
    · obtain ⟨deep, rfl⟩ := unverifiedPart_eq_failed.mp failed
      exact ⟨⟨Nat.not_lt.mp long, .header deep⟩, rfl⟩
    split at failed
    · cases failed
    next known =>
    obtain failed | ⟨claims, _, failed⟩ := bind_eq_error.mp failed
    · obtain ⟨deep, rfl⟩ := unverifiedPart_eq_failed.mp failed
      exact ⟨⟨Nat.not_lt.mp long, .claims isHeader (by simpa using known) deep⟩, rfl⟩
    · obtain ⟨_, _, failed⟩ := orUnusable_bind_eq_failed.mp failed
      cases failed
  · rintro ⟨⟨_, within⟩, rfl⟩
    cases within with
    | header deep => exact bind_eq_error.mpr (.inl (unverifiedPart_eq_failed.mpr ⟨deep, rfl⟩))
    | claims read known deep =>
      rw [read, ok_bind, known]
      exact bind_eq_error.mpr (.inl (unverifiedPart_eq_failed.mpr ⟨deep, rfl⟩))

/-- What brings an encrypted assertion to fail. -/
inductive EncryptedBreakdown (depth : Nat) (bytes : List UInt8) : Failure -> Prop
  | tooDeep {header : List UInt8} {parts : List (List UInt8)} (short : bytes.length ≤ sizeLimit)
      (split : bytes.splitOn dot = header :: parts) (deep : IsTooDeep depth header) :
      EncryptedBreakdown depth bytes .tooDeep
  /-- In the header, a list or an object stands in the place of the algorithm's name. -/
  | compound {header : List UInt8} {parts : List (List UInt8)} {members : Members} {value : Json}
      (short : bytes.length ≤ sizeLimit) (split : bytes.splitOn dot = header :: parts)
      (read : readPart depth header = .ok members)
      (encoded : (parts.all fun part => (Base64.decodeAddress? part).isSome) = true)
      (named : Json.member? "alg" members = some value) (compound : value.isCompound = true) :
      EncryptedBreakdown depth bytes .wrongType

theorem faultOfEncrypted_eq_failed :
    faultOfEncrypted depth bytes = .failed failure ↔ EncryptedBreakdown depth bytes failure := by
  constructor
  · intro failed
    unfold faultOfEncrypted at failed
    split at failed
    · next header parts split =>
      split at failed
      · cases failed
      next notLong =>
      have short := Nat.not_lt.mp notLong
      split at failed
      · next fault unread =>
        subst failed
        obtain ⟨deep, rfl⟩ := readPart_eq_failed.mp unread
        exact .tooDeep short split deep
      · next members read =>
        split at failed
        · next encoded =>
          split at failed
          · next items named =>
            obtain rfl := Fault.failed.inj failed
            exact .compound short split read encoded named rfl
          · next fields named =>
            obtain rfl := Fault.failed.inj failed
            exact .compound short split read encoded named rfl
          · cases failed
        · cases failed
    · cases failed
  · intro broken
    cases broken with
    | tooDeep short split deep =>
      simp only [faultOfEncrypted, split, if_neg (Nat.not_lt.mpr short),
        readPart_eq_failed.mpr ⟨deep, rfl⟩]
    | @compound header parts members value short split read encoded named compound =>
      simp only [faultOfEncrypted, split, if_neg (Nat.not_lt.mpr short), read, encoded, if_true,
        named]
      cases value with
      | list items => rfl
      | object fields => rfl
      | _ => cases compound

end Parts

/-- What brings the check of an assertion that was taken apart to fail. Which keys are tried is
left open, and with it what brings the choice among them to fail. -/
inductive ParsedBreakdown (accepted : List Algorithm) (keyFor : Members -> Except Fault Key)
    (noKey : Members -> Failure -> Prop) (leeway : Json) (parsed : Parsed) : Failure -> Prop
  /-- In the place of the algorithm's name is a list or an object. -/
  | algorithm {value : Json} (named : Json.member? "alg" parsed.header = some value)
      (compound : value.isCompound = true) :
      ParsedBreakdown accepted keyFor noKey leeway parsed .wrongType
  | selection {algorithm : Algorithm} {failure : Failure}
      (chosen : Algorithm.choose accepted (Json.member? "alg" parsed.header) = .ok algorithm)
      (unselected : noKey parsed.header failure) :
      ParsedBreakdown accepted keyFor noKey leeway parsed failure
  | use {algorithm : Algorithm} {key : Key} {failure : Failure}
      (chosen : Algorithm.choose accepted (Json.member? "alg" parsed.header) = .ok algorithm)
      (isKey : keyFor parsed.header = .ok key)
      (broken : key.UseBreakdown parsed.signature algorithm failure) :
      ParsedBreakdown accepted keyFor noKey leeway parsed failure
  /-- The signature is right, but the leeway is no number, and there is a time. -/
  | leeway {algorithm : Algorithm} {key : Key}
      (chosen : Algorithm.choose accepted (Json.member? "alg" parsed.header) = .ok algorithm)
      (isKey : keyFor parsed.header = .ok key)
      (verified : algorithm.verify key parsed.signed parsed.signature = .ok true)
      (timed : Reaches (fun name => Json.member? name parsed.claims = none)
        (HasTime parsed.claims) timeNames)
      (noNumber : leeway.number? = none) :
      ParsedBreakdown accepted keyFor noKey leeway parsed .wrongType

/-- What brings the check of an assertion to fail. -/
inductive CheckBreakdown (accepted : List Algorithm) (keyFor : Members -> Except Fault Key)
    (noKey : Members -> Failure -> Prop) (depth : Nat) (leeway : Json) (assertion : String) :
    Failure -> Prop
  | encrypted {failure : Failure} (dots : (Text.utf8 assertion).count dot = 4)
      (broken : EncryptedBreakdown depth (Text.utf8 assertion) failure) :
      CheckBreakdown accepted keyFor noKey depth leeway assertion failure
  | tooDeep (dots : (Text.utf8 assertion).count dot = 2)
      (short : (Text.utf8 assertion).length ≤ sizeLimit) (within : TooDeepWithin depth assertion) :
      CheckBreakdown accepted keyFor noKey depth leeway assertion .tooDeep
  | parsed {parsed : Parsed} {failure : Failure} (dots : (Text.utf8 assertion).count dot = 2)
      (read : parse depth (Text.utf8 assertion) = .ok parsed)
      (broken : ParsedBreakdown accepted keyFor noKey leeway parsed failure) :
      CheckBreakdown accepted keyFor noKey depth leeway assertion failure

theorem CheckBreakdown.mem_formFailures {accepted : List Algorithm}
    {keyFor : Members -> Except Fault Key} {noKey : Members -> Failure -> Prop} {depth : Nat}
    {leeway : Json} {assertion : String}
    (known : ∀ header failure, noKey header failure -> failure ∈ formFailures)
    (broken : CheckBreakdown accepted keyFor noKey depth leeway assertion failure) :
    failure ∈ formFailures := by
  cases broken with
  | encrypted dots broken =>
    cases broken with
    | _ => simp [formFailures]
  | tooDeep dots short within => simp [formFailures]
  | parsed dots read broken =>
    cases broken with
    | algorithm named compound => simp [formFailures]
    | selection chosen unselected => exact known _ _ unselected
    | use chosen isKey broken => exact broken.mem_formFailures
    | leeway chosen isKey verified timed noNumber => simp [formFailures]

section Check

variable {accepted : List Algorithm} {keyFor : Members -> Except Fault Key}
  {noKey : Members -> Failure -> Prop} {depth : Nat} {now : Int} {leeway : Json}

theorem checkParsed_eq_failed {parsed : Parsed}
    (unselected : ∀ header failure,
      keyFor header = .error (.failed failure) ↔ noKey header failure) :
    (do
      let algorithm <- Algorithm.choose accepted (Json.member? "alg" parsed.header)
      let key <- keyFor parsed.header
      if !(<- algorithm.verify key parsed.signed parsed.signature) then throw Fault.unusable
      checkTimes now leeway parsed.claims
      return parsed) = .error (.failed failure) ↔
      ParsedBreakdown accepted keyFor noKey leeway parsed failure := by
  constructor
  · intro failed
    obtain failed | ⟨algorithm, chosen, failed⟩ := bind_eq_error.mp failed
    · obtain ⟨⟨value, named, compound⟩, rfl⟩ := Algorithm.choose_eq_failed.mp failed
      exact .algorithm named compound
    obtain failed | ⟨key, isKey, failed⟩ := bind_eq_error.mp failed
    · exact .selection chosen ((unselected _ _).mp failed)
    obtain failed | ⟨right, verified, failed⟩ := bind_eq_error.mp failed
    · exact .use chosen isKey (Algorithm.verify_eq_failed.mp failed)
    cases right with
    | false => cases failed
    | true =>
      obtain failed | ⟨_, _, failed⟩ := bind_eq_error.mp failed
      · obtain ⟨timed, noNumber, rfl⟩ := checkTimes_eq_failed.mp failed
        exact .leeway chosen isKey verified timed noNumber
      · cases failed
  · intro broken
    cases broken with
    | algorithm named compound =>
      exact bind_eq_error.mpr (.inl (Algorithm.choose_eq_failed.mpr ⟨⟨_, named, compound⟩, rfl⟩))
    | selection chosen missing =>
      rw [chosen, ok_bind, (unselected _ _).mpr missing, error_bind]
    | use chosen isKey broken =>
      rw [chosen, ok_bind, isKey, ok_bind, Algorithm.verify_eq_failed.mpr broken, error_bind]
    | leeway chosen isKey verified timed noNumber =>
      rw [chosen, ok_bind, isKey, ok_bind, verified, ok_bind]
      exact bind_eq_error.mpr (.inl (checkTimes_eq_failed.mpr ⟨timed, noNumber, rfl⟩))

/-- What brings the check of an assertion to fail. -/
theorem check_eq_failed {assertion : String}
    (unselected : ∀ header failure,
      keyFor header = .error (.failed failure) ↔ noKey header failure) :
    check accepted keyFor depth now leeway assertion = .error (.failed failure) ↔
      CheckBreakdown accepted keyFor noKey depth leeway assertion failure := by
  constructor
  · intro failed
    simp only [check] at failed
    split at failed
    · next dots =>
      obtain failed | ⟨parsed, read, failed⟩ := bind_eq_error.mp failed
      · obtain ⟨⟨short, within⟩, rfl⟩ := (parse_eq_failed dots).mp failed
        exact .tooDeep dots short within
      · exact .parsed dots read ((checkParsed_eq_failed unselected).mp failed)
    · next dots => exact .encrypted dots (faultOfEncrypted_eq_failed.mp (Except.error.inj failed))
    · cases failed
  · intro broken
    cases broken with
    | encrypted dots broken =>
      simp only [check, dots]
      exact congrArg Except.error (faultOfEncrypted_eq_failed.mpr broken)
    | tooDeep dots short within =>
      simp only [check, dots]
      exact bind_eq_error.mpr (.inl ((parse_eq_failed dots).mpr ⟨⟨short, within⟩, rfl⟩))
    | parsed dots read broken =>
      simp only [check, dots, read]
      exact (checkParsed_eq_failed unselected).mpr broken

end Check

end Introspection.Assertion
