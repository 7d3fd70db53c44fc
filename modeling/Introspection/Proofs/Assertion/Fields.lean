import Introspection.Proofs.Assertion.Acceptance

/-!
# Fields of keys that cannot be read

What a key tells in a field is read as bytes, and in most fields as the number that the bytes stand
for. A field that does not do makes the key unusable, which is a defect of the assertion. Of some
values, though, no bytes can be made at all (`Json.HasNoBytes`), and whoever reads such a field
fails for a value of the wrong type. Fields are read in a fixed order, and reading stops at the
first one that does not do: `Key.StopsReading` is that one of them which has no bytes is reached.
From this follows when the public numbers of an RSA key (`Key.rsa_eq_failed`) and the point of a
key on a curve (`Key.point_eq_failed`) cannot be read.
-/

namespace Introspection

/-- The failures of values that are not of the form that is relied on. -/
def formFailures : List Failure :=
  [.wrongType, .unknownName, .unsupportedKey, .invalidAddress, .tooDeep]

/-- Items are gone through in order while they pass, and one is reached at which this stops. -/
def Reaches {α : Type} (passes stops : α -> Prop) : List α -> Prop
  | [] => False
  | item :: rest => stops item ∨ passes item ∧ Reaches passes stops rest

/-- What holds apart from the items does not matter to which of them is reached. -/
theorem reaches_and {α : Type} {passes stops : α -> Prop} {apart : Prop} {items : List α} :
    Reaches passes (fun item => stops item ∧ apart) items ↔ Reaches passes stops items ∧ apart := by
  induction items with
  | nil => simp [Reaches]
  | cons item rest ih =>
    simp only [Reaches, ih]
    constructor
    · rintro (⟨stop, holds⟩ | ⟨pass, reached, holds⟩)
      · exact ⟨.inl stop, holds⟩
      · exact ⟨.inr ⟨pass, reached⟩, holds⟩
    · rintro ⟨stop | ⟨pass, reached⟩, holds⟩
      · exact .inl ⟨stop, holds⟩
      · exact .inr ⟨pass, reached, holds⟩

theorem exists_of_reaches {α : Type} {passes stops : α -> Prop} {items : List α}
    (reached : Reaches passes stops items) : ∃ item ∈ items, stops item := by
  induction items with
  | nil => exact reached.elim
  | cons item rest ih =>
    rcases reached with stop | ⟨_, later⟩
    · exact ⟨item, List.mem_cons_self, stop⟩
    · obtain ⟨other, member, stop⟩ := ih later
      exact ⟨other, List.mem_cons_of_mem _ member, stop⟩

/-- To make something of every item of a list fails at an item that is reached while something is
made of those before it. -/
theorem mapM_eq_error {ε α β : Type} {make : α -> Except ε β} {items : List α} {error : ε} :
    items.mapM make = .error error ↔
      Reaches (fun item => ∃ value, make item = .ok value) (fun item => make item = .error error)
        items := by
  induction items with
  | nil => simp [Reaches]
  | cons item rest ih =>
    rw [List.mapM_cons, bind_eq_error, Reaches]
    refine or_congr_right ⟨?_, ?_⟩
    · rintro ⟨value, made, failed⟩
      obtain failed | ⟨_, _, failed⟩ := bind_eq_error.mp failed
      · exact ⟨⟨value, made⟩, ih.mp failed⟩
      · cases failed
    · rintro ⟨⟨value, made⟩, reached⟩
      exact ⟨value, made, bind_eq_error.mpr (.inl (ih.mpr reached))⟩

namespace Json

/-- A value that is a list or an object. -/
def isCompound : Json -> Bool
  | .list _ => true
  | .object _ => true
  | _ => false

theorem isCompound_eq_false {value : Json} (notList : ∀ items, value ≠ .list items)
    (notObject : ∀ members, value ≠ .object members) : value.isCompound = false := by
  cases value with
  | list items => exact absurd rfl (notList items)
  | object members => exact absurd rfl (notObject members)
  | _ => rfl

/-- A value that is a whole number, where truth values count as such. -/
def isWhole : Json -> Bool
  | .int _ => true
  | .bool _ => true
  | _ => false

/-- A value that no bytes can be made of: `null`, an object with members, and a list in which
something other than a whole number comes after nothing but bytes. -/
def HasNoBytes : Json -> Prop
  | .null => True
  | .object members => members ≠ []
  | .list items =>
    Reaches (fun item => ∃ byte, Assertion.Key.byte item = .ok byte) (fun item => !item.isWhole)
      items
  | _ => False

end Json

namespace Assertion

variable {failure : Failure}

/-- What a test alone decides does not break down. -/
theorem ite_ne_failed {α : Type} {test : Prop} [Decidable test] {value : α} :
    (if test then .ok value else .error .unusable : Except Fault α) ≠ .error (.failed failure) := by
  split
  · simp
  · simp

namespace Key

theorem byte_eq_failed {value : Json} :
    byte value = .error (.failed failure) ↔ !value.isWhole ∧ failure = .wrongType := by
  cases value with
  | int number =>
    simp only [byte, Json.isWhole]
    split
    · simp
    · simp
  | _ => simp [byte, Json.isWhole, eq_comm]

theorem rawBytes_eq_failed {encode : String -> Option (List UInt8)} {value : Json} :
    rawBytes encode value = .error (.failed failure) ↔
      value.HasNoBytes ∧ failure = .wrongType := by
  -- A number and a truth value are read as the text for them.
  have encoded (text : String) : rawBytes encode (.string text) ≠ .error (.failed failure) := by
    simp only [rawBytes]
    split
    · simp
    · simp
  cases value with
  | null => simp [rawBytes, Json.HasNoBytes, eq_comm]
  | bool value => exact iff_of_false (encoded _) And.left
  | int number => exact iff_of_false (encoded _) And.left
  | double number => exact iff_of_false (encoded _) And.left
  | string text => exact iff_of_false (encoded _) And.left
  | list items => simp only [rawBytes, mapM_eq_error, byte_eq_failed, reaches_and, Json.HasNoBytes]
  | object members =>
    simp only [rawBytes, Json.HasNoBytes]
    split
    · next empty => simp [List.isEmpty_iff.mp empty]
    · next nonempty =>
      have nonempty : members ≠ [] := by simpa using nonempty
      simp [nonempty, eq_comm]

theorem bytes_eq_failed {encode : String -> Option (List UInt8)} {value : Json} :
    bytes encode value = .error (.failed failure) ↔
      value.HasNoBytes ∧ failure = .wrongType := by
  rw [bytes, bind_eq_error, rawBytes_eq_failed]
  refine or_iff_left ?_
  rintro ⟨raw, _, failed⟩
  split at failed
  · cases failed
  · cases failed

theorem number_eq_failed {key : Key} {name : String} :
    key.number name = .error (.failed failure) ↔
      (key.get name).HasNoBytes ∧ failure = .wrongType := by
  rw [number, bind_eq_error, bytes_eq_failed]
  refine or_iff_left ?_
  rintro ⟨read, _, failed⟩
  split at failed
  · cases failed
  · cases failed

/-- Of fields that are read in this order as numbers, one is reached that has no bytes. -/
def StopsReading (key : Key) : List String -> Prop :=
  Reaches (fun name => ∃ number, key.number name = .ok number)
    (fun name => (key.get name).HasNoBytes)

@[simp] theorem not_stopsReading_nil (key : Key) : ¬ key.StopsReading [] := id

/-- The fields that are read as numbers when an RSA key is taken in. -/
def fieldsTaken (key : Key) : List String :=
  if key.has "d" && !(partFields.any key.has || key.has "oth") then ["e", "n", "d"] else []

/-- The fields that are read as numbers when an RSA key is used. -/
def fieldsUsed (key : Key) : List String :=
  if key.has "d" && partFields.all key.has then
    if key.has "oth" then [] else ["e", "n", "d"] ++ partFields
  else ["e", "n"]

/-- The fields that are read as numbers when a key on a curve is used. -/
def fieldsOfPoint (key : Key) : List String := if key.has "d" then ["x", "y", "d"] else ["x", "y"]

/-- What reads a field first stops at it, or goes on with the number that was read. -/
theorem number_bind_eq_failed {α : Type} {key : Key} {name : String} {rest : List String}
    {next : Nat -> Except Fault α}
    (after : ∀ number, next number = .error (.failed failure) ↔
      key.StopsReading rest ∧ failure = .wrongType) :
    key.number name >>= next = .error (.failed failure) ↔
      key.StopsReading (name :: rest) ∧ failure = .wrongType := by
  simp only [bind_eq_error, number_eq_failed, after, StopsReading, Reaches]
  constructor
  · rintro (⟨noBytes, same⟩ | ⟨number, read, stops, same⟩)
    · exact ⟨.inl noBytes, same⟩
    · exact ⟨.inr ⟨⟨number, read⟩, stops⟩, same⟩
  · rintro ⟨noBytes | ⟨⟨number, read⟩, stops⟩, same⟩
    · exact .inl ⟨noBytes, same⟩
    · exact .inr ⟨number, read, stops, same⟩

theorem privateRsa_eq_failed {key : Key} :
    key.privateRsa = .error (.failed failure) ↔
      key.StopsReading (if key.has "oth" then [] else ["e", "n", "d"] ++ partFields) ∧
        failure = .wrongType := by
  by_cases others : key.has "oth" = true
  · simp [privateRsa, others]
  · simp only [privateRsa, others, publicRsa, bind_assoc, pure_bind]
    -- One step for each of the fields.
    iterate 8 refine number_bind_eq_failed fun _ => ?_
    exact iff_of_false ite_ne_failed And.left

theorem takeRsa_eq_failed {key : Key} :
    key.takeRsa = .error (.failed failure) ↔
      key.StopsReading key.fieldsTaken ∧ failure = .wrongType := by
  unfold takeRsa fieldsTaken
  cases isPrivate : key.has "d" with
  | false => simp
  | true =>
    cases told : partFields.any key.has || key.has "oth" with
    | true =>
      by_cases all : partFields.all key.has = true
      · simp [all]
      · simp [all]
    | false =>
      have notAll : partFields.all key.has = false := by
        have noFirst : key.has "p" = false := by
          simp only [partFields, List.any_cons, Bool.or_eq_false_iff] at told
          exact told.1.1
        simp [partFields, noFirst]
      simp only [Bool.not_true, Bool.not_false, notAll, Bool.or_false, Bool.and_true,
        Bool.false_eq_true, if_false, if_true, publicRsa, bind_assoc, pure_bind]
      refine number_bind_eq_failed fun exponent => number_bind_eq_failed fun modulus =>
        number_bind_eq_failed fun secret => ?_
      exact iff_of_false ite_ne_failed And.left

theorem rsa_eq_failed {key : Key} :
    key.rsa = .error (.failed failure) ↔
      key.StopsReading key.fieldsUsed ∧ failure = .wrongType := by
  unfold rsa fieldsUsed
  split
  · exact privateRsa_eq_failed
  · simp only [publicRsa, bind_assoc, pure_bind]
    refine number_bind_eq_failed fun exponent => number_bind_eq_failed fun modulus => ?_
    exact iff_of_false ite_ne_failed And.left

theorem point_eq_failed {key : Key} {curve : Crypto.Curve} :
    key.point curve = .error (.failed failure) ↔
      key.StopsReading key.fieldsOfPoint ∧ failure = .wrongType := by
  unfold point fieldsOfPoint
  -- Once the fields have been read, there is a point or the key cannot be used.
  cases isPrivate : key.has "d" with
  | true =>
    simp only [if_true, bind_assoc, ← bind_pure_comp, pure_bind]
    refine number_bind_eq_failed fun x => number_bind_eq_failed fun y =>
      number_bind_eq_failed fun secret => iff_of_false (fun failed => ?_) And.left
    split at failed
    · cases failed
    · exact ite_ne_failed failed
  | false =>
    simp only [Bool.false_eq_true, if_false, pure_bind]
    refine number_bind_eq_failed fun x => number_bind_eq_failed fun y =>
      iff_of_false (fun failed => ?_) And.left
    split at failed
    · cases failed
    · exact ite_ne_failed failed

end Key

end Assertion

end Introspection
