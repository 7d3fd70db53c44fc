import Introspection.Assertion.SharedKey
import Introspection.Proofs.Assertion.KeyBreakdown

/-!
# Key sets that break down

The keys of a set are all taken in before one of them is chosen. What cannot be taken in makes the
whole set unusable, or brings the intake to fail (`Key.SetBreakdown`, `Key.ofSet_eq_failed`). Once
the keys are there, choosing one of them cannot fail (`Key.select_ne_failed`).

A client secret goes another way. To read it fails only where it is a key in JSON that is nested too
deeply (`SharedKey.ofSecret_eq_failed`). Only when an assertion is at hand is a key looked for in
it, and this is what can fail then (`SharedKey.NoKey`, `SharedKey.keyFor_eq_failed`).
-/

namespace Introspection.Assertion

variable {failure : Failure}

namespace Key

/-- What brings the intake of a key to fail. -/
inductive IntakeBreakdown : Json -> Failure -> Prop
  /-- It is `null`, or a list that is none of bytes. -/
  | noBytes {value : Json} (notObject : ∀ members, value ≠ .object members)
      (noBytes : value.HasNoBytes) : IntakeBreakdown value .wrongType
  /-- It is an object with members, but without a type. -/
  | untyped {members : Members} (nonempty : members ≠ [])
      (untyped : (Json.member? "kty" members).getD .null = .null) :
      IntakeBreakdown (.object members) .wrongType
  /-- Its type is a list or an object. -/
  | compoundType {members : Members} {type : Json} (typed : Json.member? "kty" members = some type)
      (compound : type.isCompound = true) : IntakeBreakdown (.object members) .wrongType
  /-- Its type names no family of keys. -/
  | unknownType {members : Members} {type : Json} (typed : Json.member? "kty" members = some type)
      (notNull : type ≠ .null) (notCompound : type.isCompound = false)
      (unknown : ∀ family : Family, type ≠ .string family.name) :
      IntakeBreakdown (.object members) .unknownName
  /-- It is a private RSA key without its primes, and its numbers cannot be read. -/
  | numbers {members : Members}
      (typed : Json.member? "kty" members = some (.string Family.rsa.name))
      (complete : Family.rsa.requiredFields.all (Key.described .rsa members).has = true)
      (stops : (Key.described .rsa members).StopsReading (Key.described .rsa members).fieldsTaken) :
      IntakeBreakdown (.object members) .wrongType

theorem IntakeBreakdown.mem_formFailures {value : Json}
    (broken : Key.IntakeBreakdown value failure) : failure ∈ formFailures := by
  cases broken with
  | _ => simp [formFailures]

theorem family?_eq_ok {type : Json} {family : Family} :
    family? type = .ok family ↔ type = .string family.name := by
  constructor
  · intro found
    cases type with
    | string name =>
      simp only [family?] at found
      split at found
      · next other isFound =>
        obtain rfl := Except.ok.inj found
        have same : other.name = name := by simpa using List.find?_some isFound
        rw [same]
      · cases found
    | _ => cases found
  · rintro rfl
    cases family with
    | _ => rfl

theorem family?_of_unknown {type : Json} (unknown : ∀ family : Family, type ≠ .string family.name) :
    family? type =
      .error (.failed (if type.isCompound then .wrongType else .unknownName)) := by
  cases found : family? type with
  | ok family => exact absurd (family?_eq_ok.mp found) (unknown family)
  | error fault =>
    unfold family? at found
    split at found
    · split at found
      · cases found
      · exact found.symm
    · exact found.symm
    · exact found.symm
    · next noList noObject =>
      rw [Json.isCompound_eq_false noList noObject]
      exact found.symm

theorem ofMembers_eq_failed {family : Family} {members : Members} :
    ofMembers family members = .error (.failed failure) ↔
      family = .rsa ∧ Family.rsa.requiredFields.all (Key.described .rsa members).has = true ∧
        (Key.described .rsa members).StopsReading (Key.described .rsa members).fieldsTaken ∧
          failure = .wrongType := by
  simp only [ofMembers]
  split
  · next incomplete =>
    refine iff_of_false (by simp) ?_
    rintro ⟨rfl, complete, _⟩
    simp [complete] at incomplete
  · next complete =>
    cases family with
    | rsa =>
      have complete : Family.rsa.requiredFields.all (Key.described .rsa members).has = true := by
        simpa using complete
      simp only [takeRsa_eq_failed, complete, true_and]
    | elliptic => simp
    | edwards => simp
    | shared => simp

theorem ofJson_eq_failed_of_notObject {value : Json}
    (notObject : ∀ members, value ≠ .object members) :
    ofJson value = .error (.failed failure) ↔ value.HasNoBytes ∧ failure = .wrongType := by
  cases value with
  | object members => exact absurd rfl (notObject members)
  | null => simp [ofJson, Json.HasNoBytes, eq_comm]
  | list items =>
    simp only [ofJson, bind_eq_error, mapM_eq_error, byte_eq_failed, reaches_and, Json.HasNoBytes]
    simp
  | bool value => simp [ofJson, Json.HasNoBytes]
  | int value => simp [ofJson, Json.HasNoBytes]
  | double value => simp [ofJson, Json.HasNoBytes]
  | string value => simp [ofJson, Json.HasNoBytes]

theorem ofJson_of_untyped {members : Members}
    (untyped : (Json.member? "kty" members).getD .null = .null) :
    ofJson (.object members) =
      if members.isEmpty then .error .unusable else .error (.failed .wrongType) := by
  simp only [ofJson, untyped]

theorem ofJson_of_typed {members : Members} {type : Json}
    (typed : Json.member? "kty" members = some type) (notNull : type ≠ .null) :
    ofJson (.object members) = (do ofMembers (<- family? type) members) := by
  simp only [ofJson, typed, Option.getD_some]

theorem ofJson_object_eq_failed {members : Members} :
    ofJson (.object members) = .error (.failed failure) ↔
      IntakeBreakdown (.object members) failure := by
  constructor
  · intro failed
    by_cases untyped : (Json.member? "kty" members).getD .null = .null
    · rw [ofJson_of_untyped untyped] at failed
      split at failed
      · cases failed
      · next nonempty =>
        obtain rfl := Fault.failed.inj (Except.error.inj failed)
        exact .untyped (by simpa using nonempty) untyped
    · cases typed : Json.member? "kty" members with
      | none => simp [typed] at untyped
      | some type =>
        have notNull : type ≠ .null := by simpa [typed] using untyped
        rw [ofJson_of_typed typed notNull] at failed
        obtain untaken | ⟨family, isFamily, untaken⟩ := bind_eq_error.mp failed
        · have unknown : ∀ family : Family, type ≠ .string family.name := by
            rintro family rfl
            rw [family?_eq_ok.mpr rfl] at untaken
            cases untaken
          rw [family?_of_unknown unknown] at untaken
          obtain rfl := Fault.failed.inj (Except.error.inj untaken)
          cases compound : type.isCompound with
          | true => exact .compoundType typed compound
          | false => exact .unknownType typed notNull compound unknown
        · obtain rfl := family?_eq_ok.mp isFamily
          obtain ⟨rfl, complete, stops, rfl⟩ := ofMembers_eq_failed.mp untaken
          exact .numbers typed complete stops
  · intro broken
    cases broken with
    | noBytes notObject noBytes => exact absurd rfl (notObject members)
    | untyped nonempty untyped =>
      rw [ofJson_of_untyped untyped, if_neg (by simpa using nonempty)]
    | compoundType typed compound =>
      rw [ofJson_of_typed typed (by rintro rfl; cases compound),
        family?_of_unknown (by rintro family rfl; cases compound), compound]
      rfl
    | unknownType typed notNull notCompound unknown =>
      rw [ofJson_of_typed typed notNull, family?_of_unknown unknown, notCompound]
      rfl
    | numbers typed complete stops =>
      rw [ofJson_of_typed typed (by simp), family?_eq_ok.mpr rfl, ok_bind]
      exact ofMembers_eq_failed.mpr ⟨rfl, complete, stops, rfl⟩

theorem ofJson_eq_failed {value : Json} :
    ofJson value = .error (.failed failure) ↔ IntakeBreakdown value failure := by
  by_cases isObject : ∃ members, value = .object members
  · obtain ⟨members, rfl⟩ := isObject
    exact ofJson_object_eq_failed
  · have notObject : ∀ members, value ≠ .object members := fun members same =>
      isObject ⟨members, same⟩
    rw [ofJson_eq_failed_of_notObject notObject]
    constructor
    · rintro ⟨noBytes, rfl⟩
      exact .noBytes notObject noBytes
    · intro broken
      cases broken with
      | noBytes _ noBytes => exact ⟨noBytes, rfl⟩
      | untyped _ _ => exact absurd rfl (notObject _)
      | compoundType _ _ => exact absurd rfl (notObject _)
      | unknownType _ _ _ _ => exact absurd rfl (notObject _)
      | numbers _ _ _ => exact absurd rfl (notObject _)

/-- What brings the intake of a key set to fail, its keys not being absent. -/
inductive SetBreakdown (members : Members) : Failure -> Prop
  /-- In the place of the keys is a number. -/
  | noItems {value : Json} (held : Json.member? "keys" members = some value)
      (noItems : value.number?.isSome = true) : SetBreakdown members .wrongType
  /-- A key is reached that cannot be taken in. -/
  | item {items : List Json} {failure : Failure}
      (held : Json.member? "keys" members = some (.list items))
      (reached : Reaches (fun item => ∃ key, ofJson item = .ok key)
        (fun item => IntakeBreakdown item failure) items) : SetBreakdown members failure

theorem SetBreakdown.mem_formFailures {members : Members}
    (broken : Key.SetBreakdown members failure) : failure ∈ formFailures := by
  cases broken with
  | noItems held number => simp [formFailures]
  | item held reached =>
    obtain ⟨item, _, broken⟩ := exists_of_reaches reached
    exact broken.mem_formFailures

theorem ofSet_of_number {members : Members} {value : Json}
    (held : Json.member? "keys" members = some value) (number : value.number?.isSome = true) :
    ofSet members = .error (.failed .wrongType) := by
  unfold ofSet
  rw [held, Option.getD_some]
  cases value with
  | bool _ => rfl
  | int _ => rfl
  | double _ => rfl
  | _ => cases number

theorem ofSet_of_list {members : Members} {items : List Json}
    (held : Json.member? "keys" members = some (.list items)) :
    ofSet members = .error (.failed failure) ↔
      Reaches (fun item => ∃ key, ofJson item = .ok key)
        (fun item => IntakeBreakdown item failure) items := by
  unfold ofSet
  rw [held, Option.getD_some]
  simp only [mapM_eq_error, ofJson_eq_failed]

/-- Of a text, a single character or the name of a member, no key can be made, but the attempt does
not fail. -/
theorem mapM_ofJson_string_ne_failed {α : Type} {text : α -> String} {items : List α} :
    items.mapM (fun item => ofJson (.string (text item))) ≠ .error (.failed failure) := by
  cases items with
  | nil => simp
  | cons item rest =>
    rw [List.mapM_cons, ofJson_string]
    simp

theorem ofSet_eq_failed {members : Members}
    (present : ((Json.member? "keys" members).getD .null).isVoid = false) :
    ofSet members = .error (.failed failure) ↔ SetBreakdown members failure := by
  constructor
  · intro failed
    cases held : Json.member? "keys" members with
    | none => simp [held, Json.isVoid] at present
    | some value =>
      by_cases number : value.number?.isSome = true
      · rw [ofSet_of_number held number] at failed
        obtain rfl := Fault.failed.inj (Except.error.inj failed)
        exact .noItems held number
      · cases value with
        | list items => exact .item held ((ofSet_of_list held).mp failed)
        | object fields =>
          rw [ofSet, held] at failed
          exact absurd failed mapM_ofJson_string_ne_failed
        | string text =>
          rw [ofSet, held] at failed
          exact absurd failed mapM_ofJson_string_ne_failed
        | null => simp [held, Json.isVoid] at present
        | bool value => exact absurd rfl number
        | int value => exact absurd rfl number
        | double value => exact absurd rfl number
  · intro broken
    cases broken with
    | noItems held number => exact ofSet_of_number held number
    | item held reached => exact (ofSet_of_list held).mpr reached

/-- To choose one of the keys that were taken in does not fail. -/
theorem select_ne_failed {keys : List Key} {identifier : Json} :
    select keys identifier ≠ .error (.failed failure) := by
  unfold select
  split
  · simp
  · split
    · simp
    · simp

end Key

namespace SharedKey

/-- A client secret is a text in braces, in which lists and objects stand in one another too
deeply. -/
def IsTooDeep (depth : Nat) (secret : Json) : Prop :=
  ∃ text, secret = .string text ∧ text.toList.head? = some '\x7b' ∧
    text.toList.getLast? = some '\x7d' ∧ Json.read depth text.toList = .error .tooDeep

/-- What is read of a text in braces. -/
theorem ofSecret_braced_eq_failed {depth : Nat} {text : String}
    (braced : text.toList.head? = some '\x7b' ∧ text.toList.getLast? = some '\x7d') :
    ofSecret depth (.string text) = .error (.failed failure) ↔
      Json.read depth text.toList = .error .tooDeep ∧ failure = .tooDeep := by
  simp only [ofSecret, if_pos braced]
  cases read : Json.read depth text.toList with
  | ok value =>
    cases value with
    | _ => simp
  | error flaw =>
    cases flaw with
    | malformed => simp [faultOf]
    | tooDeep => simp [faultOf, @eq_comm Failure failure]

/-- A client secret that is not empty can be read, or it cannot be used, unless it is nested too
deeply. -/
theorem ofSecret_eq_failed {depth : Nat} {secret : Json} (nonempty : secret.isVoid = false) :
    ofSecret depth secret = .error (.failed failure) ↔
      IsTooDeep depth secret ∧ failure = .tooDeep := by
  cases secret with
  | string text =>
    by_cases braced : text.toList.head? = some '\x7b' ∧ text.toList.getLast? = some '\x7d'
    · simp [ofSecret_braced_eq_failed braced, IsTooDeep, braced]
    · simp only [ofSecret, if_neg braced]
      refine iff_of_false (by simp) ?_
      rintro ⟨⟨_, same, opened, closed, _⟩, _⟩
      cases same
      exact braced ⟨opened, closed⟩
  | null => cases nonempty
  | object members => simp [ofSecret, IsTooDeep]
  | list items => simp [ofSecret, IsTooDeep]
  | bool value => simp [ofSecret, Key.rawBytes, encode, IsTooDeep]
  | int value => simp [ofSecret, Key.rawBytes, encode, IsTooDeep]
  | double value => simp [ofSecret, Key.rawBytes, encode, IsTooDeep]

/-- An item of a key set is an object, but not the key of an identifier. -/
def IsOther (identifier item : Json) : Prop :=
  ∃ members, item = .object members ∧
    ((Json.member? "kid" members).getD .null).same identifier = false

/-- What brings the choice of a key from a set in a client secret to fail, for an identifier. -/
inductive SelectionBreakdown (keys identifier : Json) : Failure -> Prop
  /-- In the place of the keys is nothing, or a number. -/
  | noItems (noItems : keys = .null ∨ keys.number?.isSome = true) :
      SelectionBreakdown keys identifier .wrongType
  /-- No key is named, and in the place of the keys is an object with one member. -/
  | member {member : String × Json} (unnamed : identifier = .null)
      (held : keys = .object [member]) : SelectionBreakdown keys identifier .unknownName
  /-- No key is named, and the only one there is has no bytes. -/
  | noBytes {item : Json} (unnamed : identifier = .null) (held : keys = .list [item])
      (notObject : ∀ members, item ≠ .object members) (noBytes : item.HasNoBytes) :
      SelectionBreakdown keys identifier .wrongType
  /-- Before the key that is named, something else than an object is reached. -/
  | notObject {held : List Json} (named : identifier ≠ .null) (gone : items keys = .ok held)
      (reached : Reaches (IsOther identifier) (fun item => ∀ members, item ≠ .object members)
        held) : SelectionBreakdown keys identifier .unsupportedKey

theorem ofMembers_shared_ne_failed {members : Members} :
    Key.ofMembers .shared members ≠ .error (.failed failure) := by
  intro failed
  obtain ⟨isRsa, _⟩ := Key.ofMembers_eq_failed.mp failed
  cases isRsa

theorem find_eq_failed {identifier : Json} {items : List Json} :
    find identifier items = .error (.failed failure) ↔
      Reaches (IsOther identifier) (fun item => ∀ members, item ≠ .object members) items ∧
        failure = .unsupportedKey := by
  induction items with
  | nil => simp [find, Reaches]
  | cons item rest ih =>
    cases item with
    | object members =>
      by_cases same : ((Json.member? "kid" members).getD .null).same identifier = true
      · simp [find, same, Reaches, IsOther, ofMembers_shared_ne_failed]
      · simp [find, same, Reaches, IsOther, ih]
    | _ => simp [find, Reaches, @eq_comm Failure failure]

theorem items_eq_failed {keys : Json} :
    items keys = .error (.failed failure) ↔
      (keys = .null ∨ keys.number?.isSome = true) ∧ failure = .wrongType := by
  cases keys with
  | _ => simp [items, Json.number?, @eq_comm Failure failure]

theorem ofJson_eq_failed {value : Json} :
    ofJson value = .error (.failed failure) ↔
      (∀ members, value ≠ .object members) ∧ value.HasNoBytes ∧ failure = .wrongType := by
  by_cases isObject : ∃ members, value = .object members
  · obtain ⟨members, rfl⟩ := isObject
    exact iff_of_false ofMembers_shared_ne_failed fun ⟨notObject, _⟩ => notObject members rfl
  · have notObject : ∀ members, value ≠ .object members := fun members same =>
      isObject ⟨members, same⟩
    have read : ofJson value = (do return .secret (<- Key.rawBytes encode value)) := by
      simp only [ofJson]
    rw [read, bind_eq_error, Key.rawBytes_eq_failed]
    simp [notObject]

/-- Where there is not a single item in a list or an object, the choice of a key that is not named
fails only for want of items. -/
theorem select_unnamed_eq_failed {keys : Json} (notList : ∀ item, keys ≠ .list [item])
    (notObject : ∀ member, keys ≠ .object [member]) :
    select keys .null = .error (.failed failure) ↔ items keys = .error (.failed failure) := by
  unfold select
  rw [bind_eq_error]
  refine or_iff_left ?_
  rintro ⟨held, gone, failed⟩
  split at failed
  · next key _ =>
    cases keys with
    | list items => exact notList key (congrArg Json.list (Except.ok.inj gone))
    | object members =>
      obtain ⟨member, rfl, _⟩ := List.map_eq_singleton_iff.mp (Except.ok.inj gone)
      exact notObject member rfl
    | string text =>
      obtain ⟨c, _, rfl⟩ := List.map_eq_singleton_iff.mp (Except.ok.inj gone)
      exact absurd failed (by simp [ofJson, Key.rawBytes, encode])
    | _ => cases gone
  · cases failed
  · next named _ => exact named rfl

theorem select_named_eq_failed {keys identifier : Json} (named : identifier ≠ .null) :
    select keys identifier = .error (.failed failure) ↔
      (keys = .null ∨ keys.number?.isSome = true) ∧ failure = .wrongType ∨
        ∃ held, items keys = .ok held ∧
          Reaches (IsOther identifier) (fun item => ∀ members, item ≠ .object members) held ∧
            failure = .unsupportedKey := by
  have unfolded : select keys identifier = (do find identifier (<- items keys)) := by
    cases identifier with
    | null => exact absurd rfl named
    | _ => rfl
  rw [unfolded, bind_eq_error, items_eq_failed]
  simp only [find_eq_failed]

theorem select_eq_failed {keys identifier : Json} :
    select keys identifier = .error (.failed failure) ↔
      SelectionBreakdown keys identifier failure := by
  constructor
  · intro failed
    by_cases unnamed : identifier = .null
    · subst unnamed
      by_cases single : ∃ item, keys = .list [item]
      · obtain ⟨item, rfl⟩ := single
        obtain ⟨notObject, noBytes, rfl⟩ := ofJson_eq_failed.mp failed
        exact .noBytes rfl rfl notObject noBytes
      · by_cases member : ∃ member, keys = .object [member]
        · obtain ⟨member, rfl⟩ := member
          obtain rfl := Fault.failed.inj (Except.error.inj failed)
          exact .member rfl rfl
        · rw [select_unnamed_eq_failed (not_exists.mp single) (not_exists.mp member),
            items_eq_failed] at failed
          obtain ⟨noItems, rfl⟩ := failed
          exact .noItems noItems
    · rcases (select_named_eq_failed unnamed).mp failed with
        ⟨noItems, rfl⟩ | ⟨held, gone, reached, rfl⟩
      · exact .noItems noItems
      · exact .notObject unnamed gone reached
  · intro broken
    cases broken with
    | noItems noItems => exact bind_eq_error.mpr (.inl (items_eq_failed.mpr ⟨noItems, rfl⟩))
    | member unnamed held =>
      subst unnamed held
      rfl
    | noBytes unnamed held notObject noBytes =>
      subst unnamed held
      exact ofJson_eq_failed.mpr ⟨notObject, noBytes, rfl⟩
    | notObject named gone reached =>
      exact (select_named_eq_failed named).mpr (.inr ⟨_, gone, reached, rfl⟩)

/-- What brings the search of a client secret for the key of an assertion to fail: the secret is a
key set, and the choice from it fails. -/
def NoKey (shared : SharedKey) (header : Members) (failure : Failure) : Prop :=
  ∃ members keys, shared = .described members ∧ Json.member? "keys" members = some keys ∧
    SelectionBreakdown keys (keyIdentifier header) failure

theorem NoKey.mem_formFailures {shared : SharedKey} {header : Members}
    (broken : shared.NoKey header failure) : failure ∈ formFailures := by
  obtain ⟨members, keys, _, _, broken⟩ := broken
  cases broken with
  | _ => simp [formFailures]

theorem keyFor_eq_failed {shared : SharedKey} {header : Members} :
    shared.keyFor header = .error (.failed failure) ↔ shared.NoKey header failure := by
  unfold NoKey
  cases shared with
  | secret bytes => simp [keyFor]
  | described members =>
    cases held : Json.member? "keys" members with
    | none => simp [keyFor, held, ofMembers_shared_ne_failed]
    | some keys => simp [keyFor, held, select_eq_failed]

end SharedKey

end Introspection.Assertion
