import Introspection.Proofs.Assertion.Breakdown
import Introspection.Proofs.Assertion.SetBreakdown
import Introspection.Proofs.Credential.Identity

/-!
# Assertions that break authentication down

A client that is to authenticate by an assertion is authenticated or denied, unless the check of
the assertion fails. What brings it to fail is said here for one client (`AssertionBreakdown`), from
what is stored about the client, what is found at the address of its keys, and the assertion: the
address or the key set, the choice of a key and its use, an audience that is a number, and wherever
JSON is read, lists and objects that stand in one another too deeply. By `check_eq_error` there is
nothing else.
-/

namespace Introspection

variable {surroundings : Surroundings} {failure : Failure}

namespace Credential

open Assertion (Members Algorithm Key SharedKey Fault)

theorem ofFault_eq_error {α : Type} {denial : Denial} {computed : Except Fault α} :
    ofFault denial computed = .error failure ↔ computed = .error (.failed failure) := by
  unfold ofFault
  split
  · simp
  · simp
  · simp

/-- Claims are complete, but in the place of the audience is a number other than zero. -/
structure AudienceIsNumber (claims : Members) : Prop where
  complete : ∀ name ∈ requiredClaims, (Json.member? name claims).isSome = true
  number : (claim claims "aud").number?.isSome = true
  present : (claim claims "aud").isVoid = false

theorem isAudience_eq_error {address : String} {named : Json} :
    isAudience address named = .error failure ↔
      (named.number?.isSome = true ∧ named.isVoid = false) ∧ failure = .wrongType := by
  have number (void : Bool) :
      (if void then .ok false else .error .wrongType : Except Failure Bool) = .error failure ↔
        void = false ∧ failure = .wrongType := by
    cases void with
    | true => simp
    | false => simp [@eq_comm Failure failure]
  cases named with
  | string text => simp [isAudience, Json.number?]
  | list items => simp [isAudience, Json.number?]
  | object members => simp [isAudience, Json.number?]
  | null => simp [isAudience, Json.number?, Json.isVoid]
  | bool value => simp [isAudience, number, Json.number?]
  | int value => simp [isAudience, number, Json.number?]
  | double value => simp [isAudience, number, Json.number?]

theorem checkClaims_eq_error {address clientId : String} {claims : Members} :
    checkClaims address clientId claims = .error failure ↔
      AudienceIsNumber claims ∧ failure = .wrongType := by
  constructor
  · intro failed
    unfold checkClaims at failed
    split at failed
    · cases failed
    · next complete =>
      obtain failed | ⟨isNamed, _, failed⟩ := bind_eq_error.mp failed
      · obtain ⟨⟨number, present⟩, rfl⟩ := isAudience_eq_error.mp failed
        refine ⟨⟨fun name member => ?_, number, present⟩, rfl⟩
        have absent := List.find?_eq_none.mp complete name member
        exact Option.isSome_iff_ne_none.mpr (by simpa using absent)
      · split at failed
        · cases failed
        · dsimp only at failed
          split at failed
          · cases failed
          · cases failed
  · rintro ⟨⟨complete, number, present⟩, rfl⟩
    have none : requiredClaims.find? (fun name => (Json.member? name claims).isNone) = none := by
      refine List.find?_eq_none.mpr fun name member => ?_
      simpa using Option.isSome_iff_ne_none.mp (complete name member)
    simp only [checkClaims, none]
    exact bind_eq_error.mpr (.inl (isAudience_eq_error.mpr ⟨⟨number, present⟩, rfl⟩))

/-- The header of an assertion names the algorithm that is laid down for a client, if one is. -/
def FitsAlgorithm (depth : Nat) (client : ClientRow) (assertion : String) : Prop :=
  client.signingAlg.isVoid = true ∨
    ∃ header, Assertion.unverifiedHeader depth assertion = .ok header ∧
      (claim header "alg").same client.signingAlg = true

/-- An algorithm is laid down for a client, and the header in which it is looked for is nested too
deeply. -/
structure HeaderTooDeep (depth : Nat) (client : ClientRow) (assertion : String) : Prop where
  laidDown : client.signingAlg.isVoid = false
  deep : Assertion.PartTooDeep depth assertion 0

/-- What brings the check of an assertion of a client to fail, with the keys that are tried. -/
inductive VerificationBreakdown (occasion : Occasion) (client : ClientRow)
    (accepted : List Algorithm) (keyFor : Members -> Except Fault Key)
    (noKey : Members -> Failure -> Prop) (assertion : String) : Failure -> Prop
  | header (deep : HeaderTooDeep occasion.depth client assertion) :
      VerificationBreakdown occasion client accepted keyFor noKey assertion .tooDeep
  | check {failure : Failure} (fits : FitsAlgorithm occasion.depth client assertion)
      (broken : Assertion.CheckBreakdown accepted keyFor noKey occasion.depth occasion.leeway
        assertion failure) :
      VerificationBreakdown occasion client accepted keyFor noKey assertion failure
  | audience {parsed : Assertion.Parsed} (fits : FitsAlgorithm occasion.depth client assertion)
      (right : Assertion.check accepted keyFor occasion.depth occasion.now occasion.leeway
        assertion = .ok parsed)
      (number : AudienceIsNumber parsed.claims) :
      VerificationBreakdown occasion client accepted keyFor noKey assertion .wrongType

theorem VerificationBreakdown.mem_formFailures {occasion : Occasion} {client : ClientRow}
    {accepted : List Algorithm} {keyFor : Members -> Except Fault Key}
    {noKey : Members -> Failure -> Prop} {assertion : String}
    (known : ∀ header failure, noKey header failure -> failure ∈ formFailures)
    (broken : VerificationBreakdown occasion client accepted keyFor noKey assertion failure) :
    failure ∈ formFailures := by
  cases broken with
  | header deep => simp [formFailures]
  | check fits broken => exact broken.mem_formFailures known
  | audience fits right number => simp [formFailures]

section Verification

variable {occasion : Occasion} {client : ClientRow} {accepted : List Algorithm}
  {keyFor : Members -> Except Fault Key} {noKey : Members -> Failure -> Prop}
  {keys : Except Fault (Members -> Except Fault Key)} {assertion : String}

/-- The check of an assertion that names the right algorithm: its signature and times, and then its
claims. -/
def verifySigned (occasion : Occasion) (client : ClientRow) (accepted : List Algorithm)
    (keys : Except Fault (Members -> Except Fault Key)) (assertion : String) :
    Except Failure (Except Denial Assertion.Parsed) := do
  match <- ofFault .invalidAssertion (keys.bind fun keyFor =>
      Assertion.check accepted keyFor occasion.depth occasion.now occasion.leeway assertion) with
  | .error denial => return .error denial
  | .ok parsed =>
    match <- checkClaims occasion.address client.clientId parsed.claims with
    | .error denial => return .error denial
    | .ok () => return .ok parsed

theorem verifyAssertion_of_fits (fits : FitsAlgorithm occasion.depth client assertion) :
    verifyAssertion occasion client accepted keys assertion =
      verifySigned occasion client accepted keys assertion := by
  unfold verifyAssertion
  rcases fits with void | ⟨header, found, same⟩
  · simp only [void]
    rfl
  · simp only [found, ofFault, ok_bind, same]
    split
    · rfl
    · rfl

theorem verifyAssertion_of_header (deep : HeaderTooDeep occasion.depth client assertion) :
    verifyAssertion occasion client accepted keys assertion = .error .tooDeep := by
  have unread : Assertion.unverifiedHeader occasion.depth assertion = .error (.failed .tooDeep) :=
    Assertion.unverifiedPart_eq_failed.mpr ⟨deep.deep, rfl⟩
  simp only [verifyAssertion, deep.laidDown, unread, ofFault]
  rfl

/-- An assertion that names another algorithm than the one laid down is denied. -/
theorem verifyAssertion_of_not_fits (unfit : ¬ FitsAlgorithm occasion.depth client assertion)
    (readable : ¬ HeaderTooDeep occasion.depth client assertion)
    (keys : Except Fault (Members -> Except Fault Key)) :
    ∃ denial, verifyAssertion occasion client accepted keys assertion = .ok (.error denial) := by
  obtain ⟨present, other⟩ := not_or.mp unfit
  have laidDown : client.signingAlg.isVoid = false := by simpa using present
  unfold verifyAssertion
  simp only [laidDown, Bool.not_false, if_true]
  cases found : Assertion.unverifiedHeader occasion.depth assertion with
  | error fault =>
    cases fault with
    | unusable => exact ⟨.invalidAssertion, rfl⟩
    | failed failure =>
      exact absurd ⟨laidDown, (Assertion.unverifiedPart_eq_failed.mp found).1⟩ readable
  | ok header =>
    have differs : (claim header "alg").same client.signingAlg = false := by
      by_contra same
      exact other ⟨header, found, by simpa using same⟩
    simp only [ofFault, ok_bind, differs]
    exact ⟨.invalidAlgorithm, rfl⟩

/-- A header that is nested too deeply names no algorithm. -/
theorem HeaderTooDeep.not_fits (deep : HeaderTooDeep occasion.depth client assertion) :
    ¬ FitsAlgorithm occasion.depth client assertion := by
  rintro (void | ⟨header, found, _⟩)
  · rw [deep.laidDown] at void
    cases void
  · have unread : Assertion.unverifiedHeader occasion.depth assertion = .error (.failed .tooDeep) :=
      Assertion.unverifiedPart_eq_failed.mpr ⟨deep.deep, rfl⟩
    rw [unread] at found
    cases found

/-- The check of an assertion fails at its header, or after the header has been found to fit. -/
theorem verifyAssertion_eq_error :
    verifyAssertion occasion client accepted keys assertion = .error failure ↔
      HeaderTooDeep occasion.depth client assertion ∧ failure = .tooDeep ∨
        FitsAlgorithm occasion.depth client assertion ∧
          verifySigned occasion client accepted keys assertion = .error failure := by
  by_cases deep : HeaderTooDeep occasion.depth client assertion
  · rw [verifyAssertion_of_header deep]
    simp [deep, deep.not_fits, @eq_comm Failure failure]
  by_cases fits : FitsAlgorithm occasion.depth client assertion
  · rw [verifyAssertion_of_fits fits]
    simp [deep, fits]
  · obtain ⟨denial, denied⟩ := verifyAssertion_of_not_fits fits deep keys
    rw [denied]
    simp [deep, fits]

theorem verifySigned_eq_error
    (unselected : ∀ header failure,
      keyFor header = .error (.failed failure) ↔ noKey header failure) :
    verifySigned occasion client accepted (.ok keyFor) assertion = .error failure ↔
      Assertion.CheckBreakdown accepted keyFor noKey occasion.depth occasion.leeway assertion
          failure ∨
        ∃ parsed, Assertion.check accepted keyFor occasion.depth occasion.now occasion.leeway
            assertion = .ok parsed ∧ AudienceIsNumber parsed.claims ∧ failure = .wrongType := by
  unfold verifySigned
  rw [bind_eq_error, ofFault_eq_error]
  refine or_congr (Assertion.check_eq_failed unselected) ⟨?_, ?_⟩
  · rintro ⟨outcome, computed, failed⟩
    cases outcome with
    | error denial => cases failed
    | ok parsed =>
      obtain failed | ⟨outcome, _, failed⟩ := bind_eq_error.mp failed
      · exact ⟨parsed, ofFault_eq_ok computed, checkClaims_eq_error.mp failed⟩
      · cases outcome with
        | error denial => cases failed
        | ok _ => cases failed
  · rintro ⟨parsed, right, number⟩
    refine ⟨.ok parsed, ?_, bind_eq_error.mpr (.inl (checkClaims_eq_error.mpr number))⟩
    exact congrArg (ofFault .invalidAssertion) right

theorem verifyAssertion_with_keys_eq_error
    (unselected : ∀ header failure,
      keyFor header = .error (.failed failure) ↔ noKey header failure) :
    verifyAssertion occasion client accepted (.ok keyFor) assertion = .error failure ↔
      VerificationBreakdown occasion client accepted keyFor noKey assertion failure := by
  rw [verifyAssertion_eq_error, verifySigned_eq_error unselected]
  constructor
  · rintro (⟨deep, rfl⟩ | ⟨fits, broken | ⟨parsed, right, number, rfl⟩⟩)
    · exact .header deep
    · exact .check fits broken
    · exact .audience fits right number
  · intro broken
    cases broken with
    | header deep => exact .inl ⟨deep, rfl⟩
    | check fits broken => exact .inr ⟨fits, .inl broken⟩
    | audience fits right number => exact .inr ⟨fits, .inr ⟨_, right, number, rfl⟩⟩

/-- Where there are no keys to try, for some fault, this is what the check of an assertion comes to
once its header fits. -/
theorem verifyAssertion_without_keys_eq_error {fault : Fault} :
    verifyAssertion occasion client accepted (.error fault) assertion = .error failure ↔
      HeaderTooDeep occasion.depth client assertion ∧ failure = .tooDeep ∨
        FitsAlgorithm occasion.depth client assertion ∧ fault = .failed failure := by
  rw [verifyAssertion_eq_error]
  refine or_congr_right (and_congr_right fun _ => ?_)
  cases fault with
  | unusable => exact iff_of_false nofun nofun
  | failed other => simp [verifySigned, Except.bind, ofFault]

end Verification

/-- A server answers to a request for the document at an address. The address can be read, its host
is written in ASCII, and it names a server. -/
structure Answers (fetch : String -> Reply) (text : String) (reply : Reply) : Prop where
  nonempty : text ≠ ""
  asked : ∃ address, Web.Address.read? text = some address ∧
    address.host.toList.all Percent.isAscii = true ∧ address.namesServer = true ∧
      fetch address.target = reply

/-- A server answers, with success, with a document that is nested too deeply. -/
def AnswersTooDeep (fetch : String -> Reply) (depth : Nat) (text : String) : Prop :=
  ∃ status body, Answers fetch text (.answered status body) ∧ (200 ≤ status ∧ status < 300) ∧
    Json.ofDocument depth body = .error .tooDeep

/-- What brings the search for a client's key set to fail: an address that cannot be read, or a
document there that is nested too deeply. -/
inductive SearchBreakdown (fetch : String -> Reply) (depth : Nat) (client : ClientRow) :
    Failure -> Prop
  | unreadable {text : String} (notHeld : ∀ members, client.keys ≠ .object members)
      (named : client.keysAddress = .string text) (nonempty : text ≠ "")
      (unread : Web.Address.read? text = none) :
      SearchBreakdown fetch depth client .invalidAddress
  /-- The column holds something else than a text. -/
  | notText (notHeld : ∀ members, client.keys ≠ .object members)
      (present : client.keysAddress.isVoid = false)
      (notText : ∀ text, client.keysAddress ≠ .string text) :
      SearchBreakdown fetch depth client .wrongType
  | document {text : String} (notHeld : ∀ members, client.keys ≠ .object members)
      (named : client.keysAddress = .string text) (deep : AnswersTooDeep fetch depth text) :
      SearchBreakdown fetch depth client .tooDeep

/-- What is found as the key set of a client: the one that is stored with it, or else the document
at its address, if it can be asked for and is a JSON object. -/
inductive FindsKeySet (fetch : String -> Reply) (depth : Nat) (client : ClientRow) :
    Members -> Prop
  | stored {members : Members} (held : client.keys = .object members) :
      FindsKeySet fetch depth client members
  | fetched {members : Members} {text : String} {reply : Reply}
      (notHeld : ∀ others, client.keys ≠ .object others)
      (named : client.keysAddress = .string text) (answered : Answers fetch text reply)
      (isDocument : document depth reply = .ok (some (.object members))) :
      FindsKeySet fetch depth client members

section Search

variable {depth : Nat} {client : ClientRow} {text : String}

theorem document_eq_error {reply : Reply} :
    document depth reply = .error failure ↔
      (∃ status body, reply = .answered status body ∧ (200 ≤ status ∧ status < 300) ∧
        Json.ofDocument depth body = .error .tooDeep) ∧ failure = .tooDeep := by
  cases reply with
  | unreachable => simp [document]
  | answered status body =>
    by_cases success : 200 ≤ status ∧ status < 300
    · simp only [document, if_pos success]
      cases read : Json.ofDocument depth body with
      | ok value => simp [read]
      | error flaw =>
        cases flaw with
        | malformed => simp [read]
        | tooDeep => simp [read, success, @eq_comm Failure failure]
    · simp [document, success]

/-- To ask for a document fails only where it is nested too deeply. -/
theorem eval_fetch (address : Web.Address) :
    (fetch depth address).eval surroundings.reply =
      if address.host.toList.all Percent.isAscii && address.namesServer then
        document depth (surroundings.fetch address.target)
      else .ok none := by
  unfold fetch
  cases ascii : address.host.toList.all Percent.isAscii with
  | false => rfl
  | true =>
    cases server : address.namesServer with
    | false =>
      simp only [Bool.not_true, Bool.false_eq_true, if_false]
      rw [Inquiry.eval_bind, Procedure.eval_ask]
      rfl
    | true =>
      simp only [Bool.not_true, Bool.false_eq_true, if_false, Bool.and_self, if_true]
      rw [Inquiry.eval_bind, Procedure.eval_ask]
      simp only [Inquiry.eval_ofExcept]
      rfl

/-- A key set that is stored with a client is found without a look at an address. -/
theorem keySet_of_stored {members : Members} (held : client.keys = .object members) :
    keySet depth client = return .object members := by
  simp only [keySet, held]

/-- Where no key set is stored, it is looked for at the address, if this can be read. -/
theorem keySet_of_address (notHeld : ∀ members, client.keys ≠ .object members)
    (named : client.keysAddress = .string text) (nonempty : text ≠ "") :
    keySet depth client = match Web.Address.read? text with
      | none => .fail .invalidAddress
      | some address => do
        match <- fetch depth address with
        | some value => return value
        | none =>
          Inquiry.record (.keysFetchFailed client.clientId)
          return .null := by
  have present : (Json.string text).isVoid = false := String.isEmpty_eq_false_iff.mpr nonempty
  unfold keySet
  split
  · next members held => exact absurd held (notHeld members)
  · rw [named]
    exact if_neg (ne_true_of_eq_false present)

/-- At an address that a server answers at, the document is the answer. -/
theorem keySet_of_answers {reply : Reply} (notHeld : ∀ members, client.keys ≠ .object members)
    (named : client.keysAddress = .string text)
    (answered : Answers surroundings.fetch text reply) :
    (keySet depth client).eval surroundings.reply =
      (document depth reply).map fun found => found.getD .null := by
  obtain ⟨address, read, ascii, server, rfl⟩ := answered.asked
  rw [keySet_of_address notHeld named answered.nonempty]
  simp only [read]
  rw [Inquiry.eval_bind, eval_fetch, ascii, server, Bool.and_self, if_pos rfl]
  cases document depth (surroundings.fetch address.target) with
  | error failure => rfl
  | ok found =>
    cases found with
    | none => rfl
    | some value => rfl

/-- Where neither a key set nor the text of an address is stored, there is none, if nothing else is
stored in the place of the address. -/
theorem keySet_of_unnamed (notHeld : ∀ members, client.keys ≠ .object members)
    (unnamed : ∀ text, client.keysAddress = .string text -> text = "") :
    (keySet depth client).eval surroundings.reply =
      if client.keysAddress.isVoid then .ok .null else .error .wrongType := by
  unfold keySet
  split
  · next members held => exact absurd held (notHeld members)
  · split
    · rfl
    · next present =>
      split
      · next text named =>
        obtain rfl := unnamed text named
        exact absurd (by rw [named]; rfl) present
      · rfl

/-- The ways that the search for a client's key set can go. -/
inductive KeySearch (fetch : String -> Reply) (depth : Nat) (client : ClientRow) :
    Except Failure Json -> Prop
  | stored {members : Members} (held : client.keys = .object members) :
      KeySearch fetch depth client (.ok (.object members))
  | unreadable {text : String} (notHeld : ∀ members, client.keys ≠ .object members)
      (named : client.keysAddress = .string text) (nonempty : text ≠ "")
      (unread : Web.Address.read? text = none) :
      KeySearch fetch depth client (.error .invalidAddress)
  | answered {text : String} {reply : Reply} (notHeld : ∀ members, client.keys ≠ .object members)
      (named : client.keysAddress = .string text) (answered : Answers fetch text reply) :
      KeySearch fetch depth client ((document depth reply).map fun found => found.getD .null)
  /-- There is no address, or none that a server can be asked at. -/
  | nothing : KeySearch fetch depth client (.ok .null)
  | notText (notHeld : ∀ members, client.keys ≠ .object members)
      (present : client.keysAddress.isVoid = false)
      (notText : ∀ text, client.keysAddress ≠ .string text) :
      KeySearch fetch depth client (.error .wrongType)

theorem keySet_search (surroundings : Surroundings) (depth : Nat) (client : ClientRow) :
    KeySearch surroundings.fetch depth client
      ((keySet depth client).eval surroundings.reply) := by
  by_cases held : ∃ members, client.keys = .object members
  · obtain ⟨members, held⟩ := held
    rw [keySet_of_stored held]
    exact .stored held
  have notHeld := not_exists.mp held
  by_cases named : ∃ text, client.keysAddress = .string text ∧ text ≠ ""
  · obtain ⟨text, named, nonempty⟩ := named
    cases read : Web.Address.read? text with
    | none =>
      rw [keySet_of_address notHeld named nonempty, read]
      exact .unreadable notHeld named nonempty read
    | some address =>
      by_cases asked : (address.host.toList.all Percent.isAscii && address.namesServer) = true
      · obtain ⟨ascii, server⟩ := Bool.and_eq_true_iff.mp asked
        have answered : Answers surroundings.fetch text (surroundings.fetch address.target) :=
          ⟨nonempty, address, read, ascii, server, rfl⟩
        rw [keySet_of_answers notHeld named answered]
        exact .answered notHeld named answered
      · rw [keySet_of_address notHeld named nonempty, read]
        dsimp only
        rw [Inquiry.eval_bind, eval_fetch, if_neg asked]
        exact .nothing
  · have unnamed : ∀ text, client.keysAddress = .string text -> text = "" := by simpa using named
    rw [keySet_of_unnamed notHeld unnamed]
    cases void : client.keysAddress.isVoid with
    | true => exact .nothing
    | false =>
      refine .notText notHeld void fun text named => ?_
      rw [named, unnamed text named] at void
      cases void

/-- What brings the search for a client's key set to fail, and nothing else does. -/
theorem keySet_eq_error :
    (keySet depth client).eval surroundings.reply = .error failure ↔
      SearchBreakdown surroundings.fetch depth client failure := by
  constructor
  · intro failed
    have search := keySet_search surroundings depth client
    generalize (keySet depth client).eval surroundings.reply = result at failed search
    cases search with
    | stored held => cases failed
    | unreadable notHeld named nonempty unread =>
      obtain rfl := Except.error.inj failed
      exact .unreadable notHeld named nonempty unread
    | @answered text reply notHeld named answered =>
      cases found : document depth reply with
      | ok value =>
        rw [found] at failed
        cases failed
      | error other =>
        rw [found] at failed
        obtain rfl := Except.error.inj failed
        obtain ⟨⟨status, body, rfl, success, deep⟩, rfl⟩ := document_eq_error.mp found
        exact .document notHeld named ⟨status, body, answered, success, deep⟩
    | nothing => cases failed
    | notText notHeld present notText =>
      obtain rfl := Except.error.inj failed
      exact .notText notHeld present notText
  · intro broken
    cases broken with
    | unreadable notHeld named nonempty unread =>
      rw [keySet_of_address notHeld named nonempty, unread]
      rfl
    | notText notHeld present notText =>
      rw [keySet_of_unnamed notHeld fun text named => absurd named (notText text), present]
      rfl
    | document notHeld named deep =>
      obtain ⟨status, body, answered, success, deep⟩ := deep
      rw [keySet_of_answers notHeld named answered,
        document_eq_error.mpr ⟨⟨status, body, rfl, success, deep⟩, rfl⟩]
      rfl

theorem keySet_eq_object {members : Members} :
    (keySet depth client).eval surroundings.reply = .ok (.object members) ↔
      FindsKeySet surroundings.fetch depth client members := by
  constructor
  · intro found
    have search := keySet_search surroundings depth client
    generalize (keySet depth client).eval surroundings.reply = result at found search
    cases search with
    | stored held =>
      obtain rfl := Json.object.inj (Except.ok.inj found)
      exact .stored held
    | unreadable => cases found
    | @answered text reply notHeld named answered =>
      refine .fetched notHeld named answered ?_
      cases isDocument : document depth reply with
      | error failure =>
        rw [isDocument] at found
        cases found
      | ok value =>
        rw [isDocument] at found
        cases value with
        | none => cases found
        | some value =>
          obtain rfl : value = .object members := Except.ok.inj found
          rfl
    | nothing => cases found
    | notText => cases found
  · intro own
    cases own with
    | stored held =>
      rw [keySet_of_stored held]
      rfl
    | fetched notHeld named answered isDocument =>
      rw [keySet_of_answers notHeld named answered, isDocument]
      rfl

end Search

/-- What brings the check of an assertion to fail for a client. -/
inductive AssertionBreakdown (fetch : String -> Reply) (occasion : Occasion) (client : ClientRow)
    (assertion : String) : Failure -> Prop
  /-- The column of the ways to authenticate holds something else than a text. -/
  | method (present : client.authMethod.isVoid = false)
      (notText : ∀ text, client.authMethod ≠ .string text) :
      AssertionBreakdown fetch occasion client assertion .unsupportedKey
  | search {failure : Failure} (registered : client.IsRegisteredFor .privateKey)
      (broken : SearchBreakdown fetch occasion.depth client failure) :
      AssertionBreakdown fetch occasion client assertion failure
  | keySet {members : Members} {failure : Failure}
      (registered : client.IsRegisteredFor .privateKey)
      (own : FindsKeySet fetch occasion.depth client members)
      (present : (claim members "keys").isVoid = false)
      (broken : Key.SetBreakdown members failure) :
      AssertionBreakdown fetch occasion client assertion failure
  | ownKey {members : Members} {keys : List Key} {failure : Failure}
      (registered : client.IsRegisteredFor .privateKey)
      (own : FindsKeySet fetch occasion.depth client members)
      (present : (claim members "keys").isVoid = false)
      (taken : Key.ofSet members = .ok keys)
      (broken : VerificationBreakdown occasion client Algorithm.publicKey
        (fun header => Key.select keys (Assertion.keyIdentifier header)) (fun _ _ => False)
        assertion failure) : AssertionBreakdown fetch occasion client assertion failure
  /-- The header of an assertion is looked at before the secret of the client is read. -/
  | sharedHeader (registered : client.IsRegisteredFor .sharedBearer)
      (nonempty : client.secret.isVoid = false)
      (deep : HeaderTooDeep occasion.depth client assertion) :
      AssertionBreakdown fetch occasion client assertion .tooDeep
  | sharedSecret (registered : client.IsRegisteredFor .sharedBearer)
      (nonempty : client.secret.isVoid = false)
      (fits : FitsAlgorithm occasion.depth client assertion)
      (deep : SharedKey.IsTooDeep occasion.depth client.secret) :
      AssertionBreakdown fetch occasion client assertion .tooDeep
  | sharedKey {shared : SharedKey} {failure : Failure}
      (registered : client.IsRegisteredFor .sharedBearer)
      (nonempty : client.secret.isVoid = false)
      (read : SharedKey.ofSecret occasion.depth client.secret = .ok shared)
      (broken : VerificationBreakdown occasion client Algorithm.sharedSecret shared.keyFor
        shared.NoKey assertion failure) :
      AssertionBreakdown fetch occasion client assertion failure

/-- The failure of an assertion's check is one of form, and so no failure of a store. -/
theorem AssertionBreakdown.mem_formFailures {fetch : String -> Reply} {occasion : Occasion}
    {client : ClientRow} {assertion : String}
    (broken : AssertionBreakdown fetch occasion client assertion failure) :
    failure ∈ formFailures := by
  cases broken with
  | method present notText => simp [formFailures]
  | search registered broken =>
    cases broken with
    | _ => simp [formFailures]
  | keySet registered own present broken => exact broken.mem_formFailures
  | ownKey registered own present taken broken =>
    exact broken.mem_formFailures fun _ _ impossible => impossible.elim
  | sharedHeader registered nonempty deep => simp [formFailures]
  | sharedSecret registered nonempty fits deep => simp [formFailures]
  | sharedKey registered nonempty read broken =>
    exact broken.mem_formFailures fun _ _ missing => missing.mem_formFailures

/-- To be registered for a way to authenticate is to be found registered for it. -/
theorem ofJson?_eq_some {client : ClientRow} {method : AuthMethod} :
    AuthMethod.ofJson? client.authMethod = .ok (some method) ↔ client.IsRegisteredFor method := by
  constructor
  · exact ClientRow.isRegisteredFor_of_ofJson?
  · rintro ⟨text, isText, named⟩
    simp only [AuthMethod.ofJson?, isText, AuthMethod.ofName?, named]
    cases method with
    | _ => rfl

theorem ofJson?_eq_error {stored : Json} :
    AuthMethod.ofJson? stored = .error failure ↔
      (stored.isVoid = false ∧ ∀ text, stored ≠ .string text) ∧ failure = .unsupportedKey := by
  unfold AuthMethod.ofJson?
  split
  · simp
  · next notText =>
    cases void : stored.isVoid with
    | true => simp
    | false => simpa [@eq_comm Failure failure] using fun _ => notText

section Check

variable {occasion : Occasion} {client : ClientRow} {assertion : String}

theorem verifyWithKeySet_eq_error {keySet : Json} :
    verifyWithKeySet occasion client keySet assertion = .error failure ↔
      ∃ members, keySet = .object members ∧ (claim members "keys").isVoid = false ∧
        (Key.SetBreakdown members failure ∨ ∃ keys, Key.ofSet members = .ok keys ∧
          VerificationBreakdown occasion client Algorithm.publicKey
            (fun header => Key.select keys (Assertion.keyIdentifier header)) (fun _ _ => False)
            assertion failure) := by
  have noKey (keys : List Key) (header : Members) (failure : Failure) :
      Key.select keys (Assertion.keyIdentifier header) = .error (.failed failure) ↔ False :=
    iff_of_false Key.select_ne_failed id
  constructor
  · intro failed
    unfold verifyWithKeySet at failed
    split at failed
    · next members =>
      split at failed
      · cases failed
      · next present =>
        have present : (claim members "keys").isVoid = false := by simpa using present
        refine ⟨members, rfl, present, ?_⟩
        obtain failed | ⟨outcome, taken, failed⟩ := bind_eq_error.mp failed
        · exact .inl ((Key.ofSet_eq_failed present).mp (ofFault_eq_error.mp failed))
        · cases outcome with
          | error denial => cases failed
          | ok keys =>
            exact .inr ⟨keys, ofFault_eq_ok taken,
              (verifyAssertion_with_keys_eq_error (noKey keys)).mp failed⟩
    · cases failed
  · rintro ⟨members, rfl, present, broken⟩
    simp only [verifyWithKeySet, present, Bool.false_eq_true, if_false]
    rcases broken with broken | ⟨keys, taken, broken⟩
    · have untaken := (Key.ofSet_eq_failed present).mpr broken
      exact bind_eq_error.mpr (.inl (ofFault_eq_error.mpr untaken))
    · rw [taken]
      exact (verifyAssertion_with_keys_eq_error (noKey keys)).mpr broken

/-- What brings the check of an assertion against a client secret to fail, where this is read. -/
theorem verifyWithSecret_of_read {shared : SharedKey} (nonempty : client.secret.isVoid = false)
    (read : SharedKey.ofSecret occasion.depth client.secret = .ok shared) :
    verifyWithSecret occasion client assertion = .error failure ↔
      VerificationBreakdown occasion client Algorithm.sharedSecret shared.keyFor shared.NoKey
        assertion failure := by
  simp only [verifyWithSecret, nonempty, Bool.false_eq_true, if_false, read, Except.map]
  exact verifyAssertion_with_keys_eq_error fun _ _ => SharedKey.keyFor_eq_failed

/-- What brings the check of an assertion against a client secret to fail, where this is not
read. -/
theorem verifyWithSecret_of_unread {fault : Fault} (nonempty : client.secret.isVoid = false)
    (unread : SharedKey.ofSecret occasion.depth client.secret = .error fault) :
    verifyWithSecret occasion client assertion = .error failure ↔
      HeaderTooDeep occasion.depth client assertion ∧ failure = .tooDeep ∨
        FitsAlgorithm occasion.depth client assertion ∧ fault = .failed failure := by
  simp only [verifyWithSecret, nonempty, Bool.false_eq_true, if_false, unread, Except.map]
  exact verifyAssertion_without_keys_eq_error

/-- A check that was made outside ends a procedure with its failure, and else does not fail. -/
theorem eval_checked_eq_error {α : Type} {checked : Except Failure (Except Denial α)} :
    (do
      let outcome <- Inquiry.ofExcept checked
      return outcome.map fun _ => () : Procedure (Except Denial Unit)).eval surroundings.reply =
        .error failure ↔ checked = .error failure := by
  rw [Inquiry.eval_bind, Inquiry.eval_ofExcept, bind_eq_error]
  refine or_iff_left ?_
  rintro ⟨outcome, _, failed⟩
  cases failed

/-- An assertion of a client that has keys is checked against its key set. -/
theorem check_of_privateKey (registered : client.IsRegisteredFor .privateKey) :
    check occasion client true assertion = (do
      let keySet <- keySet occasion.depth client
      let checked <- Inquiry.ofExcept (verifyWithKeySet occasion client keySet assertion)
      return checked.map fun _ => ()) := by
  simp only [check, ofJson?_eq_some.mpr registered]
  rfl

/-- An assertion of a client that shares its secret is checked against the secret. -/
theorem check_of_sharedBearer (registered : client.IsRegisteredFor .sharedBearer) :
    check occasion client true assertion = (do
      let checked <- Inquiry.ofExcept (verifyWithSecret occasion client assertion)
      return checked.map fun _ => ()) := by
  simp only [check, ofJson?_eq_some.mpr registered]
  rfl

theorem check_privateKey_eq_error (registered : client.IsRegisteredFor .privateKey) :
    (check occasion client true assertion).eval surroundings.reply = .error failure ↔
      SearchBreakdown surroundings.fetch occasion.depth client failure ∨
        ∃ value, (keySet occasion.depth client).eval surroundings.reply = .ok value ∧
          verifyWithKeySet occasion client value assertion = .error failure := by
  rw [check_of_privateKey registered, Inquiry.eval_bind, bind_eq_error, keySet_eq_error]
  simp only [eval_checked_eq_error]

theorem check_sharedBearer_eq_error (registered : client.IsRegisteredFor .sharedBearer) :
    (check occasion client true assertion).eval surroundings.reply = .error failure ↔
      verifyWithSecret occasion client assertion = .error failure := by
  rw [check_of_sharedBearer registered, eval_checked_eq_error]

/-- The check of an assertion against a shared secret fails at its header, at the secret, or with
the key that the secret is. -/
theorem check_sharedBearer_breakdown (registered : client.IsRegisteredFor .sharedBearer)
    (failed : (check occasion client true assertion).eval surroundings.reply = .error failure) :
    AssertionBreakdown surroundings.fetch occasion client assertion failure := by
  rw [check_sharedBearer_eq_error registered] at failed
  cases nonempty : client.secret.isVoid with
  | true =>
    simp only [verifyWithSecret, nonempty, if_true] at failed
    cases failed
  | false =>
    cases read : SharedKey.ofSecret occasion.depth client.secret with
    | ok shared =>
      exact .sharedKey registered nonempty read ((verifyWithSecret_of_read nonempty read).mp failed)
    | error fault =>
      rcases (verifyWithSecret_of_unread nonempty read).mp failed with ⟨deep, rfl⟩ | ⟨fits, rfl⟩
      · exact .sharedHeader registered nonempty deep
      · obtain ⟨deep, rfl⟩ := (SharedKey.ofSecret_eq_failed nonempty).mp read
        exact .sharedSecret registered nonempty fits deep

/-- What brings the check of an assertion to fail for a client, and nothing else does. -/
theorem check_eq_error :
    (check occasion client true assertion).eval surroundings.reply = .error failure ↔
      AssertionBreakdown surroundings.fetch occasion client assertion failure := by
  constructor
  · intro failed
    cases found : AuthMethod.ofJson? client.authMethod with
    | error other =>
      obtain ⟨⟨present, notText⟩, rfl⟩ := ofJson?_eq_error.mp found
      simp only [check, found] at failed
      obtain rfl := Except.error.inj failed
      exact .method present notText
    | ok method =>
      cases method with
      | none =>
        simp only [check, found] at failed
        cases failed
      | some method =>
        have registered := ofJson?_eq_some.mp found
        cases method with
        | privateKey =>
          rcases (check_privateKey_eq_error registered).mp failed with
            broken | ⟨value, isKeySet, failed⟩
          · exact .search registered broken
          · obtain ⟨members, rfl, present, broken | ⟨keys, taken, broken⟩⟩ :=
              verifyWithKeySet_eq_error.mp failed
            · exact .keySet registered (keySet_eq_object.mp isKeySet) present broken
            · exact .ownKey registered (keySet_eq_object.mp isKeySet) present taken broken
        | sharedBearer => exact check_sharedBearer_breakdown registered failed
        | secretBasic =>
          simp only [check, found] at failed
          cases failed
  · intro broken
    cases broken with
    | method present notText =>
      simp only [check, ofJson?_eq_error.mpr ⟨⟨present, notText⟩, rfl⟩]
      rfl
    | search registered broken =>
      exact (check_privateKey_eq_error registered).mpr (.inl broken)
    | keySet registered own present broken =>
      exact (check_privateKey_eq_error registered).mpr (.inr ⟨_, keySet_eq_object.mpr own,
        verifyWithKeySet_eq_error.mpr ⟨_, rfl, present, .inl broken⟩⟩)
    | ownKey registered own present taken broken =>
      exact (check_privateKey_eq_error registered).mpr (.inr ⟨_, keySet_eq_object.mpr own,
        verifyWithKeySet_eq_error.mpr ⟨_, rfl, present, .inr ⟨_, taken, broken⟩⟩⟩)
    | sharedHeader registered nonempty deep =>
      rw [check_sharedBearer_eq_error registered, verifyWithSecret, nonempty]
      exact verifyAssertion_of_header deep
    | sharedSecret registered nonempty fits deep =>
      have unread := (SharedKey.ofSecret_eq_failed nonempty).mpr ⟨deep, rfl⟩
      exact (check_sharedBearer_eq_error registered).mpr
        ((verifyWithSecret_of_unread nonempty unread).mpr (.inr ⟨fits, rfl⟩))
    | sharedKey registered nonempty read broken =>
      exact (check_sharedBearer_eq_error registered).mpr
        ((verifyWithSecret_of_read nonempty read).mpr broken)

end Check

end Credential

end Introspection
