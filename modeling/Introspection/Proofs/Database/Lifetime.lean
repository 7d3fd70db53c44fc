import Introspection.Database.Manager
import Introspection.Proofs.Database.Objections
import Mathlib.Data.List.Induction

/-!
# The life of an engine

A manager is asked for its engine, for sessions and for the disposal of the engine, in any order.
The function that gives the address may fail or give a text of which no engine can be made, and a
disposal may fail. Through all of this there is one engine at a time, with a factory of sessions on
it, and it is the same engine until it is disposed of (`lawful_after`).

What a request does is told in six cases (`Serves`), of which `Consistent.exists_serves` says that
there are no others. They rest on one invariant, that there is a factory exactly for the engine that
there is. What a whole life keeps beyond that are counts: of the calls of the function, and of the
engines, whose serial numbers tell an engine from those before it (`Accounted`).
-/

namespace Introspection.Database

namespace AddressSource

/-- What is given for an address after some calls. -/
def answer : AddressSource -> Nat -> Except Fault String
  | .fixed address, _ => .ok address
  | .computed answer, calls => answer calls

/-- How many calls it takes to ask for the address. -/
def cost : AddressSource -> Nat
  | .fixed _ => 0
  | .computed _ => 1

end AddressSource

namespace Manager

/-- What an engine is asked for: to be given itself, or for a session on it. -/
inductive Use
  | engine
  | session

/-- What a manager is asked for. How a disposal ends that is tried is up to the engine. -/
inductive Request
  | use (use : Use)
  | close (disposal : Except Fault Unit)

/-- Whether an engine is needed. -/
def Request.isUse : Request -> Bool
  | .use _ => true
  | .close _ => false

/-- What comes of a request. -/
inductive Reply
  | engine (given : Except Fault Engine)
  | session (opened : Except Fault OpenSession)
  | closed (ended : Except Fault Unit)

namespace Reply

/-- The engine that was given, or that the session is on. -/
def engine? : Reply -> Option Engine
  | .engine given => given.toOption
  | .session opened => opened.toOption.map (·.engine)
  | .closed _ => none

/-- Whether an engine was needed and there was none. -/
def isRefusal : Reply -> Bool
  | .engine (.error _) => true
  | .session (.error _) => true
  | _ => false

/-- Whether what was asked for was not done. -/
def isFailure : Reply -> Bool
  | .closed (.error _) => true
  | reply => reply.isRefusal

end Reply

/-- The factory of sessions on an engine. -/
def factoryFor (engine : Engine) : SessionFactory := ⟨engine, false, false⟩

/-- What comes of a use, from what comes of the engine. -/
def Use.reply : Use -> Except Fault Engine -> Reply
  | .engine, given => .engine given
  | .session, given => .session (given.map fun engine => (factoryFor engine).session)

/-- Do what a manager is asked for. -/
def serve (manager : Manager) : Request -> Reply × Manager
  | .use .engine => let (given, next) := manager.use; (.engine given, next)
  | .use .session => let (opened, next) := manager.session; (.session opened, next)
  | .close disposal => let (ended, next) := manager.close disposal; (.closed ended, next)

/-- What a manager has come to after some requests. -/
def after (manager : Manager) (requests : List Request) : Manager :=
  requests.foldl (fun manager request => (manager.serve request).2) manager

/-- What comes of some requests, one after the other. -/
def replies : Manager -> List Request -> List Reply
  | _, [] => []
  | manager, request :: rest =>
    (manager.serve request).1 :: (manager.serve request).2.replies rest

variable {start manager next : Manager} {request : Request} {reply : Reply} {engine : Engine}
variable {fault : Fault}

section Replies

variable (use : Use) (engine : Engine) (fault : Fault)

@[simp] theorem engine?_reply_ok : (use.reply (.ok engine)).engine? = some engine := by
  cases use <;> rfl

@[simp] theorem engine?_reply_error : (use.reply (.error fault)).engine? = none := by
  cases use <;> rfl

@[simp] theorem isRefusal_reply_ok : (use.reply (.ok engine)).isRefusal = false := by
  cases use <;> rfl

@[simp] theorem isRefusal_reply_error : (use.reply (.error fault)).isRefusal = true := by
  cases use <;> rfl

@[simp] theorem isFailure_reply_ok : (use.reply (.ok engine)).isFailure = false := by
  cases use <;> rfl

theorem closed_ne_reply (given : Except Fault Engine) (ended : Except Fault Unit) :
    .closed ended ≠ use.reply given := by
  cases use <;> nofun

end Replies

section Making

/-- What comes of it when an engine is to be made. -/
def attempt (manager : Manager) : Except Fault Engine :=
  manager.source.answer manager.calls >>= fun text =>
    Engine.ofText manager.made text manager.echo manager.searchPath

/-- The manager once it has asked for the address. -/
def asked (manager : Manager) : Manager :=
  { manager with calls := manager.calls + manager.source.cost }

/-- The manager with an engine that has just been made. -/
def holding (manager : Manager) (engine : Engine) : Manager :=
  { manager with
    engine := some engine
    factory := some (factoryFor engine)
    made := manager.made + 1 }

/-- What the manager comes to when an engine is to be made. -/
def attempted (manager : Manager) : Manager :=
  match manager.attempt with
  | .ok engine => manager.asked.holding engine
  | .error _ => manager.asked

/-- The manager without an engine. -/
def vacated (manager : Manager) : Manager := { manager with engine := none, factory := none }

theorem address_eq : manager.address = (manager.source.answer manager.calls, manager.asked) := by
  obtain ⟨source, _, _, _, _, _, _⟩ := manager
  cases source with
  | fixed address => rfl
  | computed answer => rfl

theorem attempted_of_ok (made : manager.attempt = .ok engine) :
    manager.attempted = manager.asked.holding engine := by
  rw [attempted, made]

theorem attempted_of_error (refused : manager.attempt = .error fault) :
    manager.attempted = manager.asked := by
  rw [attempted, refused]

theorem make_eq : manager.make = (manager.attempt, manager.attempted) := by
  cases outcome : manager.attempt with
  | ok engine =>
    rw [attempted_of_ok outcome]
    obtain ⟨text, isText, isEngine⟩ := bind_eq_ok.mp outcome
    simp only [make, address_eq, isText, asked, isEngine]
    rfl
  | error fault =>
    rw [attempted_of_error outcome]
    rcases bind_eq_error.mp outcome with unanswered | ⟨text, isText, refused⟩
    · simp only [make, address_eq, unanswered]
    · simp only [make, address_eq, isText, asked, refused]

/-- An engine is numbered by how many were made before it. -/
theorem serial_of_attempt (made : manager.attempt = .ok engine) :
    engine.serial = manager.made := by
  obtain ⟨text, _, isEngine⟩ := bind_eq_ok.mp made
  obtain ⟨address, _, isEngine⟩ := bind_eq_ok.mp isEngine
  obtain ⟨echo, _, isEngine⟩ := bind_eq_ok.mp isEngine
  obtain rfl := Except.ok.inj isEngine
  rfl

theorem use_of_held (held : manager.engine = some engine) :
    manager.use = (.ok engine, manager) := by
  simp only [use, held]

theorem use_of_vacant (vacant : manager.engine = none) :
    manager.use = (manager.attempt, manager.attempted) := by
  simp only [use, vacant, make_eq]

end Making

/-- What a request does: what comes of it, and what the manager comes to. -/
inductive Serves (manager : Manager) : Request -> Reply -> Manager -> Prop
  | held {engine : Engine} (use : Use) (held : manager.engine = some engine) :
      Serves manager (.use use) (use.reply (.ok engine)) manager
  | made {engine : Engine} (use : Use) (vacant : manager.engine = none)
      (made : manager.attempt = .ok engine) :
      Serves manager (.use use) (use.reply (.ok engine)) (manager.asked.holding engine)
  | refused {fault : Fault} (use : Use) (vacant : manager.engine = none)
      (refused : manager.attempt = .error fault) :
      Serves manager (.use use) (use.reply (.error fault)) manager.asked
  | idle (disposal : Except Fault Unit) (vacant : manager.engine = none) :
      Serves manager (.close disposal) (.closed (.ok ())) manager
  | disposed {engine : Engine} (held : manager.engine = some engine) :
      Serves manager (.close (.ok ())) (.closed (.ok ())) manager.vacated
  | kept {engine : Engine} {fault : Fault} (held : manager.engine = some engine) :
      Serves manager (.close (.error fault)) (.closed (.error fault)) manager

/-- There is a factory for the engine that there is, and no other. -/
def Consistent (manager : Manager) : Prop := manager.factory = manager.engine.map factoryFor

namespace Consistent

theorem engine_eq_none_iff (consistent : manager.Consistent) :
    manager.engine = none ↔ manager.factory = none := by
  rw [consistent, Option.map_eq_none_iff]

/-- A session is opened on the engine that would be given, and refused as that would be. -/
theorem session_eq (consistent : manager.Consistent) :
    manager.session = (manager.use.1.map fun engine => (factoryFor engine).session,
      manager.use.2) := by
  cases held : manager.engine with
  | some engine =>
    rw [Consistent, held] at consistent
    simp only [session, sessionHere, consistent, use_of_held held]
    rfl
  | none =>
    rw [Consistent, held] at consistent
    simp only [session, consistent, use_of_vacant held]
    cases outcome : manager.attempt with
    | ok engine =>
      rw [attempted_of_ok outcome]
      rfl
    | error fault => rfl

/-- A session is refused where no engine can be made. -/
theorem session_eq_error (consistent : manager.Consistent)
    (refused : manager.session.1 = .error fault) :
    manager.engine = none ∧ manager.attempt = .error fault := by
  rw [consistent.session_eq] at refused
  cases held : manager.engine with
  | some engine =>
    rw [use_of_held held] at refused
    cases refused
  | none =>
    rw [use_of_vacant held] at refused
    cases outcome : manager.attempt with
    | ok engine =>
      rw [outcome] at refused
      cases refused
    | error other =>
      rw [outcome] at refused
      obtain rfl := Except.error.inj refused
      exact ⟨rfl, rfl⟩

theorem serve_use (consistent : manager.Consistent) (use : Use) :
    manager.serve (.use use) = (use.reply manager.use.1, manager.use.2) := by
  cases use with
  | engine => rfl
  | session =>
    simp only [serve, consistent.session_eq]
    rfl

/-- Where there is no engine, the reply to a use is what comes of making one. -/
theorem reply_of_vacant (consistent : manager.Consistent) (vacant : manager.engine = none)
    (use : Use) : (manager.serve (.use use)).1 = use.reply manager.attempt := by
  rw [consistent.serve_use, use_of_vacant vacant]

/-- Each request does what one of the six cases says. -/
theorem exists_serves (consistent : manager.Consistent) (request : Request) :
    ∃ reply next, manager.serve request = (reply, next) ∧
      manager.Serves request reply next := by
  cases request with
  | use use =>
    rw [consistent.serve_use]
    refine ⟨_, _, rfl, ?_⟩
    cases held : manager.engine with
    | some engine =>
      rw [use_of_held held]
      exact .held use held
    | none =>
      rw [use_of_vacant held]
      cases outcome : manager.attempt with
      | ok engine =>
        rw [attempted_of_ok outcome]
        exact .made use held outcome
      | error fault =>
        rw [attempted_of_error outcome]
        exact .refused use held outcome
  | close disposal =>
    cases held : manager.engine with
    | none => exact ⟨_, _, by simp only [serve, close, held], .idle disposal held⟩
    | some engine =>
      cases disposal with
      | ok _ =>
        simp only [serve, close, held]
        exact ⟨_, _, rfl, .disposed held⟩
      | error fault => exact ⟨_, _, by simp only [serve, close, held], .kept held⟩

end Consistent

namespace Serves

variable (served : manager.Serves request reply next)
include served

theorem consistent (consistent : manager.Consistent) : next.Consistent := by
  cases served with
  | made use vacant made => rfl
  | disposed held => rfl
  | _ => exact consistent

/-- What engines are made from stays the same. -/
theorem settings :
    next.source = manager.source ∧ next.searchPath = manager.searchPath ∧
      next.echo = manager.echo := by
  cases served <;> exact ⟨rfl, rfl, rfl⟩

/-- The function that gives the address is called where an engine is needed and there is none. -/
theorem calls_eq :
    next.calls =
      manager.calls +
        if request.isUse ∧ manager.engine = none then manager.source.cost else 0 := by
  cases served with
  | held use held => simp [held]
  | made use vacant made => simp [vacant, Request.isUse, asked, holding]
  | refused use vacant refused => simp [vacant, Request.isUse, asked]
  | idle disposal vacant => simp [Request.isUse]
  | disposed held => simp [Request.isUse, vacated]
  | kept held => simp [Request.isUse]

/-- For each call there is an engine that was made by it, or a refusal. -/
theorem calls_count :
    next.calls + manager.source.cost * manager.made =
      manager.calls + manager.source.cost * (next.made + [reply].countP Reply.isRefusal) := by
  cases served with
  | held use held => simp
  | made use vacant made =>
    simp [asked, holding, Nat.mul_add]
    omega
  | refused use vacant refused =>
    simp [asked, Nat.mul_add]
    omega
  | idle disposal vacant => simp [Reply.isRefusal]
  | disposed held => simp [Reply.isRefusal, vacated]
  | kept held => simp [Reply.isRefusal]

theorem made_le : manager.made ≤ next.made := by
  cases served with
  | made use vacant made => exact Nat.le_succ _
  | _ => exact Nat.le_refl _

/-- An engine that is given is the one that there is then. -/
theorem engine_of_given (given : reply.engine? = some engine) : next.engine = some engine := by
  cases served with
  | held use held => rwa [engine?_reply_ok, ← held] at given
  | made use vacant made => rwa [engine?_reply_ok] at given
  | refused use vacant refused => simp at given
  | idle disposal vacant => cases given
  | disposed held => cases given
  | kept held => cases given

/-- Failures leave the manager as it was, but that the function may have been called. -/
theorem eq_of_isFailure (failed : reply.isFailure) :
    next = { manager with calls := next.calls } := by
  cases served with
  | made use vacant made => simp at failed
  | disposed held => cases failed
  | _ => rfl

/-- A disposal that succeeds leaves no engine. -/
theorem vacant_of_closed (closed : reply = .closed (.ok ())) : next.engine = none := by
  cases served with
  | idle disposal vacant => exact vacant
  | disposed held => rfl
  | held use held => exact absurd closed.symm (closed_ne_reply use _ _)
  | made use vacant made => exact absurd closed.symm (closed_ne_reply use _ _)
  | refused use vacant refused => exact absurd closed.symm (closed_ne_reply use _ _)
  | kept held => cases closed

end Serves

/-- The engine that there is, if there is one, is none of the first engines, and neither will the
next one be. -/
structure IsFrom (first : Nat) (manager : Manager) : Prop where
  next : first ≤ manager.made
  present (engine : Engine) : manager.engine = some engine -> first ≤ engine.serial

theorem Serves.isFrom {first : Nat} (served : manager.Serves request reply next)
    (isFrom : manager.IsFrom first) : next.IsFrom first := by
  refine ⟨Nat.le_trans isFrom.next served.made_le, fun engine held => ?_⟩
  cases served with
  | made use vacant made =>
    obtain rfl := Option.some.inj held
    exact (serial_of_attempt made).symm ▸ isFrom.next
  | disposed held => cases held
  | _ => exact isFrom.present engine held

section Histories

theorem after_cons (served : manager.serve request = (reply, next)) (rest : List Request) :
    manager.after (request :: rest) = next.after rest := by
  simp [after, served]

theorem replies_cons (served : manager.serve request = (reply, next)) (rest : List Request) :
    manager.replies (request :: rest) = reply :: next.replies rest := by
  simp [replies, served]

theorem after_concat (past : List Request) (request : Request) :
    manager.after (past ++ [request]) = ((manager.after past).serve request).2 := by
  simp [after]

theorem replies_concat (past : List Request) (request : Request) :
    manager.replies (past ++ [request]) =
      manager.replies past ++ [((manager.after past).serve request).1] := by
  induction past generalizing manager with
  | nil => rfl
  | cons first rest ih => exact congrArg _ ih

/-- Whatever is asked for next, none of the first engines comes back. -/
theorem IsFrom.after {first : Nat} (consistent : manager.Consistent)
    (isFrom : manager.IsFrom first) (requests : List Request) :
    (manager.after requests).Consistent ∧ (manager.after requests).IsFrom first := by
  induction requests generalizing manager with
  | nil => exact ⟨consistent, isFrom⟩
  | cons request rest ih =>
    obtain ⟨reply, next, isNext, served⟩ := consistent.exists_serves request
    rw [after_cons isNext]
    exact ih (served.consistent consistent) (served.isFrom isFrom)

/-- While no disposal succeeds, the engine stays. Once one has, it does not come back. -/
theorem after_of_held (consistent : manager.Consistent) (held : manager.engine = some engine)
    (requests : List Request) :
    (.closed (.ok ()) ∉ manager.replies requests ∧ manager.after requests = manager) ∨
      (.closed (.ok ()) ∈ manager.replies requests ∧ (manager.after requests).Consistent ∧
        (manager.after requests).IsFrom manager.made) := by
  induction requests with
  | nil => exact .inl ⟨List.not_mem_nil, rfl⟩
  | cons request rest ih =>
    obtain ⟨reply, next, isNext, served⟩ := consistent.exists_serves request
    rw [after_cons isNext, replies_cons isNext, List.mem_cons]
    cases served with
    | held use _ => simpa only [closed_ne_reply, false_or] using ih
    | made use vacant _ => exact absurd (held.symm.trans vacant) nofun
    | refused use vacant _ => exact absurd (held.symm.trans vacant) nofun
    | idle disposal vacant => exact absurd (held.symm.trans vacant) nofun
    | kept _ => simpa using ih
    | disposed _ =>
      have isFrom : manager.vacated.IsFrom manager.made := ⟨Nat.le_refl _, nofun⟩
      have consistent : manager.vacated.Consistent := rfl
      exact .inr ⟨.inl rfl, isFrom.after consistent rest⟩

end Histories

/-- What a manager has come to by requests that had these replies, since it was as it was at the
start. -/
structure Accounted (start : Manager) (given : List Reply) (manager : Manager) : Prop where
  consistent : manager.Consistent
  source : manager.source = start.source
  searchPath : manager.searchPath = start.searchPath
  echo : manager.echo = start.echo
  /-- The engine that there is and those that were given are among the first ones. -/
  present (engine : Engine) : manager.engine = some engine -> engine.serial < manager.made
  earlier (reply : Reply) (engine : Engine) : reply ∈ given -> reply.engine? = some engine ->
    engine.serial < manager.made
  /-- For each call of the function there is an engine or a refusal. -/
  calls : manager.calls = start.source.cost * (manager.made + given.countP Reply.isRefusal)

namespace Accounted

variable {given : List Reply}

theorem new (source : AddressSource) (searchPath : Option String) (echo : Json) :
    Accounted (.new source searchPath echo) [] (.new source searchPath echo) where
  consistent := rfl
  source := rfl
  searchPath := rfl
  echo := rfl
  present _ held := by cases held
  earlier _ _ member := by cases member
  calls := by simp [Manager.new]

/-- An engine that there is after a request is among the engines that were made. -/
theorem present_next (accounted : Accounted start given manager)
    (served : manager.Serves request reply next) (held : next.engine = some engine) :
    engine.serial < next.made := by
  cases served with
  | made use vacant made =>
    obtain rfl := Option.some.inj held
    exact (serial_of_attempt made).symm ▸ Nat.lt_succ_self _
  | disposed _ => cases held
  | _ => exact accounted.present engine held

/-- One more request keeps it so. -/
theorem serve (accounted : Accounted start given manager)
    (served : manager.Serves request reply next) : Accounted start (given ++ [reply]) next where
  consistent := served.consistent accounted.consistent
  source := served.settings.1.trans accounted.source
  searchPath := served.settings.2.1.trans accounted.searchPath
  echo := served.settings.2.2.trans accounted.echo
  present _ held := accounted.present_next served held
  earlier other engine member gave := by
    rcases List.mem_append.mp member with before | last
    · exact Nat.lt_of_lt_of_le (accounted.earlier other engine before gave) served.made_le
    · obtain rfl := List.mem_singleton.mp last
      exact accounted.present_next served (served.engine_of_given gave)
  calls := by
    have counted := served.calls_count
    rw [accounted.source, accounted.calls] at counted
    rw [List.countP_append]
    simp only [Nat.mul_add] at counted ⊢
    omega

/-- Whatever the requests are, it is so. -/
theorem after (accounted : Accounted start [] start) (past : List Request) :
    Accounted start (start.replies past) (start.after past) := by
  induction past using List.reverseRecOn with
  | nil => exact accounted
  | append_singleton before request kept =>
    obtain ⟨reply, next, isNext, served⟩ := kept.consistent.exists_serves request
    rw [after_concat, replies_concat, isNext]
    exact kept.serve served

end Accounted

/-- How a manager stands that was asked for some things since the start, and how it serves what it
is asked for next. -/
structure Lawful (start : Manager) (past : List Request) (manager : Manager) : Prop where
  /-- There is an engine exactly if there is a factory. -/
  together : manager.engine = none ↔ manager.factory = none
  /-- Where an engine is given there is a factory for it. -/
  furnished (engine : Engine) (next : Manager) :
    manager.use = (.ok engine, next) -> next.factory = some (factoryFor engine)
  /-- Therefore a session is opened on the engine that would be given, and refused as that would
  be. -/
  opened : manager.session =
    (manager.use.1.map fun engine => (factoryFor engine).session, manager.use.2)
  /-- It is not refused for want of a factory, unless that is how the function for the address
  fails. -/
  supplied : manager.session.1 = .error .noFactory ->
    manager.engine = none ∧ start.source.answer manager.calls = .error .noFactory
  /-- The function is called once where an engine is needed and there is none, and at no other
  time. -/
  calls (request : Request) : (manager.serve request).2.calls =
    manager.calls + if request.isUse ∧ manager.engine = none then start.source.cost else 0
  /-- Thus it has been called once for each engine that was made and each refusal. -/
  total : manager.calls =
    start.source.cost * (manager.made + (start.replies past).countP Reply.isRefusal)
  /-- A failure leaves everything as it was, but that the function may have been called. -/
  unchanged (request : Request) : (manager.serve request).1.isFailure ->
    (manager.serve request).2 = { manager with calls := (manager.serve request).2.calls }
  /-- Where there is no engine, it depends on the next address alone whether one is made, whatever
  was refused before. -/
  attempted (use : Use) : manager.engine = none -> (manager.serve (.use use)).1 =
    use.reply (start.source.answer manager.calls >>= fun text =>
      Engine.ofText manager.made text start.echo start.searchPath)
  /-- That is an engine which was not given before. -/
  fresh (use : Use) (engine : Engine) : manager.engine = none ->
    (manager.serve (.use use)).1.engine? = some engine ->
      ∀ reply ∈ start.replies past, ∀ earlier, reply.engine? = some earlier ->
        earlier.serial ≠ engine.serial
  /-- A disposal that succeeds leaves no engine. -/
  disposed (disposal : Except Fault Unit) :
    (manager.serve (.close disposal)).1 = .closed (.ok ()) ->
      (manager.serve (.close disposal)).2.engine = none
  /-- Two uses are of the same engine exactly if no disposal between them succeeds. -/
  shared (first last : Use) (between : List Request) (engine other : Engine) :
    (manager.serve (.use first)).1.engine? = some engine ->
      (((manager.serve (.use first)).2.after between).serve (.use last)).1.engine? = some other ->
        (engine = other ↔ .closed (.ok ()) ∉ (manager.serve (.use first)).2.replies between)

namespace Accounted

variable {given : List Reply}

theorem attempt_eq (accounted : Accounted start given manager) :
    manager.attempt = start.source.answer manager.calls >>= fun text =>
      Engine.ofText manager.made text start.echo start.searchPath := by
  rw [attempt, accounted.source, accounted.searchPath, accounted.echo]

/-- Where an engine is given there is a factory for it. -/
theorem factory_of_use (accounted : Accounted start given manager)
    (used : manager.use = (.ok engine, next)) : next.factory = some (factoryFor engine) := by
  obtain ⟨reply, after, isNext, served⟩ := accounted.consistent.exists_serves (.use .engine)
  obtain ⟨rfl, rfl⟩ : .engine (.ok engine) = reply ∧ next = after := by
    simpa [Manager.serve, used] using isNext
  have held := served.engine_of_given rfl
  rw [served.consistent accounted.consistent, held]
  rfl

/-- No engine is made for want of an address, or for what it was to be made of. -/
theorem attempt_eq_error (accounted : Accounted start given manager)
    (refused : manager.attempt = .error fault) :
    start.source.answer manager.calls = .error fault ∨ fault.IsObjection := by
  rw [accounted.attempt_eq] at refused
  rcases bind_eq_error.mp refused with unanswered | ⟨text, _, objected⟩
  · exact .inl unanswered
  · exact .inr (isObjection_of_ofText objected)

/-- No session is refused for want of a factory, unless that is how the function for the address
fails. -/
theorem supplied (accounted : Accounted start given manager)
    (wants : manager.session.1 = .error .noFactory) :
    manager.engine = none ∧ start.source.answer manager.calls = .error .noFactory := by
  obtain ⟨vacant, refused⟩ := accounted.consistent.session_eq_error wants
  rcases accounted.attempt_eq_error refused with unanswered | objection
  · exact ⟨vacant, unanswered⟩
  · exact objection.elim

/-- Where there is no engine, none comes back. -/
theorem fresh (accounted : Accounted start given manager) (vacant : manager.engine = none)
    {use : Use} (gave : (manager.serve (.use use)).1.engine? = some engine) :
    ∀ reply ∈ given, ∀ earlier, reply.engine? = some earlier -> earlier.serial ≠ engine.serial := by
  intro reply member earlier gaveEarlier
  have before := accounted.earlier reply earlier member gaveEarlier
  rw [accounted.consistent.reply_of_vacant vacant] at gave
  cases outcome : manager.attempt with
  | error fault => simp [outcome] at gave
  | ok made =>
    rw [outcome, engine?_reply_ok] at gave
    obtain rfl := Option.some.inj gave
    rw [serial_of_attempt outcome]
    exact Nat.ne_of_lt before

/-- Two uses are of the same engine exactly if no disposal between them succeeds. -/
theorem same_engine_iff (accounted : Accounted start given manager) {first last : Use}
    {between : List Request} {other : Engine}
    (gave : (manager.serve (.use first)).1.engine? = some engine)
    (gaveOther :
      (((manager.serve (.use first)).2.after between).serve (.use last)).1.engine? = some other) :
    engine = other ↔ .closed (.ok ()) ∉ (manager.serve (.use first)).2.replies between := by
  obtain ⟨reply, next, isNext, served⟩ := accounted.consistent.exists_serves (.use first)
  rw [isNext] at gave gaveOther ⊢
  have kept := accounted.serve served
  have held := served.engine_of_given gave
  rcases after_of_held kept.consistent held between with
    ⟨undisposed, same⟩ | ⟨closed, later, isFrom⟩
  · rw [same, kept.consistent.serve_use, use_of_held held, engine?_reply_ok] at gaveOther
    exact iff_of_true (Option.some.inj gaveOther) undisposed
  · obtain ⟨lastReply, final, isLast, servedLast⟩ := later.exists_serves (.use last)
    rw [isLast] at gaveOther
    have isLater := (servedLast.isFrom isFrom).present other (servedLast.engine_of_given gaveOther)
    refine iff_of_false ?_ (not_not_intro closed)
    rintro rfl
    exact absurd (kept.present engine held) (Nat.not_lt.mpr isLater)

end Accounted

/-- Whatever a new manager has been asked for, with whatever success, it stands and goes on
lawfully. -/
theorem lawful_after (source : AddressSource) (searchPath : Option String) (echo : Json)
    (past : List Request) :
    let start := new source searchPath echo
    Lawful start past (start.after past) := by
  intro start
  have accounted := (Accounted.new source searchPath echo).after past
  have consistent := accounted.consistent
  have serves := consistent.exists_serves
  generalize start.after past = manager at *
  refine ⟨consistent.engine_eq_none_iff, fun _ _ => accounted.factory_of_use, consistent.session_eq,
    accounted.supplied, ?calls, accounted.calls, ?unchanged, ?attempted,
    fun _ _ vacant => accounted.fresh vacant, ?disposed, fun _ _ _ _ _ => accounted.same_engine_iff⟩
  case calls =>
    intro request
    obtain ⟨reply, next, isNext, served⟩ := serves request
    rw [isNext, ← accounted.source]
    exact served.calls_eq
  case unchanged =>
    intro request failed
    obtain ⟨reply, next, isNext, served⟩ := serves request
    rw [isNext] at failed ⊢
    exact served.eq_of_isFailure failed
  case attempted =>
    intro use vacant
    rw [consistent.reply_of_vacant vacant, accounted.attempt_eq]
  case disposed =>
    intro disposal closed
    obtain ⟨reply, next, isNext, served⟩ := serves (.close disposal)
    rw [isNext] at closed ⊢
    exact served.vacant_of_closed closed

/-- The function fails at first. Then there is an engine, which outlives a disposal that fails, and
after one that does not there is another. -/
example :
    let start := new (.computed fun calls =>
      if calls = 0 then .error .noAddress else .ok "postgresql+asyncpg://h/d") none .null
    (start.replies [.use .session, .use .session, .close (.error .notDisposed), .use .engine,
      .close (.ok ()), .use .session]).map (fun reply => reply.engine?.map (·.serial)) =
        [none, some 0, none, some 0, none, some 1] := by
  decide +kernel

end Manager

end Introspection.Database
