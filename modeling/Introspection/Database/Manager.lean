import Introspection.Database.Engine

/-!
# The keeper of the engine

The engine is made when it is first asked for, and a factory of sessions along with it; both are
kept until the engine is disposed of. The address is asked for each time that an engine is to be
made, and at no other time. When no engine can be made, or the engine cannot be disposed of,
everything stays as it was.
-/

namespace Introspection.Database

/-- Where the address of the database comes from. -/
inductive AddressSource
  | fixed (address : String)
  /-- A function that is called each time; `answer n` is what it gives after `n` earlier calls. -/
  | computed (answer : Nat -> Except Fault String)

/-- What makes sessions on an engine. -/
structure SessionFactory where
  engine : Engine
  autoflush : Bool
  expireOnCommit : Bool
  deriving DecidableEq, Repr

/-- A session that has been opened. -/
structure OpenSession where
  engine : Engine
  autoflush : Bool
  expireOnCommit : Bool
  deriving DecidableEq, Repr

/-- A new session. -/
def SessionFactory.session (factory : SessionFactory) : OpenSession :=
  ⟨factory.engine, factory.autoflush, factory.expireOnCommit⟩

/-- What there is of an engine, and how it came about. -/
structure Manager where
  source : AddressSource
  searchPath : Option String
  /-- How much the engine is to put on record. -/
  echo : Json
  engine : Option Engine
  factory : Option SessionFactory
  /-- How often the function that gives the address has been called. -/
  calls : Nat
  /-- How many engines have been made. -/
  made : Nat

namespace Manager

/-- A manager that has made no engine yet. -/
def new (source : AddressSource) (searchPath : Option String) (echo : Json) : Manager :=
  ⟨source, searchPath, echo, none, none, 0, 0⟩

/-- Whether there is an engine. -/
def isOpen (manager : Manager) : Bool := manager.engine.isSome

/-- Ask for the address. -/
def address (manager : Manager) : Except Fault String × Manager :=
  match manager.source with
  | .fixed address => (.ok address, manager)
  | .computed answer => (answer manager.calls, { manager with calls := manager.calls + 1 })

/-- Make an engine and a factory of sessions for it. -/
def make (manager : Manager) : Except Fault Engine × Manager :=
  match manager.address with
  | (.error fault, manager) => (.error fault, manager)
  | (.ok text, manager) =>
    match Engine.ofText manager.made text manager.echo manager.searchPath with
    | .error fault => (.error fault, manager)
    | .ok engine =>
      (.ok engine, { manager with
        engine := some engine
        factory := some ⟨engine, false, false⟩
        made := manager.made + 1 })

/-- The engine, which is made if there is none. -/
def use (manager : Manager) : Except Fault Engine × Manager :=
  match manager.engine with
  | some engine => (.ok engine, manager)
  | none => manager.make

/-- A new session, from the factory that there is. -/
def sessionHere (manager : Manager) : Except Fault OpenSession × Manager :=
  match manager.factory with
  | some factory => (.ok factory.session, manager)
  | none => (.error .noFactory, manager)

/-- A new session; without a factory the engine is asked for first. -/
def session (manager : Manager) : Except Fault OpenSession × Manager :=
  match manager.factory with
  | some _ => manager.sessionHere
  | none => match manager.use with
    | (.ok _, manager) => manager.sessionHere
    | (.error fault, manager) => (.error fault, manager)

/-- Dispose of the engine if there is one; `disposal` tells whether that succeeds. -/
def close (disposal : Except Fault Unit) (manager : Manager) : Except Fault Unit × Manager :=
  match manager.engine with
  | none => (.ok (), manager)
  | some _ => match disposal with
    | .ok () => (.ok (), { manager with engine := none, factory := none })
    | .error fault => (.error fault, manager)

end Manager

end Introspection.Database
