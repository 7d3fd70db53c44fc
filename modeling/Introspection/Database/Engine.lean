import Introspection.Database.Address
import Introspection.Database.Dialect
import Introspection.Double.Text
import Introspection.Json
import Introspection.Text.Case

/-!
# Engines

An engine is what reaches the database at an address. It can be made if its driver is known, is
installed and does not block; making one opens no connection. Each connection that it opens later
is first told the path on which names are searched, if there is one.
-/

namespace Introspection.Database

/-- Why there is no engine, or no session. -/
inductive Fault
  | badAddress (defect : Address.Defect)
  /-- The part of the address that names the driver has more than two names in it. -/
  | driverNotTwofold
  | unknownDriver
  | unknownPlugin
  /-- What is named as a driver is something else. -/
  | notDriver
  | driverAbsent
  | driverBlocking
  /-- The hosts that the options name and their numbers do not go together. -/
  | badHosts
  | optionMalformed
  /-- An option that has one value was given several, or a value of another kind, or a part that is
  needed was left out. -/
  | optionMismatch
  /-- How much is to be put on record is said by no known word. -/
  | unknownEcho
  /-- The function that gives the address failed. -/
  | noAddress
  /-- There is nothing that makes sessions. -/
  | noFactory
  /-- The engine could not be disposed of. -/
  | notDisposed
  deriving DecidableEq, Repr

/-- What the driver that an address asks for stands for. -/
def Address.driver? (address : Address) : Except Fault Driver :=
  let found (dialect name : String) : Except Fault Driver :=
    match (Dialect.named? dialect).bind (·.driver? name) with
    | some driver => .ok driver
    | none => .error .unknownDriver
  match address.driver.toList.splitOn '+' with
  | [dialect] => found (String.ofList dialect) Dialect.defaultDriver
  | [dialect, name] => found (String.ofList dialect) (String.ofList name)
  | _ => .error .driverNotTwofold

/-- The hosts that the options of an address name, and the texts of their numbers. -/
structure HostOptions where
  hosts : Option (List String) := none
  numbers : Option (List (Option String)) := none
  /-- Whether the hosts carry their numbers with them. -/
  paired : Bool := false

namespace HostOptions

/-- The texts between colons. -/
def pieces (text : String) : List String := (text.toList.splitOn ':').map String.ofList

/-- Whether a text is a host's name of letters, digits, points and hyphens, with digits after a
colon. -/
def isPair (text : String) : Bool :=
  match (text.toList.splitOn ':') with
  | [host, number] =>
    host.all (fun c => c.isAlphanum || c == '-' || c == '.') &&
      (number.all (fun c => (Text.digit? c).isSome))
  | _ => false

/-- The hosts that an option gives which is there several times: each with its number or without
one. What follows a second colon is left out, unless every host has one. -/
def ofSeveral (values : List String) : Except Fault HostOptions :=
  if values.all (fun value => 2 < (pieces value).length) then .error .optionMalformed
  else .ok {
    hosts := some (values.map fun value => (pieces value).headD "")
    numbers := some (values.map fun value => (pieces value)[1]?)
    paired := true }

/-- The hosts that an option gives which is there once: several with commas between them, or one,
which may have its number with it. -/
def ofOne (value : String) : HostOptions :=
  if isPair value then
    let number := (pieces value)[1]?
    { hosts := some ((pieces value).take 1), numbers := some [number], paired := true }
  else { hosts := some ((value.toList.splitOn ',').map String.ofList) }

/-- The hosts that the options of an address name, with the numbers that the options name. -/
def ofAddress (address : Address) : Except Fault HostOptions := do
  let named <- match address.valuesOf "host" with
    | [] => .ok {}
    | [value] => .ok (ofOne value)
    | values => ofSeveral values
  let withNumbers (numbers : List String) : Except Fault HostOptions :=
    if named.paired then .error .badHosts
    else .ok { named with numbers := some (numbers.map some) }
  match address.valuesOf "port" with
  | [] => return named
  | [value] => withNumbers ((value.toList.splitOn ',').map String.ofList)
  | values => withNumbers values

/-- The number that a text spells, if there is one to be read. -/
def numberOf (text : Option String) : Except Fault (Option Int) :=
  match text.getD "" with
  | "" => .ok none
  | text => match Text.integer? text.toList with
    | some number => .ok (some number)
    | none => .error .badHosts

/-- Whether the counts of hosts and of numbers differ where one of them is not one. -/
def disagree (hosts : Option (List String)) (numbers : List (Option Int)) : Bool :=
  match hosts with
  | none => 1 < numbers.length
  | some hosts => hosts.length != numbers.length && (1 < hosts.length || 1 < numbers.length)

/-- The hosts and their numbers. -/
def read (options : HostOptions) : Except Fault (List (String × Option Int)) := do
  let numbers <- (options.numbers.getD []).mapM numberOf
  if options.numbers.isSome && disagree options.hosts numbers then .error .badHosts
  let hosts := options.hosts.getD []
  return hosts.zip (if numbers.isEmpty then hosts.map fun _ => none else numbers)

end HostOptions

/-- Check the hosts: of several none is empty, and each has a number other than zero. -/
def checkHosts (hosts : List (String × Option Int)) : Except Fault Unit :=
  if hosts.length ≤ 1 then .ok ()
  else if hosts.all (fun (host, number) => host ≠ "" && number.getD 0 != 0) then .ok ()
  else .error .badHosts

/-- Check an option that has at most one value. -/
def Address.checkOption (address : Address) (name : String) (isValid : String -> Bool) :
    Except Fault Unit :=
  match address.valuesOf name with
  | [] => .ok ()
  | [value] => if isValid value then .ok () else .error .optionMalformed
  | _ => .error .optionMismatch

/-- Whether a text spells an integer. -/
def spellsInteger (text : String) : Bool := (Text.integer? text.toList).isSome

/-- Check the options of an address for the driver that can be used. -/
def Address.checkRemote (address : Address) : Except Fault Unit := do
  let hosts <- (<- HostOptions.ofAddress address).read
  address.checkOption "prepared_statement_cache_size" spellsInteger
  checkHosts hosts

/-- Whether an address has nothing in it but a file and options. -/
def Address.isLocal (address : Address) : Bool :=
  address.user.getD "" == "" && address.password.getD "" == "" &&
    address.host.isNone && address.portNumber.getD 0 == 0

/-- The truth value that a word of an option stands for. -/
def truthOf? (word : String) : Option Bool :=
  let word := String.ofList (Text.trim (Text.lower word).toList)
  if word ∈ ["true", "yes", "on", "y", "t", "1"] then some true
  else if word ∈ ["false", "no", "off", "n", "f", "0"] then some false
  else none

/-- The options of a local database. -/
def localOptions : List String :=
  ["uri", "timeout", "isolation_level", "detect_types", "check_same_thread", "cached_statements"]

/-- Check an option for a truth value; several values count as true. -/
def Address.checkTruth (address : Address) (name : String) : Except Fault Bool :=
  match address.valuesOf name with
  | [] => .ok false
  | [word] => match truthOf? word with
    | some truth => .ok truth
    | none => .error .optionMalformed
  | _ => .ok true

/-- Check the options of an address for a local database. Options of the file need a file. -/
def Address.checkLocal (address : Address) : Except Fault Unit := do
  if !address.isLocal then .error (.badAddress .malformed)
  let isUri <- address.checkTruth "uri"
  address.checkOption "timeout" fun text => (Double.ofText? (Text.trim text.toList)).isSome
  address.checkOption "detect_types" spellsInteger
  let _ <- address.checkTruth "check_same_thread"
  address.checkOption "cached_statements" spellsInteger
  if isUri && address.database.isNone &&
      !(address.withoutOptions localOptions).options.isEmpty then
    .error .optionMismatch

/-- The address that a text spells, when an engine can be made for it. There are no plugins, so an
address that asks for one cannot be used. -/
def Address.usable (text : String) : Except Fault Address := do
  match Address.ofText text with
  | .error defect => .error (.badAddress defect)
  | .ok address =>
    if !(address.valuesOf "plugin").isEmpty then .error .unknownPlugin
    let address := address.withoutOptions ["plugins"]
    match <- address.driver? with
    | .usable =>
      address.checkRemote
      return address
    | .absent => .error .driverAbsent
    | .noDriver => .error .notDriver
    | .blocking =>
      address.checkLocal
      .error .driverBlocking

/-- How much of what an engine does is put on record. -/
inductive Echo
  | nothing
  | statements
  /-- Statements and what comes of them. -/
  | all
  deriving DecidableEq, Repr

namespace Echo

/-- How much a value asks for: a truth value or a number for one, or a word. -/
def ofJson : Json -> Except Fault Echo
  | .null => .ok .nothing
  | .string word => if word = "debug" then .ok .all else .error .unknownEcho
  | .list _ => .error .optionMismatch
  | .object _ => .error .optionMismatch
  | value =>
    if value.same (.int 0) then .ok .nothing
    else if value.same (.int 1) then .ok .statements
    else .error .unknownEcho

/-- The value that asks for so much. -/
def toJson : Echo -> Json
  | .nothing => .bool false
  | .statements => .bool true
  | .all => .string "debug"

end Echo

/-- What reaches the database. -/
structure Engine where
  /-- How many engines were made before this one. -/
  serial : Nat
  address : Address
  echo : Echo
  searchPath : Option String
  deriving DecidableEq, Repr

/-- The engine for the address that a text spells. -/
def Engine.ofText (serial : Nat) (text : String) (echo : Json) (searchPath : Option String) :
    Except Fault Engine := do
  let address <- Address.usable text
  return ⟨serial, address, <- Echo.ofJson echo, searchPath⟩

/-- The statements that a new connection starts with. The path stands between quotes as it is. -/
def Engine.firstStatements (engine : Engine) : List String :=
  match engine.searchPath with
  | some path => if path.isEmpty then [] else ["SET search_path TO \"" ++ path ++ "\""]
  | none => []

end Introspection.Database
