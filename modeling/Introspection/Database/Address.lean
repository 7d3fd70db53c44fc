import Introspection.Percent
import Introspection.Text.Integer
import Introspection.Text.Word

/-!
# Database addresses

An address names a driver, and after `://` optionally an account, a host and the number it listens
at, a database, and options for the connection. The account ends at an at sign; its password may
contain what divides the other parts. What follows a well-formed address is ignored.

An address is shown without its password.
-/

namespace Introspection.Database

/-- Where a database is and how it is reached. -/
structure Address where
  driver : String
  user : Option String
  password : Option String
  host : Option String
  portNumber : Option Int
  database : Option String
  /-- Options for the connection, in the order of their names. -/
  options : List (String × String)
  deriving DecidableEq, Repr

namespace Address

/-- Why a text is not an address. -/
inductive Defect
  | malformed
  | numberMalformed
  | numberMissing
  deriving DecidableEq, Repr

/-- A character of the name of a driver. -/
def isDriverChar (c : Char) : Bool := Text.isWordChar c || c == '+'

/-- The name of a driver and the text after the mark that ends it. -/
def readDriver? (text : List Char) : Option (List Char × List Char) :=
  let name := text.takeWhile isDriverChar
  match text.dropWhile isDriverChar with
  | ':' :: '/' :: '/' :: rest => if name.isEmpty then none else some (name, rest)
  | _ => none

/-- The text before the last mark in it and the text after that. -/
def splitLast? (mark : Char) (text : List Char) : Option (List Char × List Char) :=
  match text.reverse.dropWhile (· ≠ mark) with
  | _ :: before => some (before.reverse, (text.reverse.takeWhile (· ≠ mark)).reverse)
  | [] => none

/-- The user and password before an at sign, and the text after it. -/
def readAccount (text : List Char) : Option (List Char) × Option (List Char) × List Char :=
  let user := text.takeWhile (fun c => c ≠ ':' ∧ c ≠ '/')
  let rest := text.dropWhile (fun c => c ≠ ':' ∧ c ≠ '/')
  let withoutPassword := match splitLast? '@' user with
    | some (user, host) => (some user, none, host ++ rest)
    | none => (none, none, text)
  match rest with
  | ':' :: password => match password.dropWhile (· ≠ '@') with
    | _ :: rest => (some user, some (password.takeWhile (· ≠ '@')), rest)
    | [] => withoutPassword
  | _ => withoutPassword

/-- The host, between brackets or not, and the text after it. -/
def readHost (text : List Char) : Option (List Char) × List Char :=
  let host := text.takeWhile (fun c => c ≠ '/' ∧ c ≠ ':' ∧ c ≠ '?')
  let rest := text.dropWhile (fun c => c ≠ '/' ∧ c ≠ ':' ∧ c ≠ '?')
  let plain := if host.isEmpty then (none, text) else (some host, rest)
  match text with
  | '[' :: inner =>
    let run := inner.takeWhile (fun c => c ≠ '/' ∧ c ≠ '?')
    match splitLast? ']' run with
    | some (c :: host, after) =>
      (some (c :: host), after ++ inner.dropWhile (fun c => c ≠ '/' ∧ c ≠ '?'))
    | _ => plain
  | _ => plain

/-- What follows a mark up to a character that ends it, and the text after that. -/
def readMarked (mark : Char) (ends : Char -> Bool) (text : List Char) :
    Option (List Char) × List Char :=
  match text with
  | c :: rest =>
    if c = mark then (some (rest.takeWhile (fun c => !ends c)), rest.dropWhile (fun c => !ends c))
    else (none, text)
  | [] => (none, [])

/-- The number that the text after a colon spells. -/
def portNumberOf : Option (List Char) -> Except Defect (Option Int)
  | none => .ok none
  | some text =>
    if text.isEmpty then .error .numberMissing
    else match Text.integer? text with
      | some number => .ok (some number)
      | none => .error .numberMalformed

/-- The options of a query: those that have a value, in the order of their names. -/
def optionsOf (query : List Char) : List (String × String) :=
  ((Percent.pairs query).filter (fun pair => !pair.2.isEmpty)).mergeSort (fun a b => a.1 ≤ b.1)

/-- The address that a text spells. -/
def ofText (text : String) : Except Defect Address := do
  match readDriver? text.toList with
  | none => .error .malformed
  | some (driver, text) =>
    let (user, password, text) := readAccount text
    let (host, text) := readHost text
    let (number, text) := readMarked ':' (fun c => c == '/' || c == '?') text
    let (database, text) := readMarked '/' (· == '?') text
    let (query, _) := readMarked '?' (· == '\n') text
    return {
      driver := String.ofList driver
      user := user.map Percent.decode
      password := password.map Percent.decode
      host := host.map String.ofList
      portNumber := <- portNumberOf number
      database := database.map Percent.decode
      options := (query.map optionsOf).getD [] }

/-- The values of an option, in the order in which they were given. -/
def valuesOf (address : Address) (name : String) : List String :=
  (address.options.filter (·.1 == name)).map (·.2)

/-- The address without some of its options. -/
def withoutOptions (address : Address) (names : List String) : Address :=
  { address with options := address.options.filter fun pair => !names.contains pair.1 }

/-- A name or value of an option; a space is written as a plus sign. -/
def optionText (text : String) : String :=
  String.ofList ((Percent.encode [' '] text).toList.map fun c => if c = ' ' then '+' else c)

/-- The account as it is shown. -/
def accountText (address : Address) : String :=
  match address.user with
  | none => ""
  | some user =>
    Percent.encode [' ', '+'] user ++ (if address.password.isSome then ":***" else "") ++ "@"

/-- The host as it is shown: between brackets when it has a colon. -/
def hostText (address : Address) : String :=
  match address.host with
  | none => ""
  | some host => if ':' ∈ host.toList then "[" ++ host ++ "]" else host

/-- The database as it is shown. -/
def databaseText (address : Address) : String :=
  match address.database with
  | none => ""
  | some database => "/" ++ Percent.encode [' ', '+', '/'] database

/-- The options as they are shown. -/
def optionsText (address : Address) : String :=
  if address.options.isEmpty then ""
  else "?" ++ ("&").intercalate
    (address.options.map fun (name, value) => optionText name ++ "=" ++ optionText value)

/-- The address with its password hidden. -/
def shown (address : Address) : String :=
  address.driver ++ "://" ++ address.accountText ++ address.hostText ++
    (address.portNumber.map (fun number => ":" ++ Text.decimal number)).getD "" ++
    address.databaseText ++ address.optionsText

end Address

end Introspection.Database
