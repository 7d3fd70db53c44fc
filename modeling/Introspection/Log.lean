import Introspection.Event
import Introspection.Log.Console
import Introspection.Log.Template
import Introspection.Text.Case
import Introspection.Text.Line

/-!
# Log lines

What is written of the events that are put on record, for every entry whose level reaches the
threshold that is set up: one JSON object per line, or a text for a console. Members stand in the
order in which they were given, and what is added later, such as the name of the logger, the level
and the time, replaces a member of its name in its place.

An entry is an event with values, or a plain message, made of a template and values.
-/

namespace Introspection.Log

/-- How much the levels weigh, each more than the one before. -/
def weight : Level -> Nat
  | .debug => 10
  | .info => 20
  | .warning => 30
  | .error => 40
  | .critical => 50

/-- The names of thresholds, and the weight from which on entries are written. -/
def thresholds : List (String × Nat) :=
  [("CRITICAL", 50), ("FATAL", 50), ("ERROR", 40), ("WARNING", 30), ("WARN", 30), ("INFO", 20),
    ("DEBUG", 10), ("NOTSET", 0)]

/-- The threshold of a name in any case. -/
def threshold? (name : String) : Option Nat :=
  (thresholds.find? (·.1 == Text.upper name)).map (·.2)

/-- What is put on record, and by which logger. -/
inductive Entry
  /-- An event; `bound` is what the logger carries along, `given` what the event adds. -/
  | event (logger : String) (level : Level) (name : Json) (bound given : List (String × Json))
  /-- A message, made when it is written. -/
  | message (logger : String) (level : Level) (template : Json) (values : List Json)

/-- How entries are written. -/
inductive Style
  | json
  | console
  deriving DecidableEq, Repr

/-- Why nothing is written. -/
inductive Fault
  | unknownThreshold
  /-- An event gives a value to a name that it cannot give one to. -/
  | reservedName
  /-- Something else stands in the place of the record that an event is put on. -/
  | recordReplaced
  deriving DecidableEq, Repr

namespace Entry

/-- The name of the logger; the one without a name is the root of all. -/
def logger (entry : Entry) : String :=
  let name := match entry with
    | .event logger .. => logger
    | .message logger .. => logger
  if name.isEmpty then "root" else name

/-- The level of an entry. -/
def level : Entry -> Level
  | .event _ level .. => level
  | .message _ level .. => level

/-- The names that an event cannot give a value to. -/
def reservedNames : List String := ["self", "event", "method_name"]

/-- Whether an entry is written. -/
def reaches (threshold : Nat) (entry : Entry) : Bool := threshold ≤ weight entry.level

/-- Put values into members, each replacing the one of its name. -/
def putAll (members values : List (String × Json)) : List (String × Json) :=
  values.foldl (fun members (name, value) => Json.insert name value members) members

/-- Put values into members that have none of their name. -/
def putAbsent (members values : List (String × Json)) : List (String × Json) :=
  values.foldl (fun members (name, value) =>
    if (Json.member? name members).isSome then members else Json.insert name value members) members

/-- What an event is called; one that is called nothing has no such member. -/
def called : Json -> List (String × Json)
  | .null => []
  | name => [("event", name)]

/-- The members that an entry starts with; a message has to be made first. -/
def startMembers : Entry -> Option (List (String × Json))
  | .event _ _ name bound given => some (putAll (putAll bound given) (called name))
  | .message _ _ template values =>
    (Template.fill? template.display values).map fun text => [("event", .string text)]

/-- The member in whose place the record itself stands. -/
def recordName : String := "_record"

/-- The names of members that are for the logger itself and are not written. -/
def withheldNames : List String := ["exc_info", "stack_info", recordName, "_from_structlog"]

/-- Whether an event with the given members and context has something in the place of its record. -/
def replacesRecord (members context : List (String × Json)) : Bool :=
  match (Json.member? recordName (putAbsent members context)).getD .null with
  | .null => false
  | _ => true

/-- Why an entry cannot be put on record. -/
def fault? (threshold : Nat) (context : List (String × Json)) (entry : Entry) : Option Fault :=
  match entry with
  | .event _ _ _ bound given =>
    if (Json.member? "self" bound).isSome ||
        reservedNames.any (fun name => (Json.member? name given).isSome) then some .reservedName
    else if entry.reaches threshold && replacesRecord (putAll bound given) context then
      some .recordReplaced
    else none
  | .message .. => none

/-- The members of a line. -/
def members (context : List (String × Json)) (time : String) (entry : Entry) :
    Option (List (String × Json)) :=
  entry.startMembers.map fun start =>
    let all := putAll (putAbsent start context) [("logger", .string entry.logger),
      ("level", .string entry.level.name), ("timestamp", .string time)]
    all.filter (fun member => !withheldNames.contains member.1)

/-- The text of an entry. -/
def text (style : Style) (context : List (String × Json)) (time : String) (entry : Entry) :
    Option String := do
  let members <- entry.members context time
  match style with
  | .json => return Json.write .logLine (.object members)
  | .console => Console.text? members

end Entry

/-- The lines of entries, under a threshold of a name. The context is added to every entry. -/
def lines (style : Style) (thresholdName : String) (context : List (String × Json))
    (time : String) (entries : List Entry) : Except Fault (List String) :=
  match threshold? thresholdName with
  | none => .error .unknownThreshold
  | some threshold => match entries.findSome? (Entry.fault? threshold context) with
    | some fault => .error fault
    | none =>
      let texts := (entries.filter (Entry.reaches threshold)).filterMap
        (Entry.text style context time)
      .ok (texts.flatMap fun text => (Text.lines (text.toList ++ ['\n'])).map String.ofList)

end Introspection.Log
