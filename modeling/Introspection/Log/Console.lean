import Introspection.Json.Printer

/-!
# Entries on a console

The text of an entry for readers at a terminal: the time, the level and the message, the logger,
and after them the other members by name. A trace of calls and the text of an exception follow on
lines of their own. All else stands on one line, as far as the message and the names do.
-/

namespace Introspection.Log.Console

/-- The members that come first, in this order; their values stand without a name. -/
def leadingNames : List String := ["timestamp", "level", "event", "logger", "logger_name"]

/-- The leading members whose values stand in brackets. -/
def bracketedNames : List String := ["level", "logger", "logger_name"]

/-- The member that holds a trace of calls. -/
def traceName : String := "stack"

/-- The member that holds the text of an exception. -/
def exceptionName : String := "exception"

/-- The characters that put a value between quotes. -/
def quotingChars : List Char := [' ', '\t', '=', '\r', '\n', '"', '\'']

/-- A value after its name. -/
def valueText : Json -> String
  | .string text => if text.toList.any quotingChars.contains then Text.quoted text else text
  | value => value.display

/-- A leading member. -/
def leadingText (name : String) (value : Json) : String :=
  if bracketedNames.contains name then "[" ++ value.display ++ "]" else value.display

/-- The members without those that stand on lines of their own, the leading ones first and the
others by name. -/
def firstLine (members : List (String × Json)) : String :=
  let leading := leadingNames.filterMap fun name =>
    (Json.member? name members).map (leadingText name)
  let others := members.filter fun (name, _) =>
    !(traceName :: exceptionName :: leadingNames).contains name
  let sorted := others.mergeSort fun a b => a.1 ≤ b.1
  (" ").intercalate (leading ++ sorted.map fun (name, value) => name ++ "=" ++ valueText value)

/-- The text of a member that stands on lines of its own, if it is there; it has to be text. -/
def block? (name : String) (members : List (String × Json)) : Option (Option String) :=
  match (Json.member? name members).getD .null with
  | .null => some none
  | .string text => some (some text)
  | _ => none

/-- What stands between the two blocks. -/
def ruler : String := "\n" ++ String.ofList (List.replicate 79 '=') ++ "\n"

/-- The text of an entry with the given members. -/
def text? (members : List (String × Json)) : Option String := do
  let trace <- block? traceName members
  let exception <- block? exceptionName members
  let between := if trace.isSome && exception.isSome then [ruler] else []
  return ("\n").intercalate (firstLine members :: trace.toList ++ between ++ exception.toList)

end Introspection.Log.Console
