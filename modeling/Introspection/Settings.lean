import Introspection.Checked
import Introspection.Double.Text
import Introspection.Json.Reader
import Introspection.Record
import Introspection.Text.Case

/-!
# Settings

What the server is told by the environment it starts in. The variable of a setting has the name of
the setting with `INTROSPECT_` before it, in any case; of several such variables the last counts,
and other variables are nothing to the server. A setting without a variable keeps its default.

A text stands for itself, a number or truth value is read as in a record, and a list is written in
JSON, where `null` leaves the default. All lists are read before any value is checked.
-/

namespace Introspection

/-- Variables, names and values, in the order in which they were set. -/
abbrev Environment : Type := List (String × String)

/-- What the server is told. -/
structure Settings where
  rootPath : String := ""
  title : String := "Token Introspection"
  version : String := "0.1.0"
  descriptionPath : String := "/openapi.json"
  issuer : Option String := none
  protectionScope : String := defaultProtectionScope
  rule : ScopeRule := .subset
  databaseAddress : String := "postgresql+asyncpg://localhost:5432/oauth"
  databaseSchema : Option String := none
  databaseEcho : Bool := false
  /-- How many seconds the clocks of clients may be off. -/
  leeway : Int := 30
  /-- How many seconds the fetching of a key set may take. -/
  fetchTimeout : Double := .ofQuotient 5 1
  logLevel : String := "INFO"
  logAsJson : Bool := true
  allowedOrigins : List String := ["*"]
  allowedMethods : List String := ["POST", "OPTIONS"]
  allowedHeaders : List String := ["Authorization", "Content-Type"]
  allowCredentials : Bool := false
  deriving DecidableEq, Repr

namespace Settings

/-- What stands before the name of a setting in the name of its variable. -/
def variableStart : String := "INTROSPECT_"

/-- The settings that are texts, numbers or truth values. -/
def plainNames : List String :=
  ["APP_ROOT_PATH", "APP_TITLE", "APP_VERSION", "OPENAPI_URL", "ISSUER", "PROTECTION_SCOPE",
    "INTROSPECTION_SCOPE_RULE", "DB_URL", "DB_SCHEMA", "DB_ECHO", "CLIENT_ASSERTION_LEEWAY",
    "JWKS_FETCH_TIMEOUT", "LOG_LEVEL", "LOG_JSON", "CORS_ALLOW_CREDENTIALS"]

/-- The settings that are lists, in the order in which they are read. -/
def listNames : List String :=
  ["CORS_ALLOW_ORIGINS", "CORS_ALLOW_METHODS", "CORS_ALLOW_HEADERS"]

/-- Why there are no settings. -/
inductive Fault
  /-- The variable of a list does not hold JSON. -/
  | unreadable (name : String)
  /-- Some values are not of the kind that their settings ask for. -/
  | invalid (errors : List FieldError)
  deriving DecidableEq, Repr

/-- What is reported of a variable that does not hold JSON. -/
def unreadableMessage (name : String) : String :=
  "error parsing value for field \"" ++ name ++ "\" from source \"EnvSettingsSource\""

/-- The value of the variable of a setting. -/
def valueOf? (environment : Environment) (name : String) : Option String :=
  let wanted := Text.lower (variableStart ++ name)
  (environment.reverse.find? (fun entry => Text.lower entry.1 == wanted)).map (·.2)

/-- The values of the settings that are no lists. -/
def plainFields (environment : Environment) : List (String × Json) :=
  plainNames.filterMap fun name =>
    (valueOf? environment name).map fun value => (name, .string value)

/-- The value of a setting that is a list, if it has one. -/
def listField (environment : Environment) (name : String) : Except Fault (List (String × Json)) :=
  match valueOf? environment name with
  | none => .ok []
  | some text => match Json.read? text.toList with
    | none => .error (.unreadable name)
    | some .null => .ok []
    | some value => .ok [(name, value)]

/-- The number that a text spells, white space around it or underscores between its digits. -/
def number (text : String) : Checked Double :=
  let read := Double.ofText? (Text.trimWhere Text.isWhiteSpace text.toList)
  match read <|> (Text.withoutUnderscores? text.toList).bind Double.ofText? with
  | some value => .valid value
  | none => Checked.defect .unreadableFloat

/-- A number of seconds. -/
def seconds : Json -> Checked Double
  | .string text => number text
  | _ => Checked.defect .notFloat

/-- A rule, by its name. -/
def scopeRule (value : Json) : Checked ScopeRule :=
  match (ScopeRule.ofJson value).toOption with
  | some rule => .valid rule
  | none => Checked.defect .notLiteral

/-- The settings that some values make. -/
def ofFields (fields : List (String × Json)) : Checked Settings :=
  let defaults : Settings := {}
  let field {α : Type} (name : String) (default : α) (check : Json -> Checked α) : Checked α :=
    Checked.withDefault name default check fields
  Settings.mk
    <$> field "APP_ROOT_PATH" defaults.rootPath Checked.text
    <*> field "APP_TITLE" defaults.title Checked.text
    <*> field "APP_VERSION" defaults.version Checked.text
    <*> field "OPENAPI_URL" defaults.descriptionPath Checked.text
    <*> field "ISSUER" defaults.issuer (Checked.optional Checked.text)
    <*> field "PROTECTION_SCOPE" defaults.protectionScope Checked.text
    <*> field "INTROSPECTION_SCOPE_RULE" defaults.rule scopeRule
    <*> field "DB_URL" defaults.databaseAddress Checked.text
    <*> field "DB_SCHEMA" defaults.databaseSchema (Checked.optional Checked.text)
    <*> field "DB_ECHO" defaults.databaseEcho Checked.bool
    <*> field "CLIENT_ASSERTION_LEEWAY" defaults.leeway Checked.int
    <*> field "JWKS_FETCH_TIMEOUT" defaults.fetchTimeout seconds
    <*> field "LOG_LEVEL" defaults.logLevel Checked.text
    <*> field "LOG_JSON" defaults.logAsJson Checked.bool
    <*> field "CORS_ALLOW_ORIGINS" defaults.allowedOrigins Checked.texts
    <*> field "CORS_ALLOW_METHODS" defaults.allowedMethods Checked.texts
    <*> field "CORS_ALLOW_HEADERS" defaults.allowedHeaders Checked.texts
    <*> field "CORS_ALLOW_CREDENTIALS" defaults.allowCredentials Checked.bool

/-- The settings of an environment. -/
def ofEnvironment (environment : Environment) : Except Fault Settings := do
  let lists <- listNames.mapM (listField environment)
  match ofFields (plainFields environment ++ lists.flatten) with
  | .valid settings => .ok settings
  | .invalid errors => .error (.invalid errors)

end Settings

end Introspection
