import Introspection.Double

/-!
# JSON values

Values as they are stored in a column or carried by an assertion. Whole numbers and numbers with
a fraction or an exponent are kept apart, and an object keeps its members in the order in which
their names first appear.

Reading and writing are not here: see `Introspection.Json.Reader` and
`Introspection.Json.Printer`.
-/

namespace Introspection

/-- A JSON value. -/
inductive Json
  | null
  | bool (value : Bool)
  | int (value : Int)
  | double (value : Double)
  | string (value : String)
  | list (items : List Json)
  | object (members : List (String × Json))
  deriving Repr, Inhabited

namespace Json

/-- Replace the member of a name in its place, or add it at the end. -/
def insert (name : String) (value : Json) : List (String × Json) -> List (String × Json)
  | [] => [(name, value)]
  | (other, held) :: rest =>
    if other = name then (name, value) :: rest else (other, held) :: insert name value rest

/-- The value of a member. -/
def member? (name : String) (members : List (String × Json)) : Option Json :=
  (members.find? (·.1 == name)).map (·.2)

/-- The member of an object; other values have none. -/
def get? (value : Json) (name : String) : Option Json :=
  match value with
  | .object members => member? name members
  | _ => none

/-- The member of an object, with `null` for one that is absent. -/
def get (value : Json) (name : String) : Json := (value.get? name).getD .null

/-- A text or `null`. -/
def ofString? : Option String -> Json
  | some value => .string value
  | none => .null

/-- The text of a value that is one. -/
def string? : Json -> Option String
  | .string value => some value
  | _ => none

/-- The values that count as absent where a value is asked for: `null`, `false`, zero and
whatever is empty. -/
def isVoid : Json -> Bool
  | .null => true
  | .bool value => !value
  | .int value => value == 0
  | .double value => value.isZero
  | .string value => value.isEmpty
  | .list items => items.isEmpty
  | .object members => members.isEmpty

/-- A number, where truth values count as one and zero. -/
inductive Number
  | int (value : Int)
  | double (value : Double)

/-- The numeric value, if there is one. -/
def number? : Json -> Option Number
  | .bool value => some (.int value.toNat)
  | .int value => some (.int value)
  | .double value => some (.double value)
  | _ => none

/-- How two numbers compare by value; `none` when one of them is no number. -/
def Number.compare? : Number -> Number -> Option Ordering
  | .int a, .int b => some (compare a b)
  | .int a, .double b => (b.compareInt a).map Ordering.swap
  | .double a, .int b => a.compareInt b
  | .double a, .double b => a.compare? b

/-- Equality of numbers by value; what is no number equals nothing. -/
def Number.same (a b : Number) : Bool := a.compare? b == some .eq

mutual

/-- Equality of values: numbers by their value, members in any order. -/
def same : Json -> Json -> Bool
  | .null, other => (other matches .null)
  | .string a, other => match other with
    | .string b => a == b
    | _ => false
  | .list items, other => match other with
    | .list others => sameItems items others
    | _ => false
  | .object members, other => match other with
    | .object others => members.length == others.length && sameMembers members others
    | _ => false
  | .bool a, other => match other.number? with
    | some b => Number.same (.int a.toNat) b
    | none => false
  | .int a, other => match other.number? with
    | some b => Number.same (.int a) b
    | none => false
  | .double a, other => match other.number? with
    | some b => Number.same (.double a) b
    | none => false

/-- Equality of items place by place. -/
def sameItems : List Json -> List Json -> Bool
  | [], others => others.isEmpty
  | item :: rest, others => match others with
    | [] => false
    | other :: others => same item other && sameItems rest others

/-- Whether every member has an equal one of its name among the others. -/
def sameMembers : List (String × Json) -> List (String × Json) -> Bool
  | [], _ => true
  | (name, value) :: rest, others =>
    (match member? name others with
      | some other => same value other
      | none => false) && sameMembers rest others

end

end Json

end Introspection
