import Introspection.Failure
import Introspection.Moment.Text
import Introspection.Json
import Introspection.Scope

/-!
# Checked values

Reading typed values from JSON. A reading yields a value or every defect found, in the order of
the fields. The types are lenient in places: truth values and integers may be given as text, a
time as text or as seconds since 1970.
-/

namespace Introspection

/-- A value that was read, or the defects that keep it from being read. -/
inductive Checked (α : Type)
  | valid (value : α)
  | invalid (errors : List FieldError)

namespace Checked

variable {α β : Type}

/-- Apply a function to a value that was read. -/
def map (f : α -> β) : Checked α -> Checked β
  | .valid value => .valid (f value)
  | .invalid errors => .invalid errors

/-- Apply a function that was read to a value that was read; the defects of both add up. -/
def apply (f : Checked (α -> β)) (value : Checked α) : Checked β :=
  match f, value with
  | .valid f, .valid value => .valid (f value)
  | .valid _, .invalid errors => .invalid errors
  | .invalid errors, .valid _ => .invalid errors
  | .invalid errors, .invalid more => .invalid (errors ++ more)

instance : Functor Checked := ⟨map, fun value => map (fun _ => value)⟩

instance : Applicative Checked where
  pure := .valid
  seq f value := apply f (value ())

/-- A defect of the value itself. -/
def defect (defect : Defect) : Checked α := .invalid [⟨[], defect⟩]

/-- The same reading, its defects being below a field or at a place of a list. -/
def under (place : Place) : Checked α -> Checked α
  | .valid value => .valid value
  | .invalid errors =>
    .invalid (errors.map fun error => { error with place := place :: error.place })

/-- The value, or a failure that carries the defects. -/
def toExcept : Checked α -> Except Failure α
  | .valid value => .ok value
  | .invalid errors => .error (.invalidRecord errors)

/-- A text. -/
def text : Json -> Checked String
  | .string value => .valid value
  | _ => defect .notText

/-- `null`, or what else is asked for. -/
def optional (check : Json -> Checked α) : Json -> Checked (Option α)
  | .null => .valid none
  | value => (check value).map some

/-- Every item of a list, in its place. -/
def items (check : Json -> Checked α) (values : List Json) : Checked (List α) :=
  values.zipIdx.foldr
    (fun (value, place) rest => (List.cons <$> (check value).under (.index place)) <*> rest)
    (.valid [])

/-- A list of texts. -/
def texts : Json -> Checked (List String)
  | .list values => items text values
  | _ => defect .notList

/-- A set of scope names, given as a list. -/
def scopeSet : Json -> Checked ScopeSet
  | .list values => (items text values).map ScopeSet.ofList
  | _ => defect .notSet

/-- The words for true. -/
def yesWords : List String := ["1", "on", "t", "true", "y", "yes"]

/-- The words for false. -/
def noWords : List String := ["0", "off", "f", "false", "n", "no"]

/-- The truth value that a word of any case stands for. -/
def boolOfText (text : String) : Checked Bool :=
  let word := String.ofList (text.toList.map Char.toLower)
  if word ∈ yesWords then .valid true
  else if word ∈ noWords then .valid false
  else defect .unreadableBool

/-- Integers of 64 bits are below this in magnitude, or its negative. -/
def wordLimit : Int := 9223372036854775808

/-- The truth value of one or zero; only an integer of 64 bits is taken for either. -/
def boolOfInt (value : Int) : Checked Bool :=
  if value = 0 then .valid false
  else if value = 1 then .valid true
  else if -wordLimit ≤ value ∧ value < wordLimit then defect .unreadableBool
  else defect .notBool

/-- The integer of 64 bits that a whole number stands for. The least of them counts as too large
here. -/
def wordOfWhole? (value : Int) : Option Int :=
  if -wordLimit < value ∧ value < wordLimit then some value else none

/-- A truth value, or a number or word for one. -/
def bool : Json -> Checked Bool
  | .bool value => .valid value
  | .int value => boolOfInt value
  | .double value => match value.toInt?.bind wordOfWhole? with
    | some value => boolOfInt value
    | none => defect .notBool
  | .string text => boolOfText text
  | _ => defect .notBool

/-- The integer that a text spells. -/
def intOfText (text : String) : Checked Int :=
  match Text.plainInteger? text.toList with
  | .ok value => .valid value
  | .error .malformed => defect .unreadableInteger
  | .error .tooLong => defect .integerTooLarge

/-- An integer, or a truth value, whole number or text for one. -/
def int : Json -> Checked Int
  | .int value => .valid value
  | .bool value => .valid value.toNat
  | .double (.finite negative mantissa exponent) =>
    match (Double.finite negative mantissa exponent).toInt? with
    | some value => match wordOfWhole? value with
      | some value => .valid value
      | none => defect .integerTooLarge
    | none => defect .fractionalInteger
  | .double _ => defect .notFinite
  | .string text => intOfText text
  | _ => defect .notInteger

/-- The moment that a text spells: date and time, a date alone, or a number as of `moment`. A
number with a point may have an exponent, one without may not. -/
def momentOfText? (text : List Char) : Option Moment :=
  match Moment.ofText? false text with
  | some moment => some moment
  | none =>
    let (negative, magnitude) := Text.signed text
    match Text.spanDigits magnitude with
    | ([], []) => none
    | (digits, []) => Moment.ofEpoch? (Text.withSign negative (Text.numberOf digits))
    | (_, '.' :: _) => (Double.ofText? text).bind Moment.ofEpochDouble?
    | _ => none

/-- A moment, unless it lies before the year 1. -/
def inRange (moment : Moment) : Checked Moment :=
  if moment.reading < Moment.firstReading then defect .timeOutOfRange else .valid moment

/-- A point in time: a text, or a number of seconds or milliseconds since 1970. -/
def moment : Json -> Checked Moment
  | .string text => match momentOfText? text.toList with
    | some moment => inRange moment
    | none => defect .unreadableTime
  | .int count => match Moment.ofEpoch? count with
    | some moment => inRange moment
    | none => defect .timeOutOfRange
  | .double count => match Moment.ofEpochDouble? count with
    | some moment => inRange moment
    | none => defect .timeOutOfRange
  | _ => defect .notTime

/-- The field of a name, which has to be there. -/
def required (name : String) (check : Json -> Checked α) (fields : List (String × Json)) :
    Checked α :=
  (match Json.member? name fields with
    | some value => check value
    | none => defect .missing).under (.field name)

/-- The field of a name, or a default when it is absent. -/
def withDefault (name : String) (default : α) (check : Json -> Checked α)
    (fields : List (String × Json)) : Checked α :=
  match Json.member? name fields with
  | some value => (check value).under (.field name)
  | none => .valid default

/-- A record, given as an object. -/
def record (read : List (String × Json) -> Checked α) : Json -> Checked α
  | .object fields => read fields
  | _ => defect .notRecord

end Checked

end Introspection
