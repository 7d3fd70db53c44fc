import Introspection.Text.Blank

/-!
# Header values with parameters

A value and the parameters after it, each after a semicolon: a name, an equals sign and a text,
which stands in quotes if it holds a semicolon. Names are compared in lower case, and of several
parameters of one name the last counts. A parameter that is a bare name has the empty text.
-/

namespace Introspection.Http

/-- A value and the names and texts of its parameters; the value and the names in lower case. -/
structure ParameterizedValue where
  value : String
  parameters : List (String × String)
  deriving DecidableEq, Repr

namespace ParameterizedValue

/-- A text without the blanks around it, of those that ASCII has. -/
def trimmed (text : List Char) : List Char := Text.trimWhere Text.isAsciiBlank text

/-- A text without the blanks around it, in lower case. -/
def folded (text : List Char) : String := String.ofList ((trimmed text).map Char.toLower)

/-- The pieces between the semicolons that are outside of quotes. A quote right after a backslash
neither opens nor closes anything. -/
def pieces (quoted escaped : Bool) : List Char -> List (List Char)
  | [] => [[]]
  | c :: rest =>
    if c = ';' ∧ quoted = false then [] :: pieces false false rest
    else
      let quoted := if c = '"' ∧ escaped = false then !quoted else quoted
      match pieces quoted (c == '\\') rest with
      | piece :: others => (c :: piece) :: others
      | [] => [[c]]

/-- The text with every pair of backslashes made one. -/
def halveBackslashes : List Char -> List Char
  | '\\' :: '\\' :: rest => '\\' :: halveBackslashes rest
  | c :: rest => c :: halveBackslashes rest
  | [] => []

/-- The text without the backslashes that stand before a quote. -/
def bareQuotes : List Char -> List Char
  | '\\' :: '"' :: rest => '"' :: bareQuotes rest
  | c :: rest => c :: bareQuotes rest
  | [] => []

/-- What a text in quotes stands for; any other text stands for itself. -/
def unquoted (text : List Char) : List Char :=
  match text with
  | '"' :: rest =>
    if rest.getLast? = some '"' then bareQuotes (halveBackslashes rest.dropLast) else text
  | _ => text

/-- The parameter that a piece is. -/
def parameterOf (piece : List Char) : String × String :=
  (folded (piece.takeWhile (· ≠ '=')),
    String.ofList (unquoted (trimmed ((piece.dropWhile (· ≠ '=')).drop 1))))

/-- Read a header. -/
def read (header : String) : ParameterizedValue :=
  let text := header.toList
  { value := folded (text.takeWhile (· ≠ ';'))
    parameters := match text.dropWhile (· ≠ ';') with
      | _ :: rest => (pieces false false rest).map parameterOf
      | [] => [] }

/-- The text of the last parameter of a name, given in lower case. -/
def parameter? (header : ParameterizedValue) (name : String) : Option String :=
  (header.parameters.reverse.find? (·.1 == name)).map (·.2)

end ParameterizedValue

end Introspection.Http
