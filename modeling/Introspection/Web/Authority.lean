import Introspection.Percent
import Introspection.Text.Integer

/-!
# Authorities

Which texts name a host that a request can be for, possibly with a number after a colon. The host
is a name, in which other characters than those that stand for themselves are escaped, or an
address in brackets.
-/

namespace Introspection.Web

/-- The signs that stand for themselves in the name of a host. -/
def nameSigns : List Char := ['!', '$', '&', '\'', '(', ')', '*', '+', ',', ';', '=']

/-- Whether every character stands for itself or is part of an escape. -/
def isEscaped : List Char -> Bool
  | '%' :: high :: low :: rest =>
    (Hex.digit? high).isSome && (Hex.digit? low).isSome && isEscaped rest
  | c :: rest => (Percent.isUnreserved c || nameSigns.contains c) && isEscaped rest
  | [] => true

/-- Whether a text may stand in the brackets of an address. -/
def isBracketed (text : List Char) : Bool :=
  !text.isEmpty && text.all fun c => c == ':' || c == '.' || (Hex.digit? c).isSome

/-- The greatest number that may follow a host. -/
def maxNumber : Nat := 65535

/-- Whether a text is nothing, or a colon and a number that may follow a host. -/
def isNumbered : List Char -> Bool
  | [] => true
  | c :: digits =>
    let values := digits.filterMap Text.asciiDigit?
    c == ':' && !digits.isEmpty && values.length == digits.length &&
      Text.numberOf values ≤ maxNumber

/-- Whether a text names a host, possibly with a number. -/
def isAuthority (text : String) : Bool :=
  match text.toList with
  | '[' :: rest => match rest.dropWhile (· ≠ ']') with
    | _ :: number => isBracketed (rest.takeWhile (· ≠ ']')) && isNumbered number
    | [] => false
  | text =>
    let name := text.takeWhile (· ≠ ':')
    !name.isEmpty && isEscaped name && isNumbered (text.dropWhile (· ≠ ':'))

end Introspection.Web
