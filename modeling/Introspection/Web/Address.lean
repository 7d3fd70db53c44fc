import Introspection.Web.Host

/-!
# Addresses of documents

The addresses at which documents are kept: a scheme, a host with what may stand before and after
it, a path, a query and a fragment, of which only the path is always there. An address is brought
to one form as it is read: scheme and host in small letters, the number that goes without saying
left out, steps to the same and the upper level of a path taken, and characters escaped that may
not stand where they do.

An address without a scheme or a host names no server. It is asked for by its path, in vain.
-/

namespace Introspection.Web

/-- An address, in the one form. -/
structure Address where
  scheme : List Char
  userinfo : String
  host : String
  number : Option Int
  path : String
  query : Option String
  fragment : Option String
  deriving DecidableEq, Repr

namespace Address

/-- The greatest length of a text that is read as an address. -/
def lengthLimit : Nat := 65536

/-- The visible characters of ASCII but some. -/
def visibleBut (others : List Char) : List Char :=
  ((List.range 95).map fun place => Char.ofNat (32 + place)).filter fun c => !others.contains c

/-- What may not stand in a query. -/
def queryExceptions : List Char := [' ', '"', '#', '<', '>']

/-- What may not stand in a path. -/
def pathExceptions : List Char := queryExceptions ++ ['?', '`', '\x7b', '\x7d']

/-- What may not stand before a host. -/
def userinfoExceptions : List Char :=
  pathExceptions ++ ['/', ';', '=', '@', '[', '\\', ']', '^', '|']

/-- What may not stand in a fragment. -/
def fragmentExceptions : List Char := [' ', '"', '<', '>', '`']

/-- A text with everything escaped that may not stand there. -/
def escaped (exceptions : List Char) (text : List Char) : String :=
  Percent.encode (visibleBut exceptions) (String.ofList text)

/-- Whether a character may stand in a scheme, after its first letter. -/
def isSchemeChar (c : Char) : Bool := c.isAlphanum || c == '+' || c == '.' || c == '-'

/-- The scheme at the front of a text, and what follows its colon. A colon at the very front ends
an empty scheme. -/
def splitScheme (text : List Char) : List Char × List Char :=
  let scheme := text.takeWhile isSchemeChar
  match text.dropWhile isSchemeChar with
  | ':' :: rest => if (scheme.head?).all Char.isAlpha then (scheme, rest) else ([], text)
  | _ => ([], text)

/-- The text up to one of some characters, and the text from there on. -/
def splitBefore (marks : List Char) (text : List Char) : List Char × List Char :=
  (text.takeWhile fun c => !marks.contains c, text.dropWhile fun c => !marks.contains c)

/-- What stands before the last `@` of the part for the host, and what stands after it. -/
def splitUserinfo (text : List Char) : List Char × List Char :=
  let after := (text.reverse.takeWhile (· ≠ '@')).reverse
  (text.take (text.length - after.length - 1), after)

/-- A host, in brackets or up to a colon, and the text of the number after it. -/
def splitHost (text : List Char) : List Char × List Char :=
  let size :=
    if text.head? = some '[' ∧ text.contains ']' then (text.reverse.dropWhile (· ≠ ']')).length
    else (text.takeWhile (· ≠ ':')).length
  (text.take size, match text.drop size with
    | ':' :: number => number
    | number => number)

/-- The number that goes without saying with a scheme. -/
def usualNumbers : List (String × Int) :=
  [("ftp", 21), ("http", 80), ("https", 443), ("ws", 80), ("wss", 443)]

/-- The number beside a host, if it has to be said. -/
def number? (scheme text : List Char) : Option (Option Int) :=
  if text.isEmpty then some none
  else do
    let number <- Text.integer? text
    return if usualNumbers.contains (String.ofList scheme, number) then none else some number

/-- The segments of a path with the steps in it taken: one to the same level is left out, one to
the upper level takes the segment before it away, but not the start of the path. -/
def takeSteps (segments : List (List Char)) : List (List Char) :=
  (segments.foldl (fun done segment =>
    if segment = ['.'] then done
    else if segment = ['.', '.'] then (if done = [[]] then done else done.drop 1)
    else segment :: done) []).reverse

/-- A path with the steps in it taken. -/
def plainPath (path : List Char) : List Char :=
  List.intercalate ['/'] (takeSteps (path.splitOn '/'))

/-- Read an address. What is too long, has control characters or a host or number that cannot be
one, or is a path alone that starts like another part, is none. -/
def read? (text : String) : Option Address := do
  let text := text.toList
  if lengthLimit < text.length ∨ text.any (fun c => c.toNat < 0x20 || c.toNat == 0x7F) then none
  let (scheme, rest) := splitScheme text
  let (authority, rest) := match rest with
    | '/' :: '/' :: rest => splitBefore ['/', '?', '#'] rest
    | rest => ([], rest)
  let (path, rest) := splitBefore ['?', '#'] rest
  let (query, rest) : Option (List Char) × List Char := match rest with
    | '?' :: rest => let (query, rest) := splitBefore ['#'] rest; (some query, rest)
    | rest => (none, rest)
  let (userinfo, rest') := splitUserinfo authority
  let (host, number) := splitHost rest'
  let host <- host? host
  let number <- number? scheme number
  let isBare := scheme.isEmpty && userinfo.isEmpty && host.isEmpty && number.isNone
  if isBare ∧ (['/', '/'].isPrefixOf path ∨ path.head? = some ':') then none
  return {
    scheme := scheme.map Char.toLower
    userinfo := escaped userinfoExceptions userinfo
    host
    number
    path := escaped pathExceptions (if isBare then path else plainPath path)
    query := query.map (escaped queryExceptions)
    fragment := match rest with
      | '#' :: fragment => some (escaped fragmentExceptions fragment)
      | _ => none }

/-- The host with what stands before and after it. -/
def authority (address : Address) : String :=
  let { userinfo, host, number, .. } := address
  (if userinfo.isEmpty then "" else userinfo ++ "@") ++
    (if host.toList.contains ':' then "[" ++ host ++ "]" else host) ++
    (number.map (":" ++ Text.decimal ·)).getD ""

/-- The query with its mark, if there is one. -/
def queryText (address : Address) : String := (address.query.map ("?" ++ ·)).getD ""

/-- The text of an address. -/
def text (address : Address) : String :=
  (if address.scheme.isEmpty then "" else String.ofList address.scheme ++ ":") ++
    (if address.authority.isEmpty then "" else "//" ++ address.authority) ++
    address.path ++ address.queryText ++ (address.fragment.map ("#" ++ ·)).getD ""

/-- Whether an address names a server. -/
def namesServer (address : Address) : Bool := !address.scheme.isEmpty && !address.host.isEmpty

/-- What is asked for at an address: the address itself, or the path and query of one that names
no server. -/
def target (address : Address) : String :=
  if address.namesServer then address.text
  else
    let path := (address.path ++ address.queryText).toList
    "/" ++ String.ofList (path.dropWhile (· == '/'))

end Address

end Introspection.Web
