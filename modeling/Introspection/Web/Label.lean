import Introspection.Text.Composed
import Introspection.Text.Lowercase
import Introspection.Text.Punycode
import Introspection.Web.LabelDirection
import Introspection.Web.LabelLetter

/-!
# Host names of any script

Names of hosts are parts with dots between them. A part with characters beyond ASCII is written in
Punycode after a mark that tells so, provided that it is composed, has hyphens only where they may
be, does not start with a combining mark, has no character that may not stand where it does, and
is written in one direction. Parts in ASCII of such a name have to be of that form too.
-/

namespace Introspection.Web

/-- What the Punycode form of a part starts with. -/
def labelMark : List Char := ['x', 'n', '-', '-']

/-- The greatest length of a part. -/
def labelLimit : Nat := 63

/-- The greatest length of a name, without a dot at its end. -/
def nameLimit : Nat := 253

/-- Whether every character may stand where it does, given what comes before (last first). -/
def allAdmitted (before : List Char) : List Char -> Bool
  | [] => true
  | c :: rest =>
    (isLabelLetter c || isInContext before c rest) && allAdmitted (c :: before) rest

/-- Whether a text may be a part of a name. -/
def isLabel (label : List Char) : Bool :=
  !label.isEmpty && Text.composed label == label && (label.drop 2).take 2 != ['-', '-'] &&
    label.head? != some '-' && label.getLast? != some '-' && !(label.head?).any Text.isMark &&
    allAdmitted [] label && hasOneDirection label

/-- Whether a part in ASCII may stand in a name; one in Punycode form has to spell one that
may. -/
def isAsciiLabel (label : List Char) : Bool :=
  if labelMark.isPrefixOf label then
    let encoded := label.drop labelMark.length
    !encoded.isEmpty && encoded.getLast? != some '-' && (Text.Punycode.decode? encoded).any isLabel
  else isLabel label

/-- The ASCII form of a part. -/
def encodeLabel? (label : List Char) : Option (List Char) :=
  let isAscii := label.all Text.Punycode.isBasic
  let encoded := if isAscii then label else labelMark ++ Text.Punycode.encode label
  if (if isAscii then isAsciiLabel label else isLabel label) ∧ encoded.length ≤ labelLimit then
    some encoded
  else none

/-- The characters that part a name. -/
def labelDots : List Char := ['.', '\u3002', '\uFF0E', '\uFF61']

/-- The ASCII form of a name. A dot at its end is kept. -/
def encodeName? (name : List Char) : Option String := do
  let labels := (name.map fun c => if c ∈ labelDots then '.' else c).splitOn '.'
  let isClosed := labels.getLast? == some []
  let labels <- (if isClosed then labels.dropLast else labels).mapM encodeLabel?
  let encoded := List.intercalate ['.'] (if isClosed then labels ++ [[]] else labels)
  if encoded.length ≤ nameLimit + isClosed.toNat then some (String.ofList encoded) else none

end Introspection.Web
