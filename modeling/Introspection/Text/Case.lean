/-!
# Letter case

Words of ASCII letters, compared without regard to case. Of the letters outside ASCII the Kelvin
sign has the lower case `k`, and the dotless i and the long s have the upper cases `I` and `S`.
Letters whose other case is several letters are left as they are: no word that is compared here
contains what they would become.
-/

namespace Introspection.Text

/-- The lower case of a letter. -/
def lowerChar (c : Char) : Char := if c = '\u212A' then 'k' else c.toLower

/-- The upper case of a letter. -/
def upperChar (c : Char) : Char :=
  if c = '\u0131' then 'I' else if c = '\u017F' then 'S' else c.toUpper

/-- The text in lower case. -/
def lower (text : String) : String := String.ofList (text.toList.map lowerChar)

/-- The text in upper case. -/
def upper (text : String) : String := String.ofList (text.toList.map upperChar)

end Introspection.Text
