/-!
# Lines

The lines of a text. A line ends with a line feed, a carriage return, both in this order, or one of
the other characters that end lines or paragraphs.
-/

namespace Introspection.Text

/-- The characters that end a line. -/
def lineEnds : List Char := [
  '\n', '\x0B', '\x0C', '\r', '\x1C', '\x1D', '\x1E', '\u0085', '\u2028', '\u2029']

/-- The lines of a text, without what ends them. -/
def lines : List Char -> List (List Char)
  | [] => []
  | '\r' :: '\n' :: rest => [] :: lines rest
  | c :: rest =>
    if c ∈ lineEnds then [] :: lines rest
    else match lines rest with
      | line :: more => (c :: line) :: more
      | [] => [[c]]

end Introspection.Text
