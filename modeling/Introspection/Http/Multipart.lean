import Introspection.Bytes

/-!
# Bodies of parts

Bodies that are divided by a boundary, a line that starts with two dashes and goes on as the
header says. Each part has header lines, an empty line and a content, which goes on to the next
boundary; after the boundary that closes the body two more dashes follow, and what comes then does
not count. A part that no boundary follows does not count either.
-/

namespace Introspection.Http.Multipart

/-- A part of a body: the lines of its header, and its content. -/
structure Part where
  header : List (List UInt8)
  content : List UInt8
  deriving DecidableEq, Repr

/-- A line end. -/
def lineEnd : List UInt8 := [13, 10]

/-- Two dashes. -/
def dashes : List UInt8 := [45, 45]

/-- What comes before the first occurrence of a mark, and what comes after it. -/
def cut? (mark : List UInt8) : List UInt8 -> Option (List UInt8 × List UInt8)
  | [] => none
  | byte :: rest =>
    if mark.isPrefixOf (byte :: rest) then some ([], (byte :: rest).drop mark.length)
    else (cut? mark rest).map fun (before, after) => (byte :: before, after)

/-- Cutting at a mark that is not empty leaves less. -/
theorem length_lt_of_cut? {mark text before after : List UInt8} (present : 0 < mark.length)
    (found : cut? mark text = some (before, after)) : after.length < text.length := by
  induction text generalizing before with
  | nil => simp [cut?] at found
  | cons byte rest hypothesis =>
    rw [cut?] at found
    split at found
    · obtain ⟨rfl, rfl⟩ := Prod.mk.inj (Option.some.inj found)
      simp only [List.length_drop, List.length_cons]
      omega
    · obtain ⟨⟨before', after'⟩, inner, same⟩ := Option.map_eq_some_iff.1 found
      obtain ⟨_, rfl⟩ := Prod.mk.inj same
      exact Nat.lt_succ_of_lt (hypothesis inner)

/-- The lines up to the first that is empty, and what comes after that one. -/
def readHeader (text : List UInt8) : Option (List (List UInt8) × List UInt8) :=
  match _found : cut? lineEnd text with
  | none => none
  | some (line, rest) =>
    if line.isEmpty then some ([], rest)
    else (readHeader rest).map fun (lines, rest) => (line :: lines, rest)
termination_by text.length
decreasing_by exact length_lt_of_cut? (by decide) _found

/-- Reading a header leaves less. -/
theorem length_lt_of_readHeader {text rest : List UInt8} {lines : List (List UInt8)}
    (read : readHeader text = some (lines, rest)) : rest.length < text.length := by
  fun_induction readHeader text generalizing lines with
  | case1 => simp at read
  | case2 text line after found _ =>
    obtain ⟨_, rfl⟩ := Prod.mk.inj (Option.some.inj read)
    exact length_lt_of_cut? (by decide) found
  | case3 text line after found _ hypothesis =>
    obtain ⟨⟨lines', rest'⟩, inner, same⟩ := Option.map_eq_some_iff.1 read
    obtain ⟨_, rfl⟩ := Prod.mk.inj same
    exact Nat.lt_trans (hypothesis inner) (length_lt_of_cut? (by decide) found)

/-- What comes before the first boundary, whether it closes the body, and what comes after it. -/
def readContent (boundary : List UInt8) : List UInt8 -> Option (List UInt8 × Bool × List UInt8)
  | [] => none
  | byte :: rest =>
    let text := byte :: rest
    let follows (ending : List UInt8) : Bool := (boundary ++ ending).isPrefixOf text
    let after := text.drop (boundary.length + 2)
    if follows lineEnd then some ([], false, after)
    else if follows dashes then some ([], true, after)
    else (readContent boundary rest).map fun (content, closes, after) =>
      (byte :: content, closes, after)

/-- Reading a content leaves no more. -/
theorem length_le_of_readContent {boundary text content rest : List UInt8} {closes : Bool}
    (read : readContent boundary text = some (content, closes, rest)) :
    rest.length ≤ text.length := by
  induction text generalizing content closes with
  | nil => simp [readContent] at read
  | cons byte tail hypothesis =>
    rw [readContent] at read
    split at read
    · obtain ⟨_, _, rfl⟩ := by simpa using read
      simp only [List.length_drop, List.length_cons]
      omega
    · split at read
      · obtain ⟨_, _, rfl⟩ := by simpa using read
        simp only [List.length_drop, List.length_cons]
        omega
      · obtain ⟨⟨content', closes', rest'⟩, inner, same⟩ := Option.map_eq_some_iff.1 read
        obtain ⟨_, _, rfl⟩ := by simpa using same
        exact Nat.le_succ_of_le (hypothesis inner)

/-- The parts of a text that starts after a boundary. -/
def readParts (boundary : List UInt8) (text : List UInt8) : List Part :=
  match _head : readHeader text with
  | none => []
  | some (header, rest) => match _body : readContent boundary rest with
    | none => []
    | some (content, closes, rest) =>
      ⟨header, content⟩ :: if closes then [] else readParts boundary rest
termination_by text.length
decreasing_by
  exact Nat.lt_of_le_of_lt (length_le_of_readContent _body) (length_lt_of_readHeader _head)

/-- The parts of a body. Line ends may come before the first boundary. -/
def parts (boundary : List UInt8) (body : List UInt8) : List Part :=
  let opening := dashes ++ boundary ++ lineEnd
  let text := body.dropWhile lineEnd.contains
  if opening.isPrefixOf text then
    readParts (lineEnd ++ dashes ++ boundary) (text.drop opening.length)
  else []

end Introspection.Http.Multipart
