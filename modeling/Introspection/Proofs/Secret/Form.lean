import Introspection.Secret

/-!
# The written form of a stored secret

What a text has to be like for a stored secret to be taken from it (`Spells`): the name of the
derivation, the iterations, the salt and the key, with separators between them. The reader finds a
stored secret in a text exactly when the text spells it (`read?_eq_some`), so that the laws about
stored secrets can be stated on the text.
-/

namespace Introspection.Secret

/-- A text spells a stored secret: it is the name of the derivation, the iterations, the salt and
the key, with separators between them. The first three hold none; in the key there may be some,
which are passed over like everything that is not in the alphabet. -/
inductive Spells (text : String) (stored : Stored) : Prop
  | parts {iterations salt key : List Char}
      (whole : text.toList = scheme.toList ++ separator :: (iterations ++ separator ::
        (salt ++ separator :: key)))
      (iterationsEnd : separator ∉ iterations) (saltEnds : separator ∉ salt)
      (isIterations : Text.integer? iterations = some stored.iterations)
      (isSalt : bytes? salt = some stored.salt) (isKey : bytes? key = some stored.key) :
      Spells text stored

/-- A text is divided at its first separator, or has none. -/
theorem divided_or_whole (text : List Char) :
    (∃ first rest, text = first ++ separator :: rest ∧ separator ∉ first) ∨ separator ∉ text := by
  by_cases member : separator ∈ text
  · obtain ⟨first, rest, divided, firstEnds⟩ := List.eq_append_cons_of_mem member
    exact .inl ⟨first, rest, divided, firstEnds⟩
  · exact .inr member

/-- A text with three separators has the four parts between them. -/
theorem parts_of_divided {name iterations salt key : List Char} (nameEnds : separator ∉ name)
    (iterationsEnd : separator ∉ iterations) (saltEnds : separator ∉ salt) :
    parts (name ++ separator :: (iterations ++ separator :: (salt ++ separator :: key))) =
      [name, iterations, salt, key] := by
  have pieces :
      (name ++ separator :: (iterations ++ separator :: (salt ++ separator :: key))).splitOn
        separator = name :: iterations :: salt :: key.splitOn separator := by
    rw [List.splitOn_append_cons_self_of_not_mem nameEnds,
      List.splitOn_append_cons_self_of_not_mem iterationsEnd,
      List.splitOn_append_cons_self_of_not_mem saltEnds]
  obtain ⟨first, rest, isRest⟩ := List.exists_cons_of_ne_nil (List.splitOn_ne_nil separator key)
  have together : [separator].intercalate (key.splitOn separator) = key :=
    List.intercalate_splitOn separator
  rw [isRest] at pieces together
  simp only [parts, pieces, together]

/-- A text has four parts only where the first three separators divide it into them. -/
theorem parts_eq_four {text name iterations salt key : List Char} :
    parts text = [name, iterations, salt, key] ↔
      text = name ++ separator :: (iterations ++ separator :: (salt ++ separator :: key)) ∧
        separator ∉ name ∧ separator ∉ iterations ∧ separator ∉ salt := by
  constructor
  · intro four
    rcases divided_or_whole text with ⟨first, rest, rfl, firstEnds⟩ | whole
    case inr => simp [parts, List.splitOn_eq_singleton whole] at four
    rcases divided_or_whole rest with ⟨second, rest, rfl, secondEnds⟩ | whole
    case inr =>
      simp [parts, List.splitOn_append_cons_self_of_not_mem firstEnds,
        List.splitOn_eq_singleton whole] at four
    rcases divided_or_whole rest with ⟨third, rest, rfl, thirdEnds⟩ | whole
    case inr =>
      simp [parts, List.splitOn_append_cons_self_of_not_mem firstEnds,
        List.splitOn_append_cons_self_of_not_mem secondEnds,
        List.splitOn_eq_singleton whole] at four
    rw [parts_of_divided firstEnds secondEnds thirdEnds] at four
    simp only [List.cons.injEq, and_true] at four
    obtain ⟨rfl, rfl, rfl, rfl⟩ := four
    exact ⟨rfl, firstEnds, secondEnds, thirdEnds⟩
  · rintro ⟨rfl, nameEnds, iterationsEnd, saltEnds⟩
    exact parts_of_divided nameEnds iterationsEnd saltEnds

/-- A stored secret is found in a text exactly when the text spells it. -/
theorem read?_eq_some {text : String} {stored : Stored} :
    read? text = some stored ↔ Spells text stored := by
  unfold read?
  constructor
  · intro found
    split at found
    · next name iterations salt key four =>
      obtain ⟨whole, nameEnds, iterationsEnd, saltEnds⟩ := parts_eq_four.mp four
      split at found
      · cases found
      · next isScheme =>
        obtain rfl : name = scheme.toList := by
          rw [← Decidable.not_not.mp isScheme, String.toList_ofList]
        simp only [Option.bind_eq_bind, Option.bind_eq_some_iff] at found
        obtain ⟨keyBytes, isKey, saltBytes, isSalt, count, isIterations, same⟩ := found
        obtain rfl := Option.some.inj same
        exact ⟨whole, iterationsEnd, saltEnds, isIterations, isSalt, isKey⟩
    · cases found
  · rintro ⟨whole, iterationsEnd, saltEnds, isIterations, isSalt, isKey⟩
    rw [whole, parts_of_divided (by decide) iterationsEnd saltEnds]
    simp [isIterations, isSalt, isKey]

/-- A text spells one stored secret at most. -/
theorem Spells.unique {text : String} {stored other : Stored} (spells : Spells text stored)
    (spellsOther : Spells text other) : stored = other :=
  Option.some.inj ((read?_eq_some.mpr spells).symm.trans (read?_eq_some.mpr spellsOther))

/-- A text that spells a stored secret is not empty: it has separators in it. -/
theorem Spells.ne_empty {text : String} {stored : Stored} (spells : Spells text stored) :
    text ≠ "" := by
  rintro rfl
  obtain ⟨whole, _, _, _, _, _⟩ := spells
  simp [scheme] at whole

end Introspection.Secret
