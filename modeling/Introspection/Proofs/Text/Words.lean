import Introspection.Text.Blank

/-!
# Words of a text

What the words of a text are is settled by two laws: a blank divides the text, and the words of
both sides are its words (`words_append_cons`); and a text that is a word is its only word
(`IsWord.words_eq`). Of a text that is put together with single spaces, the words are therefore
those of its parts (`words_intercalate`), whatever blanks are in these, and where there are none
they are the parts themselves (`words_intercalate_of_plain`).
-/

namespace Introspection.Text

/-- Some characters, none of them blank. -/
structure IsWord (word : List Char) : Prop where
  nonempty : word ≠ []
  plain : ∀ c ∈ word, isBlank c = false

variable {text word : List Char}

/-- No part of a text that is divided at the blanks has a blank in it. -/
theorem isBlank_of_mem_splitOnP {part : List Char} (member : part ∈ text.splitOnP isBlank) :
    ∀ c ∈ part, isBlank c = false := by
  induction text generalizing part with
  | nil =>
    obtain rfl := List.mem_singleton.mp member
    exact nofun
  | cons first rest ih =>
    rw [List.splitOnP_cons_eq_if_modifyHead] at member
    split at member
    · rcases List.mem_cons.mp member with rfl | later
      · exact nofun
      · exact ih later
    · next notBlank =>
      obtain ⟨head, tail, divided⟩ :=
        List.exists_cons_of_ne_nil (List.splitOnP_ne_nil isBlank rest)
      rw [divided] at member ih
      rcases List.mem_cons.mp member with rfl | later
      · exact List.forall_mem_cons.mpr ⟨Bool.eq_false_iff.mpr notBlank, ih List.mem_cons_self⟩
      · exact ih (List.mem_cons_of_mem head later)

/-- The words of a text are words. -/
theorem isWord_of_mem_words (member : word ∈ words text) : IsWord word := by
  obtain ⟨isPart, nonempty⟩ := List.mem_filter.mp member
  exact ⟨by simpa using nonempty, isBlank_of_mem_splitOnP isPart⟩

/-- There is no space in a word. -/
theorem IsWord.space_not_mem (isWord : IsWord word) : ' ' ∉ word :=
  fun member => absurd (isWord.plain ' ' member) (by decide)

/-- A text that is a word has no other words. -/
theorem IsWord.words_eq (isWord : IsWord word) : words word = [word] := by
  rw [words, List.splitOnP_eq_singleton isWord.plain]
  exact List.filter_eq_self.mpr (by simpa using isWord.nonempty)

/-- The words of a text are those before a blank and those after it. -/
theorem words_append_cons {blank : Char} (isBlank : isBlank blank = true)
    (before after : List Char) :
    words (before ++ blank :: after) = words before ++ words after := by
  rw [words, List.splitOnP_append_cons before after isBlank, List.filter_append, words, words]

/-- The words of a text that is put together with single spaces are the words of its parts. -/
theorem words_intercalate (parts : List (List Char)) :
    words ([' '].intercalate parts) = parts.flatMap words := by
  induction parts with
  | nil => rfl
  | cons part rest ih =>
    cases rest with
    | nil => simp
    | cons next rest =>
      have divided : [' '].intercalate (part :: next :: rest) =
          part ++ ' ' :: [' '].intercalate (next :: rest) := by
        simp
      rw [divided, words_append_cons (by decide), ih, ← List.flatMap_cons]

/-- Parts without blanks are read back from a text that is put together of them with single spaces,
but for the empty ones. -/
theorem words_intercalate_of_plain {parts : List (List Char)}
    (plain : ∀ part ∈ parts, ∀ c ∈ part, isBlank c = false) :
    words ([' '].intercalate parts) = parts.filter (!·.isEmpty) := by
  rw [words_intercalate]
  induction parts with
  | nil => rfl
  | cons part rest ih =>
    obtain ⟨partPlain, restPlain⟩ := List.forall_mem_cons.mp plain
    rw [List.flatMap_cons, ih restPlain]
    by_cases empty : part = []
    · subst empty
      rfl
    · rw [IsWord.words_eq ⟨empty, partPlain⟩, List.filter_cons_of_pos (by simpa using empty),
        List.singleton_append]

/-- Words are read back from a text that they are put together to with single spaces. -/
theorem words_intercalate_of_isWord {parts : List (List Char)}
    (areWords : ∀ part ∈ parts, IsWord part) : words ([' '].intercalate parts) = parts := by
  rw [words_intercalate_of_plain fun part member => (areWords part member).plain]
  exact List.filter_eq_self.mpr fun part member => by simpa using (areWords part member).nonempty

end Introspection.Text
