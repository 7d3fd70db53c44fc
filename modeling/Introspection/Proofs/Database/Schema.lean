import Introspection.Database
import Introspection.Proofs.Evaluation

/-!
# Rows of a schema

What columns hold when they are of the types that are declared for them: a text, a text or
nothing, scopes as a text of words or a list of names. Of such rows every record can be made, and
it is said here which one, without the ways of normalizing a column or of reporting its defects.
-/

namespace Introspection

namespace Json

/-- A column for a text that may be absent. -/
inductive IsOptionalText : Json -> Prop
  | absent : IsOptionalText .null
  | present (text : String) : IsOptionalText (.string text)

/-- A column for scopes: none, a text of words, or a list of names. -/
inductive IsScope : Json -> Prop
  | absent : IsScope .null
  | words (text : String) : IsScope (.string text)
  | names (names : List String) : IsScope (.list (names.map .string))

end Json

namespace Checked

variable {α β : Type}

@[simp] theorem map_valid (f : α -> β) (value : α) :
    f <$> (valid value : Checked α) = valid (f value) := rfl

@[simp] theorem seq_valid (f : α -> β) (value : α) :
    (valid f : Checked (α -> β)) <*> valid value = valid (f value) := rfl

@[simp] theorem under_valid (place : Place) (value : α) :
    (valid value : Checked α).under place = valid value := rfl

@[simp] theorem toExcept_valid (value : α) : (valid value).toExcept = .ok value := rfl

/-- What is made of a value that is read has no defects where the value has none. -/
theorem map_eq_valid {f : α -> β} {checked : Checked α} {made : β} :
    f <$> checked = valid made ↔ ∃ value, checked = valid value ∧ f value = made := by
  cases checked with
  | valid value => simp
  | invalid errors => exact ⟨nofun, fun ⟨_, read, _⟩ => nomatch read⟩

/-- What is made of two values has no defects where neither of them has. -/
theorem seq_eq_valid {f : Checked (α -> β)} {checked : Checked α} {made : β} :
    f <*> checked = valid made ↔
      ∃ g value, f = valid g ∧ checked = valid value ∧ g value = made := by
  cases f with
  | valid g =>
    cases checked with
    | valid value => simp
    | invalid errors => exact ⟨nofun, fun ⟨_, _, _, read, _⟩ => nomatch read⟩
  | invalid errors =>
    cases checked with
    | valid value => exact ⟨nofun, fun ⟨_, _, read, _⟩ => nomatch read⟩
    | invalid more => exact ⟨nofun, fun ⟨_, _, read, _⟩ => nomatch read⟩

theorem under_eq_valid {checked : Checked α} {place : Place} {value : α} :
    checked.under place = valid value ↔ checked = valid value := by
  cases checked with
  | valid value => rfl
  | invalid errors => simp [under]

theorem toExcept_eq_ok {checked : Checked α} {value : α} :
    checked.toExcept = .ok value ↔ checked = valid value := by
  cases checked with
  | valid value => simp
  | invalid errors => simp [toExcept]

/-- Only a text is read as one. -/
theorem text_eq_valid {stored : Json} {value : String} :
    text stored = valid value ↔ stored = .string value := by
  cases stored <;> simp [text, defect]

/-- A text that may be absent is read as it is there. -/
theorem optional_text {stored : Json} (typed : stored.IsOptionalText) :
    optional text stored = valid stored.string? := by
  cases typed with
  | absent => rfl
  | present text => rfl

end Checked

namespace Scope

/-- The scopes that a column names: the words of a text, or the items of a list without the empty
ones. -/
def named : Json -> ScopeSet
  | .string text => .ofText text
  | .list items => .ofList ((items.filterMap Json.string?).filter (!·.isEmpty))
  | _ => .empty

/-- Adding texts one by one, none of them twice, leaves texts, those there were and those that
were added. -/
theorem foldl_addDistinct (names seen : List String) :
    ∃ kept : List String,
      (names.map Json.string).foldl addDistinct (seen.map .string) = kept.map .string ∧
        ∀ name, name ∈ kept ↔ name ∈ seen ∨ name ∈ names := by
  induction names generalizing seen with
  | nil => exact ⟨seen, rfl, by simp⟩
  | cons first rest ih =>
    have added : addDistinct (seen.map .string) (.string first) =
        (if first ∈ seen then seen else seen ++ [first]).map Json.string := by
      simp only [addDistinct, List.any_map, List.any_eq_true, Function.comp_apply, Json.same,
        beq_iff_eq, exists_eq_right']
      split
      · rfl
      · simp
    rw [List.map_cons, List.foldl_cons, added]
    obtain ⟨kept, folded, members⟩ := ih (if first ∈ seen then seen else seen ++ [first])
    refine ⟨kept, folded, fun name => ?_⟩
    rw [members]
    split
    · next already =>
      rw [List.mem_cons]
      constructor
      · rintro (inSeen | inRest)
        · exact .inl inSeen
        · exact .inr (.inr inRest)
      · rintro (inSeen | rfl | inRest)
        · exact .inl inSeen
        · exact .inl already
        · exact .inr inRest
    · simp [or_assoc]

/-- The names of a list that are not void are those that are not empty. -/
theorem filter_isVoid_map_string (names : List String) :
    (names.map Json.string).filter (fun item => !item.isVoid) =
      (names.filter (!·.isEmpty)).map .string := by
  rw [List.filter_map]
  rfl

/-- The distinct members among names are the names that are not empty. -/
theorem distinctMembers_names (names : List String) :
    ∃ kept : List String, distinctMembers (names.map .string) = .ok (kept.map .string) ∧
      ScopeSet.ofList kept = ScopeSet.ofList (names.filter (!·.isEmpty)) := by
  obtain ⟨kept, folded, members⟩ := foldl_addDistinct (names.filter (!·.isEmpty)) []
  have atoms : ((names.filter (!·.isEmpty)).map Json.string).all isAtom = true := by
    simp [isAtom]
  refine ⟨kept, ?_, ?_⟩
  · simp only [distinctMembers, filter_isVoid_map_string, atoms, if_true]
    exact congrArg Except.ok folded
  · refine ScopeSet.ext_mem fun name => ?_
    rw [ScopeSet.mem_ofList, ScopeSet.mem_ofList, members]
    simp

/-- The members of a list are its distinct members, also of an empty one. -/
theorem members_list (items : List Json) : members (.list items) = distinctMembers items := by
  cases items with
  | nil => rfl
  | cons first rest => simp [members, Json.isVoid]

/-- The members of a text are its distinct words, also of an empty one. -/
theorem members_string (text : String) :
    members (.string text) =
      distinctMembers (((Text.words text.toList).map String.ofList).map .string) := by
  by_cases empty : text.isEmpty = true
  · obtain rfl : text = "" := by simpa using empty
    rfl
  · simp [members, Json.isVoid, empty, Function.comp_def]

/-- The members of a column are the texts that it names. -/
theorem members_of_isScope {stored : Json} (typed : stored.IsScope) :
    ∃ kept : List String, members stored = .ok (kept.map .string) ∧
      ScopeSet.ofList kept = named stored := by
  cases typed with
  | absent => exact ⟨[], rfl, rfl⟩
  | words text =>
    obtain ⟨kept, distinct, same⟩ :=
      distinctMembers_names ((Text.words text.toList).map String.ofList)
    refine ⟨kept, (members_string text).trans distinct, same.trans ?_⟩
    -- No word is empty.
    rw [named, ScopeSet.ofText, List.filter_eq_self.mpr]
    intro name member
    obtain ⟨word, isWord, rfl⟩ := List.mem_map.mp member
    have nonempty : word ≠ [] := by simpa using (List.mem_filter.mp isWord).2
    simpa using nonempty
  | names names =>
    obtain ⟨kept, distinct, same⟩ := distinctMembers_names names
    have texts : (names.map Json.string).filterMap Json.string? = names := by
      simp [List.filterMap_map, Function.comp_def, Json.string?]
    refine ⟨kept, (members_list _).trans distinct, ?_⟩
    rw [named, texts, same]

/-- Of a column that names scopes, a set of them can be made. -/
theorem column_of_isScope (field : String) {stored : Json} (typed : stored.IsScope) :
    column field stored = .ok (.valid (named stored)) := by
  obtain ⟨kept, found, same⟩ := members_of_isScope typed
  have sound : defects field (kept.map .string) = [] := by
    simp [defects, Json.string?]
  have texts : (kept.map Json.string).filterMap Json.string? = kept := by
    simp [List.filterMap_map, Function.comp_def, Json.string?]
  simp only [column, found, ok_bind, sound, pure_eq_ok, ofMembers, texts, same]

end Scope

end Introspection
