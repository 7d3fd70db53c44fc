import Introspection.Json.Document
import Introspection.Proofs.Evaluation
import Introspection.Proofs.Text.Utf8

/-!
# The limit of nesting

How deeply lists and objects may stand in one another decides whether a text is read, but not what
is read: with a higher limit, what was read is read as before (`read_mono`). Where more brackets are
opened than are allowed, the text is nested too deeply, whatever comes after them
(`read_opened`). So there are JSON texts beyond every limit: brackets that are opened and closed
again are read where there are no more of them than are allowed, and are a flaw where there are
(`read_nested`, `read_nested_tooDeep`). It is the same with documents (`ofDocument_nested`).
-/

namespace Introspection.Json

section Monotony

variable {fuel depth : Nat} {text : List Char} {found : Json × List Char}

/-- What the readers read, they read with a limit that is higher by one. -/
structure Stable (fuel : Nat) : Prop where
  value {depth : Nat} {text : List Char} {found : Json × List Char} :
    readValue fuel depth text = .ok found -> readValue fuel (depth + 1) text = .ok found
  items {depth : Nat} {items : List Json} {text : List Char} {found : Json × List Char} :
    readItems fuel depth items text = .ok found -> readItems fuel (depth + 1) items text = .ok found
  members {depth : Nat} {members : List (String × Json)} {text : List Char}
      {found : Json × List Char} :
    readMembers fuel depth members text = .ok found ->
      readMembers fuel (depth + 1) members text = .ok found

theorem Stable.readValue_succ (stable : Stable fuel)
    (isRead : readValue (fuel + 1) depth text = .ok found) :
    readValue (fuel + 1) (depth + 1) text = .ok found := by
  rw [readValue.eq_def] at isRead ⊢
  dsimp only at isRead ⊢
  split at isRead
  · exact isRead
  · cases depth with
    | zero => cases isRead
    | succ depth =>
      dsimp only at isRead ⊢
      split at isRead
      · exact isRead
      · exact stable.items isRead
  · cases depth with
    | zero => cases isRead
    | succ depth =>
      dsimp only at isRead ⊢
      split at isRead
      · exact isRead
      · exact stable.members isRead
  -- What is no list and no object is read without a look at the limit.
  all_goals exact isRead

theorem Stable.readItems_succ (stable : Stable fuel) {items : List Json}
    (isRead : readItems (fuel + 1) depth items text = .ok found) :
    readItems (fuel + 1) (depth + 1) items text = .ok found := by
  rw [readItems] at isRead ⊢
  obtain ⟨⟨item, rest⟩, first, others⟩ := bind_eq_ok.mp isRead
  rw [stable.value first, ok_bind]
  dsimp only at others ⊢
  split at others
  · exact stable.items others
  · exact others
  · exact others

theorem Stable.readMembers_succ (stable : Stable fuel) {members : List (String × Json)}
    (isRead : readMembers (fuel + 1) depth members text = .ok found) :
    readMembers (fuel + 1) (depth + 1) members text = .ok found := by
  rw [readMembers.eq_def] at isRead ⊢
  dsimp only at isRead ⊢
  split at isRead
  · obtain ⟨⟨name, rest⟩, isName, isRead⟩ := bind_eq_ok.mp isRead
    rw [isName, ok_bind]
    dsimp only at isRead ⊢
    split at isRead
    · obtain ⟨⟨value, rest⟩, isValue, others⟩ := bind_eq_ok.mp isRead
      rw [stable.value isValue, ok_bind]
      dsimp only at others ⊢
      split at others
      · exact stable.members others
      · exact others
      · exact others
    · exact isRead
  · exact isRead

theorem stable (fuel : Nat) : Stable fuel := by
  induction fuel with
  | zero => exact ⟨nofun, nofun, nofun⟩
  | succ fuel ih => exact ⟨ih.readValue_succ, ih.readItems_succ, ih.readMembers_succ⟩

/-- A higher limit changes nothing about what is read. -/
theorem read_mono {deeper : Nat} {value : Json} (higher : depth ≤ deeper)
    (isRead : read depth text = .ok value) : read deeper text = .ok value := by
  induction higher with
  | refl => exact isRead
  | step _ ih =>
    unfold read at ih ⊢
    obtain ⟨found, isFound, rest⟩ := bind_eq_ok.mp ih
    rw [(stable _).value isFound]
    exact rest

end Monotony

section Brackets

/-- A list that begins with a list: its first item is read with a limit that is lower by one. -/
theorem readValue_open (fuel depth : Nat) (text : List Char) :
    readValue (fuel + 2) (depth + 1) ('[' :: '[' :: text) = (do
      let (item, rest) <- readValue fuel depth ('[' :: text)
      match skipSpace rest with
      | ',' :: rest => readItems fuel depth [item] (skipSpace rest)
      | ']' :: rest => .ok (.list [item], rest)
      | _ => .error .malformed) := rfl

/-- More brackets than are allowed are too many where the last of them stands. -/
theorem readValue_opened (fuel depth : Nat) (rest : List Char) :
    readValue (fuel + 2 * depth + 1) depth (List.replicate (depth + 1) '[' ++ rest) =
      .error .tooDeep := by
  induction depth with
  | zero => rfl
  | succ depth ih =>
    rw [show fuel + 2 * (depth + 1) + 1 = fuel + 2 * depth + 1 + 2 by omega, List.replicate_succ,
      List.replicate_succ, List.cons_append, List.cons_append, readValue_open, ← List.cons_append,
      ← List.replicate_succ, ih, error_bind]

/-- Where more brackets are opened than are allowed, the text is nested too deeply. -/
theorem read_opened {depth count : Nat} (more : depth < count) (rest : List Char) :
    read depth (List.replicate count '[' ++ rest) = .error .tooDeep := by
  obtain ⟨others, rfl⟩ : ∃ others, count = depth + 1 + others := Nat.exists_eq_add_of_le more
  have starts : skipSpace (List.replicate (depth + 1 + others) '[' ++ rest) =
      List.replicate (depth + 1) '[' ++ (List.replicate others '[' ++ rest) := by
    rw [← List.replicate_append_replicate, List.append_assoc]
    rfl
  obtain ⟨fuel, fuel_eq⟩ : ∃ fuel,
      2 * (List.replicate (depth + 1 + others) '[' ++ rest).length + 1 = fuel + 2 * depth + 1 := by
    refine ⟨2 * (1 + others + rest.length), ?_⟩
    rw [List.length_append, List.length_replicate]
    omega
  rw [read, starts, fuel_eq, readValue_opened, error_bind]

/-- Lists in one another, each with the next one as its only item, the last one empty. -/
def nested : Nat -> Json
  | 0 => .list []
  | inner + 1 => .list [nested inner]

/-- The text of lists in one another. -/
def nestedText (inner : Nat) : List Char :=
  List.replicate (inner + 1) '[' ++ List.replicate (inner + 1) ']'

theorem nestedText_append (inner : Nat) (rest : List Char) :
    nestedText inner ++ rest =
      '[' :: (List.replicate inner '[' ++ List.replicate (inner + 1) ']' ++ rest) := rfl

theorem nestedText_succ_append (inner : Nat) (rest : List Char) :
    nestedText (inner + 1) ++ rest = '[' :: (nestedText inner ++ ']' :: rest) := by
  have closed : List.replicate (inner + 1 + 1) ']' ++ rest =
      List.replicate (inner + 1) ']' ++ ']' :: rest := by
    rw [List.replicate_succ', List.append_assoc, List.singleton_append]
  rw [nestedText, nestedText, List.append_assoc, closed, List.replicate_succ, List.cons_append,
    List.append_assoc]

theorem readValue_nested (fuel : Nat) {inner depth : Nat} (within : inner < depth)
    (rest : List Char) :
    readValue (fuel + 2 * inner + 1) depth (nestedText inner ++ rest) =
      .ok (nested inner, rest) := by
  obtain ⟨depth, rfl⟩ := Nat.exists_eq_add_one_of_ne_zero (Nat.ne_zero_of_lt within)
  induction inner generalizing depth rest with
  | zero => rfl
  | succ inner ih =>
    obtain ⟨lower, rfl⟩ := Nat.exists_eq_add_one_of_ne_zero (n := depth) (by omega)
    have item := ih (']' :: rest) lower (by omega)
    rw [nestedText_append] at item
    rw [show fuel + 2 * (inner + 1) + 1 = fuel + 2 * inner + 1 + 2 by omega,
      nestedText_succ_append, nestedText_append, readValue_open, item]
    rfl

/-- Lists in one another are read where no more of them are opened than are allowed. -/
theorem read_nested {inner depth : Nat} (within : inner < depth) :
    read depth (nestedText inner) = .ok (nested inner) := by
  obtain ⟨fuel, fuel_eq⟩ : ∃ fuel, 2 * (nestedText inner).length + 1 = fuel + 2 * inner + 1 := by
    refine ⟨2 * (inner + 2), ?_⟩
    simp only [nestedText, List.length_append, List.length_replicate]
    omega
  have isRead := readValue_nested fuel within []
  rw [List.append_nil] at isRead
  have starts : skipSpace (nestedText inner) = nestedText inner := rfl
  rw [read, starts, fuel_eq, isRead]
  rfl

/-- Lists in one another are nested too deeply where more of them are opened. -/
theorem read_nested_tooDeep {inner depth : Nat} (beyond : depth ≤ inner) :
    read depth (nestedText inner) = .error .tooDeep :=
  read_opened (Nat.lt_succ_of_le beyond) _

/-- The document of lists in one another. -/
def nestedDocument (inner : Nat) : List UInt8 := Text.utf8 (String.ofList (nestedText inner))

theorem isAscii_nestedText (inner : Nat) : Text.IsAscii (String.ofList (nestedText inner)) := by
  intro c member
  rw [String.toList_ofList, nestedText, List.mem_append, List.mem_replicate,
    List.mem_replicate] at member
  rcases member with ⟨_, rfl⟩ | ⟨_, rfl⟩
  · decide
  · decide

/-- The document begins with two brackets, so it is taken as UTF-8. -/
theorem documentText?_nested (inner : Nat) :
    documentText? (nestedDocument inner) =
      (Text.Utf8.decode? (nestedDocument inner)).map String.toList := by
  rw [nestedDocument, Text.utf8, String.toList_ofList]
  cases inner with
  | zero => rfl
  | succ => rfl

/-- A document of lists in one another is read as their text is. -/
theorem ofDocument_nested (depth inner : Nat) :
    ofDocument depth (nestedDocument inner) = read depth (nestedText inner) := by
  rw [ofDocument, documentText?_nested, nestedDocument,
    Text.Utf8.decode?_utf8 (isAscii_nestedText inner), Option.map_some, String.toList_ofList]
  rfl

end Brackets

end Introspection.Json
