import Introspection.Failure
import Introspection.Json.Printer
import Introspection.Text.Blank

/-!
# Scopes

Sets of scope names, kept strictly increasing, so that equal sets are equal values. A stored scope
is a text of words or a list of names; either way empty names are dropped. Also the two rules by
which the scopes of a requester are held against those of a token.
-/

namespace Introspection

/-- A set of scope names, strictly increasing by code point. -/
structure ScopeSet where
  members : List String
  increasing : members.Pairwise (· < ·)
  deriving DecidableEq

namespace ScopeSet

/-- A name put in its place among increasing ones, unless it is there already. -/
def insertName (name : String) : List String -> List String
  | [] => [name]
  | other :: rest =>
    if name < other then name :: other :: rest
    else if other < name then other :: insertName name rest
    else other :: rest

theorem mem_insertName {name x : String} {names : List String} :
    x ∈ insertName name names ↔ x = name ∨ x ∈ names := by
  induction names with
  | nil => simp [insertName]
  | cons other rest ih =>
    unfold insertName
    split
    · simp
    · split
      · simp [ih, or_left_comm]
      · next notLess notGreater =>
        have same : name = other :=
          String.le_antisymm (String.not_lt.mp notGreater) (String.not_lt.mp notLess)
        simp [same]

theorem insertName_increasing {name : String} {names : List String}
    (increasing : names.Pairwise (· < ·)) : (insertName name names).Pairwise (· < ·) := by
  induction names with
  | nil => simp [insertName]
  | cons other rest ih =>
    obtain ⟨above, restIncreasing⟩ := List.pairwise_cons.mp increasing
    unfold insertName
    split
    · next less =>
      refine List.pairwise_cons.mpr ⟨fun x member => ?_, increasing⟩
      rcases List.mem_cons.mp member with rfl | member
      · exact less
      · exact String.lt_trans less (above x member)
    · split
      · next greater =>
        refine List.pairwise_cons.mpr ⟨fun x member => ?_, ih restIncreasing⟩
        rcases mem_insertName.mp member with rfl | member
        · exact greater
        · exact above x member
      · exact increasing

/-- The set without members. -/
def empty : ScopeSet := ⟨[], List.Pairwise.nil⟩

/-- The set with one more name. -/
def insert (name : String) (scopes : ScopeSet) : ScopeSet :=
  ⟨insertName name scopes.members, insertName_increasing scopes.increasing⟩

/-- The set of the names in a list. -/
def ofList (names : List String) : ScopeSet := names.foldr insert empty

instance : Inhabited ScopeSet := ⟨empty⟩

instance : Membership String ScopeSet := ⟨fun scopes name => name ∈ scopes.members⟩

instance (name : String) (scopes : ScopeSet) : Decidable (name ∈ scopes) :=
  inferInstanceAs (Decidable (name ∈ scopes.members))

@[simp] theorem mem_members {name : String} {scopes : ScopeSet} :
    name ∈ scopes.members ↔ name ∈ scopes := Iff.rfl

/-- No name is in the empty set. -/
theorem not_mem_empty {name : String} : ¬ name ∈ empty := List.not_mem_nil

/-- What is in a set with one more name. -/
theorem mem_insert {name x : String} {scopes : ScopeSet} :
    x ∈ scopes.insert name ↔ x = name ∨ x ∈ scopes := mem_insertName

/-- The set of the names in a list has just those as its members. -/
theorem mem_ofList {name : String} {names : List String} : name ∈ ofList names ↔ name ∈ names := by
  induction names with
  | nil => exact iff_of_false not_mem_empty List.not_mem_nil
  | cons other rest ih => rw [ofList, List.foldr_cons, mem_insert, List.mem_cons, ← ofList, ih]

/-- Sets with the same members are equal. -/
theorem ext_mem {scopes others : ScopeSet} (same : ∀ name, name ∈ scopes ↔ name ∈ others) :
    scopes = others := by
  obtain ⟨names, increasing⟩ := scopes
  obtain ⟨more, moreIncreasing⟩ := others
  suffices names = more by subst this; rfl
  replace same : ∀ name, name ∈ names ↔ name ∈ more := same
  induction names generalizing more with
  | nil => exact (List.eq_nil_iff_forall_not_mem.mpr fun name member => by
      simpa using (same name).mpr member).symm
  | cons first rest ih =>
    cases more with
    | nil => exact absurd ((same first).mp List.mem_cons_self) List.not_mem_nil
    | cons head tail =>
      obtain ⟨aboveFirst, restIncreasing⟩ := List.pairwise_cons.mp increasing
      obtain ⟨aboveHead, tailIncreasing⟩ := List.pairwise_cons.mp moreIncreasing
      have equal : first = head := by
        rcases List.mem_cons.mp ((same first).mp List.mem_cons_self) with equal | inTail
        · exact equal
        · rcases List.mem_cons.mp ((same head).mpr List.mem_cons_self) with equal | inRest
          · exact equal.symm
          · exact absurd (String.lt_trans (aboveHead first inTail) (aboveFirst head inRest))
              (String.lt_irrefl head)
      subst equal
      refine congrArg (first :: ·) (ih restIncreasing tail tailIncreasing fun name => ?_)
      constructor
      · intro member
        rcases List.mem_cons.mp ((same name).mp (List.mem_cons_of_mem _ member)) with equal | inside
        · exact absurd (equal ▸ aboveFirst name member) (String.lt_irrefl first)
        · exact inside
      · intro member
        rcases List.mem_cons.mp ((same name).mpr (List.mem_cons_of_mem _ member)) with
          equal | inside
        · exact absurd (equal ▸ aboveHead name member) (String.lt_irrefl first)
        · exact inside

/-- Whether every name of the first set is in the second. -/
def subset (scopes others : ScopeSet) : Bool := scopes.members.all (· ∈ others)

/-- Whether some name is in both sets. -/
def meets (scopes others : ScopeSet) : Bool := scopes.members.any (· ∈ others)

/-- A set is within another one when each of its members is a member there. -/
theorem subset_iff {scopes others : ScopeSet} :
    scopes.subset others = true ↔ ∀ name, name ∈ scopes -> name ∈ others := by
  simp [subset]

/-- Two sets meet in a member that both have. -/
theorem meets_iff {scopes others : ScopeSet} :
    scopes.meets others = true ↔ ∃ name, name ∈ scopes ∧ name ∈ others := by
  simp [meets]

/-- The names with single spaces between them. -/
def toText (scopes : ScopeSet) : String := (" ").intercalate scopes.members

/-- The set of the words of a text. -/
def ofText (text : String) : ScopeSet := ofList ((Text.words text.toList).map String.ofList)

end ScopeSet

namespace Scope

/-- Add a value to a list unless an equal one is in it. -/
def addDistinct (values : List Json) (value : Json) : List Json :=
  if values.any (Json.same value) then values else values ++ [value]

/-- Whether a value can be a member of a set: lists and objects cannot. -/
def isAtom : Json -> Bool
  | .list _ => false
  | .object _ => false
  | _ => true

/-- The distinct members of a list of values, void ones left out. -/
def distinctMembers (items : List Json) : Except Failure (List Json) :=
  let present := items.filter (fun item => !item.isVoid)
  if present.all isAtom then .ok (present.foldl addDistinct []) else .error .wrongType

/-- The members of a stored scope: the words of a text, the members of a list, the names of an
object. Whatever is void stores no scope; a number or `true` is none. -/
def members (stored : Json) : Except Failure (List Json) :=
  if stored.isVoid then .ok []
  else match stored with
    | .string text =>
      distinctMembers ((Text.words text.toList).map (fun word => .string (String.ofList word)))
    | .list items => distinctMembers items
    | .object fields => distinctMembers (fields.map (fun field => .string field.1))
    | _ => .error .wrongType

/-- The defects of members that are not names, which have their places before the names. -/
def defects (field : String) (values : List Json) : List FieldError :=
  (values.filter (fun value => value.string?.isNone)).zipIdx.map fun (_, place) =>
    ⟨[.field field, .index place], .notText⟩

/-- The set of the names among some values. -/
def ofMembers (values : List Json) : ScopeSet := ScopeSet.ofList (values.filterMap Json.string?)

/-- Order of the members that can be sorted together: all names, or all numbers. -/
def le? : Json -> Json -> Option Bool
  | .string a, .string b => some (a ≤ b)
  | a, b => match a.number?, b.number? with
    | some (.int x), some (.int y) => some (x ≤ y)
    | some (.int x), some (.double y) => some (y.compareInt x != some .lt)
    | some (.double x), some (.int y) => some (x.compareInt y != some .gt)
    | some (.double x), some (.double y) => some (x.compare? y != some .gt)
    | _, _ => none

/-- The members of a stored scope in increasing order, when they have one. -/
def sortedMembers (stored : Json) : Except Failure (List Json) := do
  let values <- members stored
  if values.all (fun a => values.all (fun b => (le? a b).isSome)) then
    .ok (values.mergeSort (fun a b => (le? a b).getD true))
  else .error .wrongType

end Scope

/-- How the scopes of a requester have to relate to those of a token. -/
inductive ScopeRule
  /-- Every scope of the token is one of the requester. -/
  | subset
  /-- At least one scope of the token is one of the requester. -/
  | intersect
  deriving DecidableEq, Repr

namespace ScopeRule

/-- Every rule, in the order in which they are listed. -/
def all : List ScopeRule := [.subset, .intersect]

/-- The name of a rule in the settings. -/
def name : ScopeRule -> String
  | .subset => "subset"
  | .intersect => "intersect"

/-- The rule of a name. Whatever else is given is shown in the failure. -/
def ofJson (value : Json) : Except Failure ScopeRule :=
  match all.find? (fun rule => value.string? == some rule.name) with
  | some rule => .ok rule
  | none => .error (.unknownScopeRule value.displayInner)

/-- Whether the rule holds between the scopes of a requester and those of a token. -/
def holds (rule : ScopeRule) (requesterScopes tokenScopes : ScopeSet) : Bool :=
  match rule with
  | .subset => tokenScopes.subset requesterScopes
  | .intersect => requesterScopes.meets tokenScopes

end ScopeRule

end Introspection
