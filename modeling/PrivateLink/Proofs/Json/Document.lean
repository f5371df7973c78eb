import PrivateLink.Json.Document
import PrivateLink.Proofs.Dictionary

/-!
# Documents that are values

A document that a reader of values gives back stands for itself: its strings are texts, its numbers
are finite, and the members of its objects ascend (`IsValue`). Read as a value once more it stays as
it is, as long as it does not nest deeper than the reader allows (`nesting`).

* `value_of_isValue`: a value is read as itself.
-/

namespace PrivateLink.Json

/-! ### Nesting -/

mutual

/-- The levels of arrays and objects in the document, an empty one being a level too. -/
def nesting : Json → Nat
  | .null | .bool _ | .number _ | .string _ => 0
  | .array items => nestingItems items + 1
  | .object members => nestingMembers members + 1

/-- The levels in the deepest item. -/
def nestingItems : List Json → Nat
  | [] => 0
  | item :: items => max (nesting item) (nestingItems items)

/-- The levels in the deepest member. -/
def nestingMembers : List (Literal × Json) → Nat
  | [] => 0
  | member :: members => max (nestingMember member) (nestingMembers members)

/-- The levels in the value of the member. -/
def nestingMember : Literal × Json → Nat
  | (_, json) => nesting json

end

/-! ### Values -/

mutual

/-- Every string of the document stands for a text, every number is finite, and the members of every
object ascend. -/
def IsValue : Json → Prop
  | .null | .bool _ => True
  | .number n => n.isFinite = true
  | .string literal => literal.isSome
  | .array items => AreValues items
  | .object members =>
    (∃ entries, members = entries.map (fun entry => (some entry.1, entry.2)) ∧
      Ascending entries) ∧ MembersAreValues members

/-- Every item is a value. -/
def AreValues : List Json → Prop
  | [] => True
  | item :: items => IsValue item ∧ AreValues items

/-- Every member has a name and a value. -/
def MembersAreValues : List (Literal × Json) → Prop
  | [] => True
  | member :: members => MemberIsValue member ∧ MembersAreValues members

/-- The member has a name and a value. -/
def MemberIsValue : Literal × Json → Prop
  | (name, json) => name.isSome ∧ IsValue json

end

/-- Members with names are the entries that they were made of. -/
theorem entries_injective {entries others : List (String × Json)}
    (h : (entries.map fun entry => ((some entry.1 : Literal), entry.2)) =
      others.map fun entry => (some entry.1, entry.2)) : entries = others := by
  refine (List.map_inj_right ?_).1 h
  rintro ⟨_, _⟩ ⟨_, _⟩ ⟨⟩
  rfl

mutual

/-- **A value is read as itself** where its nesting is allowed. -/
theorem value_of_isValue : ∀ (json : Json) {levels : Nat}, json.IsValue → json.nesting ≤ levels →
    json.value levels = some json
  | .null, _, _, _ => rfl
  | .bool _, _, _, _ => rfl
  | .number _, _, hfinite, _ => if_pos hfinite
  | .string (some _), _, _, _ => rfl
  | .array items, levels, hitems, hnesting => by
    rw [nesting] at hnesting
    have hdeep : nestingItems items ≤ levels - 1 := by omega
    have hread := valueItems_of_areValues items hitems hdeep
    rw [value, if_neg (by omega), hread, Option.map_some]
  | .object members, levels, ⟨⟨entries, hentries, hascending⟩, hmembers⟩, hnesting => by
    rw [nesting] at hnesting
    have hdeep : nestingMembers members ≤ levels - 1 := by omega
    obtain ⟨found, hfound, hread⟩ := valueMembers_of_areValues members hmembers hdeep
    -- The members are the same entries either way, and they ascend already.
    have hsame : found = entries := entries_injective (hfound.symm.trans hentries)
    subst hsame
    rw [value, if_neg (by omega), hread, Option.map_some, entriesOf_of_ascending hascending,
      ofMembers, hfound]

theorem valueItems_of_areValues : ∀ (items : List Json) {levels : Nat}, AreValues items →
    nestingItems items ≤ levels → valueItems levels items = some items
  | [], _, _, _ => rfl
  | item :: items, levels, ⟨hitem, hitems⟩, hnesting => by
    obtain ⟨hhead, hrest⟩ := Nat.max_le.1 hnesting
    rw [valueItems, value_of_isValue item hitem hhead, valueItems_of_areValues items hitems hrest]
    rfl

theorem valueMembers_of_areValues : ∀ (members : List (Literal × Json)) {levels : Nat},
    MembersAreValues members → nestingMembers members ≤ levels →
    ∃ entries : List (String × Json),
      members = entries.map (fun entry => (some entry.1, entry.2)) ∧
        valueMembers levels members = some entries
  | [], _, _, _ => ⟨[], rfl, rfl⟩
  | (some name, json) :: members, levels, ⟨⟨_, hjson⟩, hmembers⟩, hnesting => by
    obtain ⟨hhead, hrest⟩ := Nat.max_le.1 hnesting
    have hvalue : valueMember levels (some name, json) = some (name, json) := by
      rw [valueMember, value_of_isValue json hjson hhead]
      rfl
    obtain ⟨entries, rfl, hread⟩ := valueMembers_of_areValues members hmembers hrest
    refine ⟨(name, json) :: entries, rfl, ?_⟩
    rw [valueMembers, hvalue, hread]
    rfl

end

/-- The members of a value are read as its entries. -/
theorem valueMembers_entries {entries : List (String × Json)} {levels : Nat}
    (h : MembersAreValues (entries.map fun entry => (some entry.1, entry.2)))
    (hnesting : nestingMembers (entries.map fun entry => (some entry.1, entry.2)) ≤ levels) :
    valueMembers levels (entries.map fun entry => (some entry.1, entry.2)) = some entries := by
  obtain ⟨found, hfound, hread⟩ := valueMembers_of_areValues _ h hnesting
  rw [hread, entries_injective hfound]

end PrivateLink.Json
