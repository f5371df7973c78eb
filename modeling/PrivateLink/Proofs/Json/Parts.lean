import PrivateLink.Proofs.Json.Document

/-!
# The parts of a document

A document stands in itself, and so does whatever stands in one of its items or members (`Occurs`).
Being a value is a matter of the parts: it can be said of all items at once, and of all entries of
an object whose names ascend. A reader of values gives nothing but values.

* `areValues_iff`, `membersAreValues_iff`: what items and members have to be;
* `isValue_of_value`: what is read as a value is one.
-/

namespace PrivateLink.Json

/-- The part stands somewhere in a document, which may be the part itself. -/
inductive Occurs (part : Json) : Json → Prop
  | here : Occurs part part
  | item {item : Json} {items : List Json} (hmem : item ∈ items) (hinside : Occurs part item) :
      Occurs part (.array items)
  | member {member : Literal × Json} {members : List (Literal × Json)} (hmem : member ∈ members)
      (hinside : Occurs part member.2) : Occurs part (.object members)

/-! ### Values -/

theorem areValues_iff {items : List Json} : AreValues items ↔ ∀ item ∈ items, item.IsValue := by
  induction items with
  | nil => exact iff_of_true trivial (List.forall_mem_nil _)
  | cons item items ih => rw [AreValues, ih, List.forall_mem_cons]

theorem membersAreValues_iff {entries : List (String × Json)} :
    MembersAreValues (entries.map fun entry => (some entry.1, entry.2)) ↔
      ∀ entry ∈ entries, entry.2.IsValue := by
  induction entries with
  | nil => exact iff_of_true trivial (List.forall_mem_nil _)
  | cons entry entries ih =>
    rw [List.map_cons, MembersAreValues, ih, List.forall_mem_cons, MemberIsValue,
      and_iff_right Option.isSome_some]

mutual

/-- **What is read as a value is one.** -/
theorem isValue_of_value : ∀ (json : Json) {levels : Nat} {found : Json},
    json.value levels = some found → found.IsValue
  | .null, _, _, h => by
    cases h
    trivial
  | .bool _, _, _, h => by
    cases h
    trivial
  | .number _, _, _, h => by
    obtain ⟨hfinite, hfound⟩ := Option.ite_none_right_eq_some.1 h
    cases hfound
    exact hfinite
  | .string _, _, _, h => by
    obtain ⟨text, -, rfl⟩ := Option.map_eq_some_iff.1 h
    exact Option.isSome_some
  | .array items, _, _, h => by
    rw [value] at h
    obtain ⟨-, hread⟩ := Option.ite_none_left_eq_some.1 h
    obtain ⟨found, hfound, rfl⟩ := Option.map_eq_some_iff.1 hread
    exact areValues_iff.2 (isValue_of_mem_valueItems items hfound)
  | .object members, _, _, h => by
    rw [value] at h
    obtain ⟨-, hread⟩ := Option.ite_none_left_eq_some.1 h
    obtain ⟨found, hfound, rfl⟩ := Option.map_eq_some_iff.1 hread
    refine ⟨⟨entriesOf found, rfl, ascending_entriesOf found⟩, membersAreValues_iff.2 ?_⟩
    exact fun entry hmem =>
      isValue_of_mem_valueMembers members hfound entry (mem_of_mem_entriesOf hmem)

theorem isValue_of_mem_valueItems : ∀ (items : List Json) {levels : Nat} {found : List Json},
    valueItems levels items = some found → ∀ item ∈ found, item.IsValue
  | [], _, _, h => by
    cases h
    exact List.forall_mem_nil _
  | item :: items, _, _, h => by
    rw [valueItems] at h
    obtain ⟨first, hfirst, h⟩ := Option.bind_eq_some_iff.1 h
    obtain ⟨rest, hrest, h⟩ := Option.bind_eq_some_iff.1 h
    cases h
    exact List.forall_mem_cons.2
      ⟨isValue_of_value item hfirst, isValue_of_mem_valueItems items hrest⟩

theorem isValue_of_mem_valueMembers : ∀ (members : List (Literal × Json)) {levels : Nat}
    {found : List (String × Json)}, valueMembers levels members = some found →
    ∀ entry ∈ found, entry.2.IsValue
  | [], _, _, h => by
    cases h
    exact List.forall_mem_nil _
  | (name, json) :: members, _, _, h => by
    rw [valueMembers] at h
    obtain ⟨first, hfirst, h⟩ := Option.bind_eq_some_iff.1 h
    obtain ⟨rest, hrest, h⟩ := Option.bind_eq_some_iff.1 h
    cases h
    rw [valueMember] at hfirst
    obtain ⟨name, -, hfirst⟩ := Option.bind_eq_some_iff.1 hfirst
    obtain ⟨value, hvalue, hfirst⟩ := Option.bind_eq_some_iff.1 hfirst
    cases hfirst
    exact List.forall_mem_cons.2
      ⟨isValue_of_value json hvalue, isValue_of_mem_valueMembers members hrest⟩

end

end PrivateLink.Json
