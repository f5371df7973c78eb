import Mathlib.Data.Option.Basic
import PrivateLink.Proofs.Json.Spelling

/-!
# The order of members

A writer of objects may take members in any order, and one that takes them from a hash table does.
`Rearranged` relates documents that differ in the order of members, at any depth. As long as no name
occurs twice, the fields of an object are the same for it.

* `Spellable.of_rearranged`: a document with a spelling has one in any order of its members;
* `RearrangedMembers.lookup`, `lookup_perm`: what is found under a name, when values are rearranged
  and when members are.
-/

namespace PrivateLink.Json

mutual

/-- The second document is the first one with the members of objects in another order. -/
def Rearranged : Json → Json → Prop
  | .null, other => other = .null
  | .bool value, other => other = .bool value
  | .number value, other => other = .number value
  | .string literal, other => other = .string literal
  | .array items, other => ∃ others, other = .array others ∧ RearrangedItems items others
  | .object members, other => ∃ between others,
    other = .object others ∧ RearrangedMembers members between ∧ between.Perm others
termination_by structural json => json

/-- Each item is rearranged in its place. -/
def RearrangedItems : List Json → List Json → Prop
  | [], others => others = []
  | item :: items, others => ∃ other rest,
    others = other :: rest ∧ Rearranged item other ∧ RearrangedItems items rest
termination_by structural items => items

/-- The value of each member is rearranged, and the members keep their order. -/
def RearrangedMembers : List (Literal × Json) → List (Literal × Json) → Prop
  | [], others => others = []
  | member :: members, others => ∃ other rest,
    others = other :: rest ∧ RearrangedMember member other ∧ RearrangedMembers members rest
termination_by structural members => members

/-- The value of the member is rearranged. -/
def RearrangedMember : Literal × Json → Literal × Json → Prop
  | (name, value), other => name = other.1 ∧ Rearranged value other.2
termination_by structural member => member

end

/-- Null is nothing else rearranged. -/
theorem eq_null_of_rearranged {json : Json} (h : Rearranged json .null) : json = .null := by
  cases json with
  | null => rfl
  | array => exact absurd h fun ⟨_, h, _⟩ => nomatch h
  | object => exact absurd h fun ⟨_, _, h, _⟩ => nomatch h
  | _ => cases (show _ = _ from h)

mutual

/-- A document with a spelling has one in any order of its members. -/
theorem Spellable.of_rearranged : ∀ (json : Json) {other : Json}, Rearranged json other →
    Spellable json → Spellable other
  | .null, _, rfl, h | .bool _, _, rfl, h | .number _, _, rfl, h | .string _, _, rfl, h => h
  | .array items, _, ⟨_, rfl, hitems⟩, h => SpellableItems.of_rearranged items hitems h
  | .object members, _, ⟨_, _, rfl, hmembers, hperm⟩, h =>
    spellableMembers_iff.2 fun member hmember =>
      spellableMembers_iff.1 (SpellableMembers.of_rearranged members hmembers h) member
        (hperm.mem_iff.2 hmember)

theorem SpellableItems.of_rearranged : ∀ (items : List Json) {others : List Json},
    RearrangedItems items others → SpellableItems items → SpellableItems others
  | [], _, rfl, h => h
  | item :: items, _, ⟨_, _, rfl, hitem, hitems⟩, ⟨h, hrest⟩ =>
    ⟨Spellable.of_rearranged item hitem h, SpellableItems.of_rearranged items hitems hrest⟩

theorem SpellableMembers.of_rearranged : ∀ (members : List (Literal × Json))
    {others : List (Literal × Json)}, RearrangedMembers members others →
    SpellableMembers members → SpellableMembers others
  | [], _, rfl, h => h
  | member :: members, _, ⟨_, _, rfl, hmember, hmembers⟩, ⟨h, hrest⟩ =>
    ⟨SpellableMember.of_rearranged member hmember h,
      SpellableMembers.of_rearranged members hmembers hrest⟩

theorem SpellableMember.of_rearranged : ∀ (member : Literal × Json) {other : Literal × Json},
    RearrangedMember member other → SpellableMember member → SpellableMember other
  | (_, value), (_, _), ⟨rfl, hvalue⟩, ⟨hname, h⟩ =>
    ⟨hname, Spellable.of_rearranged value hvalue h⟩

end

/-! ### What is found under a name -/

variable {members others between : List (Literal × Json)}

/-- The names stand in their order when only the values are rearranged. -/
theorem RearrangedMembers.names (h : RearrangedMembers members others) :
    members.map Prod.fst = others.map Prod.fst := by
  induction members generalizing others with
  | nil => rw [show others = [] from h]
  | cons member members ih =>
    obtain ⟨other, rest, rfl, hmember, hrest⟩ := h
    obtain ⟨name, value⟩ := member
    rw [List.map_cons, List.map_cons, ih hrest, hmember.1]

/-- Under a name there is a rearranged value, or there is nothing as before. -/
theorem RearrangedMembers.lookup (h : RearrangedMembers members others) (name : Literal) :
    Option.Rel Rearranged (members.lookup name) (others.lookup name) := by
  induction members generalizing others with
  | nil =>
    rw [show others = [] from h]
    exact .none
  | cons member members ih =>
    obtain ⟨⟨other, value⟩, rest, rfl, hmember, hrest⟩ := h
    obtain ⟨key, found⟩ := member
    obtain ⟨rfl, hvalue⟩ := hmember
    simp only [List.lookup_cons]
    cases name == key with
    | true => exact .some hvalue
    | false => exact ih hrest

/-- Members with names of their own may stand in any order. -/
theorem lookup_perm {α β : Type} [BEq α] [LawfulBEq α] {entries others : List (α × β)}
    (h : entries.Perm others) (hnodup : (entries.map Prod.fst).Nodup) (key : α) :
    entries.lookup key = others.lookup key := by
  induction h with
  | nil => rfl
  | cons entry _ ih => rw [List.lookup_cons, List.lookup_cons, ih (List.nodup_cons.1 hnodup).2]
  | swap first second rest =>
    obtain ⟨name, value⟩ := first
    obtain ⟨other, found⟩ := second
    -- The two names differ, so the key is one of them at most.
    have hne : other ≠ name := by
      rintro rfl
      exact (List.nodup_cons.1 hnodup).1 List.mem_cons_self
    simp only [List.lookup_cons]
    cases hname : key == name with
    | false => rfl
    | true => rw [eq_of_beq hname, beq_false_of_ne hne.symm]
  | trans h h' ih ih' =>
    rw [ih hnodup, ih' ((h.map Prod.fst).nodup_iff.1 hnodup)]

end PrivateLink.Json
