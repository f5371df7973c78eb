import PrivateLink.Attribute.Rendering
import PrivateLink.Proofs.Json.Document
import PrivateLink.Proofs.Json.Spelling

/-!
# Attribute values and their JSON forms

The JSON form of a value holds no null and no number but whole ones of sixty-four bits, and the
members of its objects ascend as the entries of maps do. So it can be spelled, it is a value for
readers of documents, and the attribute value is found in it again.

* `Value.spellable_toJson`, `Value.isValue_toJson`: what kind of document the JSON form is;
* `Value.ofJson?_toJson`: a value is read back from its JSON form.
-/

namespace PrivateLink

/-! ### Numbers of sixty-four bits -/

theorem fitsInt64_toInt (number : Int64) : fitsInt64 number.toInt = true := by
  have hleast : -2 ^ 63 ≤ number.toInt := number.le_toInt
  have hgreatest : number.toInt < 2 ^ 63 := number.toInt_lt
  simpa [fitsInt64] using And.intro hleast hgreatest

/-- Numbers of sixty-four bits are far from the bounds of double precision. -/
theorem isFinite_toInt (number : Int64) : (Json.Number.whole number.toInt).isFinite = true := by
  have hleast : -2 ^ 63 ≤ number.toInt := number.le_toInt
  have hgreatest : number.toInt < 2 ^ 63 := number.toInt_lt
  have hbound : 2 ^ 64 ≤ Json.infinityBound := by decide +kernel
  have hsmall : number.toInt.natAbs < Json.infinityBound := by omega
  simpa only [Json.Number.isFinite, decide_eq_true_iff] using hsmall

namespace Value

open Json

/-- The entries of a map keep their keys. -/
theorem toJsonEntries_eq_map (entries : List (String × Value)) :
    toJsonEntries entries = entries.map fun entry => (entry.1, entry.2.toJson) := by
  induction entries with
  | nil => rfl
  | cons entry entries ih => rw [toJsonEntries, ih, List.map_cons, toJsonEntry]

theorem ascending_toJsonEntries_iff {entries : List (String × Value)} :
    Ascending (toJsonEntries entries) ↔ Ascending entries := by
  rw [toJsonEntries_eq_map, Ascending, List.pairwise_map]
  exact Iff.rfl

/-! ### The JSON form -/

mutual

/-- The JSON form of a value can be spelled. -/
theorem spellable_toJson : ∀ (value : Value), value.toJson.Spellable
  | .string _ => rfl
  | .int _ => trivial
  | .bool _ => trivial
  | .list items => spellableItems_toJson items
  | .map entries => spellableMembers_toJson entries

theorem spellableItems_toJson : ∀ (items : List Value), SpellableItems (toJsonItems items)
  | [] => trivial
  | item :: items => ⟨spellable_toJson item, spellableItems_toJson items⟩

theorem spellableMembers_toJson : ∀ (entries : List (String × Value)),
    SpellableMembers ((toJsonEntries entries).map fun entry => (some entry.1, entry.2))
  | [] => trivial
  | (_, value) :: entries => ⟨⟨rfl, spellable_toJson value⟩, spellableMembers_toJson entries⟩

end

mutual

/-- The JSON form of a canonical value is a value. -/
theorem isValue_toJson : ∀ (value : Value), value.Canonical → value.toJson.IsValue
  | .string _, _ => rfl
  | .int n, _ => isFinite_toInt n
  | .bool _, _ => trivial
  | .list items, hitems => areValues_toJson items hitems
  | .map entries, ⟨hascending, hentries⟩ =>
    ⟨⟨_, rfl, ascending_toJsonEntries_iff.2 hascending⟩, membersAreValues_toJson entries hentries⟩

theorem areValues_toJson : ∀ (items : List Value), CanonicalItems items →
    AreValues (toJsonItems items)
  | [], _ => trivial
  | item :: items, ⟨hitem, hitems⟩ => ⟨isValue_toJson item hitem, areValues_toJson items hitems⟩

theorem membersAreValues_toJson : ∀ (entries : List (String × Value)), CanonicalEntries entries →
    MembersAreValues ((toJsonEntries entries).map fun entry => (some entry.1, entry.2))
  | [], _ => trivial
  | (_, value) :: entries, ⟨hvalue, hentries⟩ =>
    ⟨⟨rfl, isValue_toJson value hvalue⟩, membersAreValues_toJson entries hentries⟩

end

/-! ### The value of the JSON form -/

mutual

/-- **A canonical value is read back from its JSON form.** -/
theorem ofJson?_toJson : ∀ (value : Value), value.Canonical → ofJson? value.toJson = some value
  | .string _, _ => rfl
  | .int n, _ => by
    change (if fitsInt64 n.toInt then some (int (Int64.ofInt n.toInt)) else none) = _
    rw [if_pos (fitsInt64_toInt n), Int64.ofInt_toInt]
  | .bool _, _ => rfl
  | .list items, hitems => congrArg (Option.map list) (ofJsonItems?_toJson items hitems)
  | .map entries, ⟨hascending, hentries⟩ => by
    change (ofJsonMembers? ((toJsonEntries entries).map _)).map _ = _
    rw [ofJsonMembers?_toJson entries hentries, Option.map_some, entriesOf_of_ascending hascending]

theorem ofJsonItems?_toJson : ∀ (items : List Value), CanonicalItems items →
    ofJsonItems? (toJsonItems items) = some items
  | [], _ => rfl
  | item :: items, ⟨hitem, hitems⟩ => by
    rw [toJsonItems, ofJsonItems?, ofJson?_toJson item hitem, ofJsonItems?_toJson items hitems]
    rfl

theorem ofJsonMembers?_toJson : ∀ (entries : List (String × Value)), CanonicalEntries entries →
    ofJsonMembers? ((toJsonEntries entries).map fun entry => (some entry.1, entry.2)) = some entries
  | [], _ => rfl
  | (key, value) :: entries, ⟨hvalue, hentries⟩ => by
    have hmember : ofJsonMember? (some key, value.toJson) = some (key, value) := by
      rw [ofJsonMember?, ofJson?_toJson value hvalue]
      rfl
    rw [toJsonEntries, toJsonEntry, List.map_cons, ofJsonMembers?, hmember,
      ofJsonMembers?_toJson entries hentries]
    rfl

end

end Value

end PrivateLink
