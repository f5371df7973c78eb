import PrivateLink.Proofs.Attribute.Rendering
import PrivateLink.Proofs.Json.Parts

/-!
# Documents that are attribute values

A document is the JSON form of an attribute value when no null stands anywhere in it and all its
numbers are whole ones of sixty-four bits (`Json.IsConvertible`). For such a document there is one
value, and for every other one there is none, so conversion and JSON form undo each other.

One direction follows the document and finds a value for each of its parts. In the other one nothing
has to be searched for: all that stands in the JSON form of a value is a JSON form itself.

* `Value.exists_ofJson?_iff`: which documents can be converted;
* `Value.ofJson?_eq_some_iff`: to what.
-/

namespace PrivateLink

open Json

/-! ### Documents that can be converted -/

/-- No null stands anywhere in the document, and every number in it is a whole one of sixty-four
bits with a sign. -/
structure Json.IsConvertible (json : Json) : Prop where
  noNull : ¬ Occurs .null json
  allWhole : ∀ number, Occurs (.number number) json →
    ∃ n : Int, number = .whole n ∧ Int64.minValue.toInt ≤ n ∧ n ≤ Int64.maxValue.toInt

theorem fitsInt64_iff {n : Int} :
    fitsInt64 n = true ↔ Int64.minValue.toInt ≤ n ∧ n ≤ Int64.maxValue.toInt := by
  have hleast : Int64.minValue.toInt = -Nat.pow 2 63 := rfl
  have hgreatest : Int64.maxValue.toInt = Nat.pow 2 63 - 1 := rfl
  rw [fitsInt64, Bool.and_eq_true, decide_eq_true_iff, decide_eq_true_iff, hleast, hgreatest,
    Int.le_sub_one_iff]

namespace Json.IsConvertible

theorem item {items : List Json} (h : (Json.array items).IsConvertible) {item : Json}
    (hmem : item ∈ items) : item.IsConvertible :=
  ⟨fun hnull => h.noNull (.item hmem hnull),
    fun number hnumber => h.allWhole number (.item hmem hnumber)⟩

theorem member {members : List (Literal × Json)} (h : (Json.object members).IsConvertible)
    {member : Literal × Json} (hmem : member ∈ members) : member.2.IsConvertible :=
  ⟨fun hnull => h.noNull (.member hmem hnull),
    fun number hnumber => h.allWhole number (.member hmem hnumber)⟩

end Json.IsConvertible

namespace Value

/-! ### The parts of a JSON form -/

/-- The items of a list are converted one by one. -/
theorem toJsonItems_eq_map (items : List Value) : toJsonItems items = items.map toJson := by
  induction items with
  | nil => rfl
  | cons item items ih => rw [toJsonItems, ih, List.map_cons]

/-- **Every part of a JSON form is a JSON form.** -/
theorem exists_of_occurs_toJson {part : Json} {value : Value} (h : Occurs part value.toJson) :
    ∃ inner : Value, part = inner.toJson := by
  generalize hjson : value.toJson = json at h
  induction h generalizing value with
  | here => exact ⟨value, hjson.symm⟩
  | item hmem _ ih =>
    cases value with
    | list values =>
      cases hjson
      rw [toJsonItems_eq_map] at hmem
      obtain ⟨inner, -, hinner⟩ := List.mem_map.1 hmem
      exact ih hinner
    | string | int | bool | map => cases hjson
  | member hmem _ ih =>
    cases value with
    | map entries =>
      cases hjson
      rw [toJsonEntries_eq_map, List.map_map] at hmem
      obtain ⟨entry, -, rfl⟩ := List.mem_map.1 hmem
      exact ih rfl
    | string | int | bool | list => cases hjson

theorem isConvertible_toJson (value : Value) : value.toJson.IsConvertible := by
  refine ⟨fun hnull => ?_, fun number hnumber => ?_⟩
  · obtain ⟨inner, hinner⟩ := exists_of_occurs_toJson hnull
    cases inner <;> cases hinner
  · obtain ⟨inner, hinner⟩ := exists_of_occurs_toJson hnumber
    cases inner with
    | int n =>
      cases hinner
      exact ⟨_, rfl, fitsInt64_iff.1 (fitsInt64_toInt n)⟩
    | string | bool | list | map => cases hinner

/-! ### Conversion -/

mutual

/-- A document that can be converted has a value. -/
theorem exists_ofJson? : ∀ (json : Json), json.IsValue → json.IsConvertible →
    ∃ value, ofJson? json = some value
  | .null, _, h => absurd .here h.noNull
  | .bool flag, _, _ => ⟨.bool flag, rfl⟩
  | .number _, _, h => by
    obtain ⟨n, rfl, hfits⟩ := h.allWhole _ .here
    exact ⟨.int (Int64.ofInt n), if_pos (fitsInt64_iff.2 hfits)⟩
  | .string (some text), _, _ => ⟨.string text, rfl⟩
  | .array items, hvalues, h => by
    obtain ⟨values, hread⟩ := exists_ofJsonItems? items hvalues fun item hmem => h.item hmem
    exact ⟨.list values, congrArg (Option.map list) hread⟩
  | .object members, ⟨_, hvalues⟩, h => by
    obtain ⟨entries, hread⟩ :=
      exists_ofJsonMembers? members hvalues fun member hmem => h.member hmem
    have hvalue : ofJson? (.object members) = some (.map (entriesOf entries)) := by
      rw [ofJson?, hread, Option.map_some]
    exact ⟨_, hvalue⟩

theorem exists_ofJsonItems? : ∀ (items : List Json), AreValues items →
    (∀ item ∈ items, item.IsConvertible) → ∃ values, ofJsonItems? items = some values
  | [], _, _ => ⟨[], rfl⟩
  | item :: items, ⟨hvalue, hvalues⟩, h => by
    obtain ⟨hitem, hitems⟩ := List.forall_mem_cons.1 h
    obtain ⟨value, hread⟩ := exists_ofJson? item hvalue hitem
    obtain ⟨values, hrest⟩ := exists_ofJsonItems? items hvalues hitems
    exact ⟨value :: values, by rw [ofJsonItems?, hread, hrest]; rfl⟩

theorem exists_ofJsonMembers? : ∀ (members : List (Literal × Json)), MembersAreValues members →
    (∀ member ∈ members, member.2.IsConvertible) →
    ∃ entries, ofJsonMembers? members = some entries
  | [], _, _ => ⟨[], rfl⟩
  | (some name, json) :: members, ⟨⟨_, hvalue⟩, hvalues⟩, h => by
    obtain ⟨hmember, hmembers⟩ := List.forall_mem_cons.1 h
    obtain ⟨value, hread⟩ := exists_ofJson? json hvalue hmember
    obtain ⟨entries, hrest⟩ := exists_ofJsonMembers? members hvalues hmembers
    exact ⟨(name, value) :: entries, by rw [ofJsonMembers?, ofJsonMember?, hread, hrest]; rfl⟩

end

mutual

/-- The value of a document is canonical, and the document is its JSON form. -/
theorem toJson_of_ofJson? : ∀ (json : Json) {value : Value}, json.IsValue →
    ofJson? json = some value → value.Canonical ∧ value.toJson = json
  | .bool _, _, _, h => by
    cases h
    exact ⟨trivial, rfl⟩
  | .number (.whole n), _, _, h => by
    obtain ⟨hfits, h⟩ := Option.ite_none_right_eq_some.1 h
    cases h
    obtain ⟨hleast, hgreatest⟩ := fitsInt64_iff.1 hfits
    refine ⟨trivial, ?_⟩
    rw [toJson, Int64.toInt_ofInt_of_le hleast (Int.lt_add_one_of_le hgreatest)]
    rfl
  | .string (some _), _, _, h => by
    cases h
    exact ⟨trivial, rfl⟩
  | .array items, _, hvalues, h => by
    obtain ⟨values, hread, rfl⟩ := Option.map_eq_some_iff.1 h
    obtain ⟨hcanonical, hitems⟩ := toJsonItems_of_ofJsonItems? items hvalues hread
    exact ⟨hcanonical, congrArg Json.array hitems⟩
  | .object members, _, ⟨⟨documents, hdocuments, hascending⟩, hvalues⟩, h => by
    obtain ⟨entries, hread, rfl⟩ := Option.map_eq_some_iff.1 h
    obtain ⟨hcanonical, hmembers⟩ := toJsonEntries_of_ofJsonMembers? members hvalues hread
    -- The entries keep the names of the members, so they ascend and stay as they are.
    have hentries : toJsonEntries entries = documents :=
      entries_injective (hmembers.trans hdocuments)
    have hsorted : Ascending entries := ascending_toJsonEntries_iff.1 (hentries ▸ hascending)
    rw [entriesOf_of_ascending hsorted]
    exact ⟨⟨hsorted, hcanonical⟩, congrArg Json.object hmembers⟩

theorem toJsonItems_of_ofJsonItems? : ∀ (items : List Json) {values : List Value},
    AreValues items → ofJsonItems? items = some values →
    CanonicalItems values ∧ toJsonItems values = items
  | [], _, _, h => by
    cases h
    exact ⟨trivial, rfl⟩
  | item :: items, _, ⟨hvalue, hvalues⟩, h => by
    rw [ofJsonItems?] at h
    obtain ⟨value, hread, h⟩ := Option.bind_eq_some_iff.1 h
    obtain ⟨values, hrest, h⟩ := Option.bind_eq_some_iff.1 h
    cases h
    obtain ⟨hcanonical, hitem⟩ := toJson_of_ofJson? item hvalue hread
    obtain ⟨hcanonicals, hitems⟩ := toJsonItems_of_ofJsonItems? items hvalues hrest
    exact ⟨⟨hcanonical, hcanonicals⟩, by rw [toJsonItems, hitem, hitems]⟩

theorem toJsonEntries_of_ofJsonMembers? : ∀ (members : List (Literal × Json))
    {entries : List (String × Value)}, MembersAreValues members →
    ofJsonMembers? members = some entries →
    CanonicalEntries entries ∧
      (toJsonEntries entries).map (fun entry => (some entry.1, entry.2)) = members
  | [], _, _, h => by
    cases h
    exact ⟨trivial, rfl⟩
  | (some name, json) :: members, _, ⟨⟨_, hvalue⟩, hvalues⟩, h => by
    rw [ofJsonMembers?, ofJsonMember?] at h
    obtain ⟨entry, hentry, h⟩ := Option.bind_eq_some_iff.1 h
    obtain ⟨entries, hrest, h⟩ := Option.bind_eq_some_iff.1 h
    cases h
    obtain ⟨_, ⟨⟩, hentry⟩ := Option.bind_eq_some_iff.1 hentry
    obtain ⟨value, hread, hentry⟩ := Option.bind_eq_some_iff.1 hentry
    cases hentry
    obtain ⟨hcanonical, hmember⟩ := toJson_of_ofJson? json hvalue hread
    obtain ⟨hcanonicals, hmembers⟩ := toJsonEntries_of_ofJsonMembers? members hvalues hrest
    refine ⟨⟨hcanonical, hcanonicals⟩, ?_⟩
    rw [toJsonEntries, toJsonEntry, List.map_cons, hmember, hmembers]

end

/-- **Conversion undoes the JSON form**, and nothing else is converted to a value. -/
theorem ofJson?_eq_some_iff {json : Json} (hvalue : json.IsValue) {value : Value} :
    ofJson? json = some value ↔ value.Canonical ∧ value.toJson = json := by
  constructor
  · exact toJson_of_ofJson? json hvalue
  · rintro ⟨hcanonical, rfl⟩
    exact ofJson?_toJson value hcanonical

/-- **Which documents can be converted** is decided by the nulls and the numbers in them. -/
theorem exists_ofJson?_iff {json : Json} (hvalue : json.IsValue) :
    (∃ value, ofJson? json = some value) ↔ json.IsConvertible := by
  constructor
  · rintro ⟨value, hread⟩
    obtain ⟨-, rfl⟩ := toJson_of_ofJson? json hvalue hread
    exact isConvertible_toJson value
  · exact exists_ofJson? json hvalue

end Value

end PrivateLink
