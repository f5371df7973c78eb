import PrivateLink.Proofs.Dictionary
import PrivateLink.Proofs.Json.Spelling
import PrivateLink.Wire.Endpoint

/-!
# Records survive the wire

A format is lawful when what it writes is read back as the same value, is never null and has a
spelling. Texts, truth values, lists and dictionaries have lawful formats, and a record has one when
its fields do: a field that is left out is read as absent, and no field is read into another.

* `fields?_ofPresent`: the fields of an object are those that it was made of;
* `ofBody?_body`: a value is read back from the body that carries it.
-/

namespace PrivateLink.Wire

open Json

/-- What the format writes is read back, is never null and has a spelling. -/
class LawfulFormat (α : Type) [Format α] : Prop where
  decode?_encode (value : α) : decode? (encode value) = some value
  encode_ne_null (value : α) : encode value ≠ .null
  spellable_encode (value : α) : (encode value).Spellable

open LawfulFormat

/-- A value is read back from the body that carries it. -/
theorem ofBody?_body {α : Type} [Format α] [LawfulFormat α] (value : α) :
    (ofBody? (body value) : Option α) = some value := by
  rw [ofBody?, body, read?_compact (spellable_encode value), Option.bind_some, decode?_encode]

/-! ### Simple formats -/

instance : LawfulFormat String where
  decode?_encode _ := rfl
  encode_ne_null _ := nofun
  spellable_encode _ := rfl

instance : LawfulFormat Bool where
  decode?_encode _ := rfl
  encode_ne_null _ := nofun
  spellable_encode _ := trivial

theorem decodeItems?_map_encode {α : Type} [Format α] [LawfulFormat α] (items : List α) :
    (decodeItems? (items.map encode) : Option (List α)) = some items := by
  induction items with
  | nil => rfl
  | cons item items ih =>
    rw [decodeItems?] at ih ⊢
    rw [List.map_cons, List.mapM_cons, decode?_encode, ih]
    rfl

instance {α : Type} [Format α] [LawfulFormat α] : LawfulFormat (List α) where
  decode?_encode := decodeItems?_map_encode
  encode_ne_null _ := nofun
  spellable_encode items := by
    refine spellableItems_iff.2 fun item hitem => ?_
    obtain ⟨value, -, rfl⟩ := List.mem_map.1 hitem
    exact spellable_encode value

theorem decodeTexts?_entries (entries : List (String × String)) :
    decodeTexts? (entries.map fun entry => (some entry.1, .text entry.2)) = some entries := by
  induction entries with
  | nil => rfl
  | cons entry entries ih =>
    rw [decodeTexts?] at ih ⊢
    rw [List.map_cons, List.mapM_cons, ih]
    rfl

instance : LawfulFormat (Dictionary String) where
  decode?_encode dictionary := by
    have hread := decodeTexts?_entries dictionary.entries
    simp only [encode, decode?, ofMembers, List.map_map, Function.comp_def, hread, Option.map_some,
      Dictionary.ofList_entries]
  encode_ne_null _ := nofun
  spellable_encode dictionary := by
    refine spellableMembers_iff.2 fun member hmember => ?_
    simp only [List.map_map, List.mem_map] at hmember
    obtain ⟨entry, -, rfl⟩ := hmember
    exact ⟨rfl, rfl⟩

/-! ### Records -/

/-- The members that are present, as they stand in a document. -/
def presentMembers : List (String × Option Json) → List (Literal × Json)
  | [] => []
  | (name, some json) :: members => (some name, json) :: presentMembers members
  | (_, none) :: members => presentMembers members

theorem ofPresent_eq (members : List (String × Option Json)) :
    ofPresent members = .object (presentMembers members) := by
  induction members with
  | nil => rfl
  | cons member members ih =>
    obtain ⟨name, _ | json⟩ := member <;>
      simpa [ofPresent, ofMembers, presentMembers] using ih

/-- The names that are present stand in their order. -/
theorem names_presentMembers (members : List (String × Option Json)) :
    ∃ names, names?  (presentMembers members) = some names ∧
      names.Sublist (members.map (·.1)) := by
  induction members with
  | nil => exact ⟨[], rfl, List.Sublist.refl _⟩
  | cons member members ih =>
    obtain ⟨names, hnames, hsublist⟩ := ih
    obtain ⟨name, _ | json⟩ := member
    · exact ⟨names, hnames, hsublist.cons _⟩
    · refine ⟨name :: names, ?_, hsublist.cons_cons name⟩
      rw [names?] at hnames ⊢
      rw [presentMembers, List.mapM_cons, hnames]
      rfl

theorem lookup_presentMembers_of_notMem {members : List (String × Option Json)} {name : String}
    (h : name ∉ members.map (·.1)) : (presentMembers members).lookup (some name) = none := by
  induction members with
  | nil => rfl
  | cons member members ih =>
    obtain ⟨hhead, htail⟩ := not_or.1 (fun hmem => h (List.mem_cons.2 hmem))
    obtain ⟨other, _ | json⟩ := member
    · exact ih htail
    · have hne : (some name == some other) = false := by simpa using hhead
      rw [presentMembers, List.lookup_cons, hne]
      exact ih htail

/-- A member is found as what it is, when every name occurs once. -/
theorem lookup_presentMembers {members : List (String × Option Json)}
    (h : (members.map (·.1)).Nodup) {member : String × Option Json} (hmember : member ∈ members) :
    (presentMembers members).lookup (some member.1) = member.2 := by
  induction members with
  | nil => cases hmember
  | cons head members ih =>
    obtain ⟨hhead, htail⟩ := List.nodup_cons.1 h
    -- An absent member leaves no trace, and names that differ hide nothing behind them.
    rcases List.mem_cons.1 hmember with rfl | hmem
    · obtain ⟨name, _ | json⟩ := member
      · rw [presentMembers]
        exact lookup_presentMembers_of_notMem hhead
      · simp [presentMembers]
    · obtain ⟨name, _ | json⟩ := head
      · exact ih htail hmem
      · have hne : (some member.1 == some name) = false := by
          have hname : member.1 ∈ members.map (·.1) := List.mem_map_of_mem hmem
          exact beq_false_of_ne fun heq => hhead (Option.some.inj heq ▸ hname)
        rw [presentMembers, List.lookup_cons, hne]
        exact ih htail hmem

/-- The fields of an object are those that it was made of. -/
theorem fields?_ofPresent {names : List String} {members : List (String × Option Json)}
    (hnames : members.map (·.1) = names) (hnodup : names.Nodup) :
    (ofPresent members).fields? names = some (members.map (·.2)) := by
  subst hnames
  obtain ⟨names, hread, hsublist⟩ := names_presentMembers members
  have honce : (members.map (·.1)).all fun name => names.count name ≤ 1 := by
    simp only [List.all_eq_true, decide_eq_true_eq]
    exact fun name _ => List.nodup_iff_count.1 (hnodup.sublist hsublist) name
  have hfound : (members.map (·.1)).map (fun name => (presentMembers members).lookup (some name)) =
      members.map (·.2) := by
    rw [List.map_map]
    exact List.map_congr_left fun member hmember => lookup_presentMembers hnodup hmember
  rw [ofPresent_eq, fields?, hread]
  simp only [Option.bind_eq_bind, Option.bind_some, honce, if_true, hfound, Option.pure_def]

/-- What is made of the fields of an object is made of the values behind them. -/
theorem bind_fields?_ofPresent {β : Type} {names : List String}
    {members : List (String × Option Json)} (hnames : members.map (·.1) = names)
    (hnodup : names.Nodup) (make : List (Option Json) → Option β) :
    ((ofPresent members).fields? names).bind make = make (members.map (·.2)) := by
  rw [fields?_ofPresent hnames hnodup, Option.bind_some]

theorem field?_present {α : Type} [Format α] [LawfulFormat α] (name : String) (value : Option α) :
    field? (present name value).2 = some value := by
  cases value with
  | none => rfl
  | some value =>
    have hread := decode?_encode value
    have hnull := encode_ne_null value
    simp only [field?, present, Option.map_some]
    cases hencode : (encode value : Json) <;> simp_all [optional?]

/-- What the field is written as, if it is present, has a spelling. -/
def SpellableField (member : String × Option Json) : Prop :=
  ∀ json, member.2 = some json → json.Spellable

theorem spellableField_present {α : Type} [Format α] [LawfulFormat α] (name : String)
    (value : Option α) : SpellableField (present name value) := by
  intro json hjson
  obtain ⟨value, -, rfl⟩ := Option.map_eq_some_iff.1 hjson
  exact spellable_encode value

theorem spellable_ofPresent {members : List (String × Option Json)}
    (h : ∀ member ∈ members, SpellableField member) : (ofPresent members).Spellable := by
  refine spellableMembers_iff.2 fun member hmember => ?_
  obtain ⟨pair, hpair, rfl⟩ := List.mem_map.1 hmember
  obtain ⟨source, hsource, hpresent⟩ := List.mem_filterMap.1 hpair
  obtain ⟨json, hjson, rfl⟩ := Option.map_eq_some_iff.1 hpresent
  exact ⟨rfl, h source hsource json hjson⟩

instance : LawfulFormat AddressProperties where
  decode?_encode record := by
    refine (bind_fields?_ofPresent rfl (by simp [present]) _).trans ?_
    simp [field?_present]
  encode_ne_null _ := nofun
  spellable_encode _ := spellable_ofPresent (by simp [spellableField_present])

instance : LawfulFormat AddressConfiguration where
  decode?_encode record := by
    refine (bind_fields?_ofPresent rfl (by simp [present]) _).trans ?_
    simp [field?_present]
  encode_ne_null _ := nofun
  spellable_encode _ := spellable_ofPresent (by simp [spellableField_present])

instance : LawfulFormat InterfaceProperties where
  decode?_encode record := by
    refine (bind_fields?_ofPresent rfl (by simp [present]) _).trans ?_
    simp [field?_present]
  encode_ne_null _ := nofun
  spellable_encode _ := spellable_ofPresent (by simp [spellableField_present])

instance : LawfulFormat Interface where
  decode?_encode record := by
    refine (bind_fields?_ofPresent rfl (by simp [present]) _).trans ?_
    simp [field?_present]
  encode_ne_null _ := nofun
  spellable_encode _ := spellable_ofPresent (by simp [spellableField_present])

instance : LawfulFormat Reference where
  decode?_encode record := by
    refine (bind_fields?_ofPresent rfl (by simp [present]) _).trans ?_
    simp [field?_present]
  encode_ne_null _ := nofun
  spellable_encode _ := spellable_ofPresent (by simp [spellableField_present])

instance : LawfulFormat ConnectionState where
  decode?_encode record := by
    refine (bind_fields?_ofPresent rfl (by simp [present]) _).trans ?_
    simp [field?_present]
  encode_ne_null _ := nofun
  spellable_encode _ := spellable_ofPresent (by simp [spellableField_present])

instance : LawfulFormat ConnectionProperties where
  decode?_encode record := by
    refine (bind_fields?_ofPresent rfl (by simp [present]) _).trans ?_
    simp [field?_present]
  encode_ne_null _ := nofun
  spellable_encode _ := spellable_ofPresent (by simp [spellableField_present])

instance : LawfulFormat Connection where
  decode?_encode record := by
    refine (bind_fields?_ofPresent rfl (by simp [present]) _).trans ?_
    simp [field?_present]
  encode_ne_null _ := nofun
  spellable_encode _ := spellable_ofPresent (by simp [spellableField_present])

instance : LawfulFormat EndpointProperties where
  decode?_encode record := by
    refine (bind_fields?_ofPresent rfl (by simp [present]) _).trans ?_
    simp [field?_present]
  encode_ne_null _ := nofun
  spellable_encode _ := spellable_ofPresent (by simp [spellableField_present])

instance : LawfulFormat Endpoint where
  decode?_encode record := by
    refine (bind_fields?_ofPresent rfl (by simp [present]) _).trans ?_
    simp [field?_present]
  encode_ne_null _ := nofun
  spellable_encode _ := spellable_ofPresent (by simp [spellableField_present])

end PrivateLink.Wire
