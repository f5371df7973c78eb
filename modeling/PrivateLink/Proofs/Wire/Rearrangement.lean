import Mathlib.Data.List.Nodup
import Mathlib.Data.List.Perm.Basic
import Mathlib.Data.Option.Basic
import PrivateLink.Proofs.Json.Rearrangement
import PrivateLink.Proofs.Wire.RoundTrip

/-!
# Records survive the wire in any order

The service may write the members of its objects in any order, and so may a writer that keeps tags
in a hash table. A format is orderless when a value is read back from the document that it is
written as, in any order of the members. All records have orderless formats: no name occurs twice in
what they are written as.

* `fields?_of_rearranged`: the fields of an object are the same in any order of its members;
* `ofBody?_body_orderless`: endpoints and interfaces are read back from their bodies, in any order.
-/

namespace PrivateLink.Wire

open Json

/-- What the format writes is read back, whatever the order in which members are written. -/
class OrderlessFormat (α : Type) [Format α] : Prop extends LawfulFormat α where
  decode?_of_rearranged {value : α} {json : Json} (h : (encode value).Rearranged json) :
    decode? json = some value

open LawfulFormat OrderlessFormat

/-- A value is read back from its body, in any order of the members. -/
theorem ofBody?_compact {α : Type} [Format α] [OrderlessFormat α] {value : α} {json : Json}
    (h : (encode value).Rearranged json) : ofBody? json.compact = some value := by
  rw [ofBody?, read?_compact (Spellable.of_rearranged _ h (spellable_encode value)),
    Option.bind_some, decode?_of_rearranged h]

/-! ### Simple formats -/

instance : OrderlessFormat String where
  decode?_of_rearranged h := by
    rw [show _ = _ from h]
    exact decode?_encode _

instance : OrderlessFormat Bool where
  decode?_of_rearranged h := by
    rw [show _ = _ from h]
    exact decode?_encode _

instance {α : Type} [Format α] [OrderlessFormat α] : OrderlessFormat (List α) where
  decode?_of_rearranged {values json} h := by
    obtain ⟨items, rfl, hitems⟩ := h
    change items.mapM decode? = some values
    induction values generalizing items with
    | nil =>
      rw [show items = [] from hitems]
      rfl
    | cons value values ih =>
      obtain ⟨item, rest, rfl, hitem, hrest⟩ := hitems
      rw [List.mapM_cons, decode?_of_rearranged hitem, ih rest hrest]
      rfl

/-- A list in another order than the images is the list of images in another order. -/
theorem exists_eq_map_of_perm {α β : Type} {f : α → β} {items : List α} {others : List β}
    (h : others.Perm (items.map f)) : ∃ found : List α, others = found.map f ∧ found.Perm items :=
  (congrFun₂ (List.eq_map_comp_perm f) others items).mpr h

theorem rearranged_texts {entries : List (String × String)} {between : List (Literal × Json)}
    (h : RearrangedMembers (entries.map fun entry => (some entry.1, .text entry.2)) between) :
    between = entries.map fun entry => (some entry.1, .text entry.2) := by
  induction entries generalizing between with
  | nil => exact h
  | cons entry entries ih =>
    obtain ⟨⟨name, text⟩, rest, rfl, ⟨hname, htext⟩, hrest⟩ := h
    rw [List.map_cons, ← ih hrest, hname, show text = _ from htext]
    rfl

instance : OrderlessFormat (Dictionary String) where
  decode?_of_rearranged {dictionary json} h := by
    simp only [encode, ofMembers, List.map_map, Function.comp_def] at h
    obtain ⟨between, members, rfl, hmembers, hperm⟩ := h
    rw [rearranged_texts hmembers] at hperm
    obtain ⟨pairs, rfl, hpairs⟩ := exists_eq_map_of_perm hperm.symm
    simp only [decode?, decodeTexts?_entries, Option.map_some, Dictionary.ofList_of_perm hpairs]

/-! ### Records -/

/-- The member is found, rearranged, or it is not there as before. -/
def Kept (find : String → Option Json) (member : String × Option Json) : Prop :=
  Option.Rel Rearranged member.2 (find member.1)

theorem names?_eq_some_iff {members : List (Literal × Json)} {names : List String} :
    names? members = some names ↔ members.map Prod.fst = names.map some := by
  induction members generalizing names with
  | nil => cases names <;> simp [names?]
  | cons member members ih =>
    obtain ⟨name, value⟩ := member
    rw [names?] at ih ⊢
    cases names <;> cases name <;> simp [List.mapM_cons, ih, Option.bind_eq_some_iff, and_comm]

/-- The fields of an object are the same in any order of its members. -/
theorem fields?_of_rearranged {members : List (String × Option Json)}
    (hnodup : (members.map (·.1)).Nodup) {json : Json}
    (h : (ofPresent members).Rearranged json) :
    ∃ find : String → Option Json,
      json.fields? (members.map (·.1)) = some (members.map fun member => find member.1) ∧
        ∀ member ∈ members, Kept find member := by
  rw [ofPresent_eq] at h
  obtain ⟨between, others, rfl, hbetween, hperm⟩ := h
  obtain ⟨names, hnames, hsublist⟩ := names_presentMembers members
  -- The names that are found are those that are present, in another order: each still occurs once.
  have honce : names.Nodup := hnodup.sublist hsublist
  have hfirst : between.map Prod.fst = names.map some :=
    hbetween.names.symm.trans (names?_eq_some_iff.1 hnames)
  obtain ⟨found, hfound, hsame⟩ := exists_eq_map_of_perm (hfirst ▸ (hperm.map Prod.fst).symm)
  refine ⟨fun name => others.lookup (some name), ?_, fun member hmember => ?_⟩
  · have hcount : (members.map (·.1)).all fun name => found.count name ≤ 1 := by
      simp only [List.all_eq_true, decide_eq_true_eq, hsame.count_eq]
      exact fun name _ => List.nodup_iff_count.1 honce name
    rw [fields?, names?_eq_some_iff.2 hfound]
    simp only [Option.bind_eq_bind, Option.bind_some, hcount, if_true, List.map_map,
      Option.pure_def, Function.comp_def]
  · have hdistinct : (between.map Prod.fst).Nodup :=
      hfirst ▸ List.Nodup.map (Option.some_injective String) honce
    have hlookup := hbetween.lookup (some member.1)
    rwa [lookup_presentMembers hnodup hmember, lookup_perm hperm hdistinct] at hlookup

/-- What is made of the fields of an object is made of the values behind them, in any order. -/
theorem bind_fields?_of_rearranged {β : Type} {names : List String}
    {members : List (String × Option Json)} {result : β} (hnames : members.map (·.1) = names)
    (hnodup : names.Nodup) {json : Json} (h : (ofPresent members).Rearranged json)
    {make : List (Option Json) → Option β}
    (hmake : ∀ find, (∀ member ∈ members, Kept find member) →
      make (members.map fun member => find member.1) = some result) :
    (json.fields? names).bind make = some result := by
  subst hnames
  obtain ⟨find, hread, hkept⟩ := fields?_of_rearranged hnodup h
  rw [hread, Option.bind_some, hmake find hkept]

theorem field?_of_ne_null {α : Type} [Format α] {json : Json} (h : json ≠ .null) :
    (field? (some json) : Option (Option α)) = (decode? json).map some := by
  cases json <;> first | rfl | exact absurd rfl h

theorem field?_of_kept {α : Type} [Format α] [OrderlessFormat α] {name : String} {value : Option α}
    {find : String → Option Json} (h : Kept find (present name value)) :
    field? (find name) = some value := by
  rw [Kept, present] at h
  cases value with
  | none =>
    rw [show find name = none by cases hfind : find name <;> simp_all]
    rfl
  | some value =>
    obtain ⟨json, hfind, hjson⟩ :
        ∃ json, find name = some json ∧ (encode value).Rearranged json := by
      cases hfind : find name <;> simp_all
    have hnull : json ≠ .null := fun heq =>
      encode_ne_null value (eq_null_of_rearranged (heq ▸ hjson))
    rw [hfind, field?_of_ne_null hnull, decode?_of_rearranged hjson, Option.map_some]

/-- A field that is kept is read as the value that was written. -/
theorem bind_field?_of_kept {α β : Type} [Format α] [OrderlessFormat α] {name : String}
    {value : Option α} {members : List (String × Option Json)} {find : String → Option Json}
    {rest : Option α → Option β} {result : Option β}
    (h : ∀ member ∈ present name value :: members, Kept find member)
    (hrest : (∀ member ∈ members, Kept find member) → rest value = result) :
    (field? (find name)).bind rest = result := by
  obtain ⟨hfield, hmembers⟩ := List.forall_mem_cons.1 h
  rw [field?_of_kept hfield, Option.bind_some, hrest hmembers]

instance : OrderlessFormat AddressProperties where
  decode?_of_rearranged h := by
    refine bind_fields?_of_rearranged rfl (by simp [present]) h fun find _ => ?_
    iterate 3 refine bind_field?_of_kept ‹_› fun _ => ?_
    rfl

instance : OrderlessFormat AddressConfiguration where
  decode?_of_rearranged h := by
    refine bind_fields?_of_rearranged rfl (by simp [present]) h fun find _ => ?_
    iterate 3 refine bind_field?_of_kept ‹_› fun _ => ?_
    rfl

instance : OrderlessFormat InterfaceProperties where
  decode?_of_rearranged h := by
    refine bind_fields?_of_rearranged rfl (by simp [present]) h fun find _ => ?_
    iterate 2 refine bind_field?_of_kept ‹_› fun _ => ?_
    rfl

instance : OrderlessFormat Interface where
  decode?_of_rearranged h := by
    refine bind_fields?_of_rearranged rfl (by simp [present]) h fun find _ => ?_
    iterate 4 refine bind_field?_of_kept ‹_› fun _ => ?_
    rfl

instance : OrderlessFormat Reference where
  decode?_of_rearranged h := by
    refine bind_fields?_of_rearranged rfl (by simp [present]) h fun find _ => ?_
    iterate 1 refine bind_field?_of_kept ‹_› fun _ => ?_
    rfl

instance : OrderlessFormat ConnectionState where
  decode?_of_rearranged h := by
    refine bind_fields?_of_rearranged rfl (by simp [present]) h fun find _ => ?_
    iterate 3 refine bind_field?_of_kept ‹_› fun _ => ?_
    rfl

instance : OrderlessFormat ConnectionProperties where
  decode?_of_rearranged h := by
    refine bind_fields?_of_rearranged rfl (by simp [present]) h fun find _ => ?_
    iterate 5 refine bind_field?_of_kept ‹_› fun _ => ?_
    rfl

instance : OrderlessFormat Connection where
  decode?_of_rearranged h := by
    refine bind_fields?_of_rearranged rfl (by simp [present]) h fun find _ => ?_
    iterate 3 refine bind_field?_of_kept ‹_› fun _ => ?_
    rfl

instance : OrderlessFormat EndpointProperties where
  decode?_of_rearranged h := by
    refine bind_fields?_of_rearranged rfl (by simp [present]) h fun find _ => ?_
    iterate 5 refine bind_field?_of_kept ‹_› fun _ => ?_
    rfl

instance : OrderlessFormat Endpoint where
  decode?_of_rearranged h := by
    refine bind_fields?_of_rearranged rfl (by simp [present]) h fun find _ => ?_
    iterate 7 refine bind_field?_of_kept ‹_› fun _ => ?_
    rfl

/-- **Records survive the wire.** Every endpoint and every interface, whatever is absent from it and
whatever its texts hold, is read back from the body that carries it, and from the text of the same
document with the members of its objects in any other order. -/
theorem ofBody?_body_orderless :
    (∀ record : Endpoint, ofBody? (body record) = some record ∧
      ∀ json, (encode record).Rearranged json → ofBody? json.compact = some record) ∧
    ∀ record : Interface, ofBody? (body record) = some record ∧
      ∀ json, (encode record).Rearranged json → ofBody? json.compact = some record :=
  ⟨fun record => ⟨ofBody?_body record, fun _ => ofBody?_compact⟩,
    fun record => ⟨ofBody?_body record, fun _ => ofBody?_compact⟩⟩

/-- An endpoint with no connections and with tags is read back with its tags in another order. -/
theorem ofBody?_tags_swapped :
    let record : Endpoint :=
      { tags := some (.ofList [("a", "\"1\""), ("b", "\n")])
        properties := some { automaticConnections := some [] } }
    let tags : Json := .ofMembers [("b", .text "\n"), ("a", .text "\"1\"")]
    let properties : Json := .ofMembers [("privateLinkServiceConnections", .array [])]
    let json : Json := .ofMembers [("properties", properties), ("tags", tags)]
    (encode record).Rearranged json ∧ ofBody? json.compact = some record := by
  intro record tags properties json
  have htags : (encode (Dictionary.ofList [("a", "\"1\""), ("b", "\n")])).Rearranged tags :=
    ⟨_, _, rfl, ⟨(some "a", .text "\"1\""), _, rfl, ⟨rfl, rfl⟩,
      (some "b", .text "\n"), _, rfl, ⟨rfl, rfl⟩, rfl⟩, .swap ..⟩
  have hproperties : Rearranged (encode { automaticConnections := some [] : EndpointProperties })
      properties :=
    ⟨_, _, rfl, ⟨(some "privateLinkServiceConnections", .array []), _, rfl,
      ⟨rfl, _, rfl, rfl⟩, rfl⟩, .refl _⟩
  have hjson : (encode record).Rearranged json :=
    ⟨_, _, rfl, ⟨(some "tags", tags), _, rfl, ⟨rfl, htags⟩,
      (some "properties", properties), _, rfl, ⟨rfl, hproperties⟩, rfl⟩, .swap ..⟩
  exact ⟨hjson, (ofBody?_body_orderless.1 record).2 json hjson⟩

end PrivateLink.Wire
