import PrivateLink.Proofs.Attribute.Conversion
import PrivateLink.Proofs.Checks
import PrivateLink.ResourceFile

/-!
# The attributes of a resource file

The attributes in a resource file are documents under ascending names (`ResourceFile.IsWellFormed`).
The file describes a resource just when all of them can be converted, and the resource has them all
and nothing else; otherwise the first name in their order whose document cannot be converted is
named.

* `ResourceFile.isWellFormed_of_parse?`: what is read as a resource file is well formed;
* `ResourceFile.resource_converts`: documents, attribute values and resource files.
-/

namespace PrivateLink

open Json

namespace ResourceFile

/-- The attributes are values under ascending names. -/
structure IsWellFormed (file : ResourceFile) : Prop where
  ascending : Ascending file.attributes
  values : ∀ entry ∈ file.attributes, entry.2.IsValue

/-! ### Reading -/

theorem isWellFormed_of_attributes? {json : Option Json} {attributes : List (String × Json)}
    (h : attributes? json = some attributes) (address : Address) :
    IsWellFormed { address, attributes } := by
  unfold attributes? at h
  split at h
  · cases h
    exact ⟨List.Pairwise.nil, List.forall_mem_nil _⟩
  · obtain ⟨entries, hread, rfl⟩ := Option.map_eq_some_iff.1 h
    refine ⟨ascending_entriesOf entries, fun entry hmem => ?_⟩
    exact isValue_of_mem_valueMembers _ hread entry (mem_of_mem_entriesOf hmem)
  · cases h

/-- What is read as a resource file is well formed. -/
theorem isWellFormed_of_parse? {content : String} {file : ResourceFile}
    (h : parse? content = some file) : file.IsWellFormed := by
  unfold parse? at h
  obtain ⟨json, -, h⟩ := Option.bind_eq_some_iff.1 h
  obtain ⟨fields, -, h⟩ := Option.bind_eq_some_iff.1 h
  split at h
  · obtain ⟨type, -, h⟩ := Option.bind_eq_some_iff.1 h
    obtain ⟨name, -, h⟩ := Option.bind_eq_some_iff.1 h
    obtain ⟨attributes, hattributes, h⟩ := Option.bind_eq_some_iff.1 h
    cases h
    exact isWellFormed_of_attributes? hattributes _
  · cases h

/-! ### Conversion -/

theorem attributeOf_eq_ok_iff {entry : String × Json} {found : String × Value} :
    attributeOf entry = .ok found ↔
      entry.1 = found.1 ∧ Value.ofJson? entry.2 = some found.2 := by
  unfold attributeOf
  cases Value.ofJson? entry.2 with
  | some value => rw [Except.ok.injEq, Prod.ext_iff, Option.some.injEq]
  | none => exact iff_of_false nofun nofun

theorem attributeOf_eq_error_iff {entry : String × Json} {fault : Fault} :
    attributeOf entry = .error fault ↔
      fault = .unsupported entry.1 ∧ Value.ofJson? entry.2 = none := by
  unfold attributeOf
  cases Value.ofJson? entry.2 with
  | some value => exact iff_of_false nofun nofun
  | none => rw [Except.error.injEq, eq_comm, and_iff_left rfl]

/-- The attributes are read as the members of an object are. -/
theorem ofJsonMembers?_entries (entries : List (String × Json)) :
    Value.ofJsonMembers? (entries.map fun entry => (some entry.1, entry.2)) =
      (entries.mapM attributeOf).toOption := by
  induction entries with
  | nil => rfl
  | cons entry entries ih =>
    rw [List.map_cons, Value.ofJsonMembers?, Value.ofJsonMember?, ih, List.mapM_cons, attributeOf]
    cases Value.ofJson? entry.2 with
    | none => rfl
    | some value => cases entries.mapM attributeOf <;> rfl

variable {file : ResourceFile} {resource : Resource} {fault : Fault}

/-- **A resource has the attributes of its file**, and is called the same. -/
theorem attributes_of_resource (hfile : file.IsWellFormed) (h : file.resource = .ok resource) :
    resource.address = file.address ∧ resource.attributes.Canonical ∧
      Value.toJsonEntries resource.attributes = file.attributes := by
  unfold ResourceFile.resource at h
  cases hread : file.attributes.mapM attributeOf with
  | error fault =>
    rw [hread] at h
    cases h
  | ok attributes =>
    rw [hread] at h
    cases h
    have hmembers := ofJsonMembers?_entries file.attributes
    rw [hread] at hmembers
    obtain ⟨hcanonical, hdocuments⟩ := Value.toJsonEntries_of_ofJsonMembers? _
      (membersAreValues_iff.2 hfile.values) hmembers
    have hentries : Value.toJsonEntries attributes = file.attributes := entries_injective hdocuments
    have hascending : Ascending attributes :=
      Value.ascending_toJsonEntries_iff.1 (hentries ▸ hfile.ascending)
    exact ⟨rfl, ⟨hascending, hcanonical⟩, hentries⟩

/-- **The attribute that is named** is the first one that cannot be converted. -/
theorem unsupported_of_resource (hfile : file.IsWellFormed) (h : file.resource = .error fault) :
    ∃ name json, fault = .unsupported name ∧ (name, json) ∈ file.attributes ∧
      Value.ofJson? json = none ∧
        ∀ entry ∈ file.attributes, Value.ofJson? entry.2 = none → name ≤ entry.1 := by
  unfold ResourceFile.resource at h
  cases hread : file.attributes.mapM attributeOf with
  | ok attributes =>
    rw [hread] at h
    cases h
  | error found =>
    rw [hread] at h
    cases h
    obtain ⟨before, ⟨name, json⟩, after, hattributes, hfailed, hbefore⟩ :=
      exists_of_mapM_eq_error hread
    obtain ⟨hfault, hjson⟩ := attributeOf_eq_error_iff.1 hfailed
    have hascending := hfile.ascending
    rw [hattributes] at hascending ⊢
    obtain ⟨-, hrest, -⟩ := List.pairwise_append.1 hascending
    refine ⟨name, json, hfault, List.mem_append_right _ List.mem_cons_self, hjson, ?_⟩
    intro entry hmem hnone
    rcases List.mem_append.1 hmem with hmem | hmem
    · obtain ⟨found, hfound⟩ := hbefore entry hmem
      cases hnone.symm.trans (attributeOf_eq_ok_iff.1 hfound).2
    · rcases List.mem_cons.1 hmem with rfl | hmem
      · exact String.le_refl _
      · exact String.not_lt.1 (String.lt_asymm ((List.pairwise_cons.1 hrest).1 entry hmem))

/-- **A file describes a resource** just when all its attributes can be converted. -/
theorem exists_resource_iff (hfile : file.IsWellFormed) :
    (∃ resource, file.resource = .ok resource) ↔
      ∀ entry ∈ file.attributes, ∃ value, Value.ofJson? entry.2 = some value := by
  constructor
  · rintro ⟨resource, h⟩ entry hmem
    obtain ⟨-, -, hentries⟩ := attributes_of_resource hfile h
    have hvalue := hfile.values entry hmem
    rw [← hentries, Value.toJsonEntries_eq_map] at hmem
    obtain ⟨found, -, rfl⟩ := List.mem_map.1 hmem
    exact (Value.exists_ofJson?_iff hvalue).2 (Value.isConvertible_toJson _)
  · intro hconverted
    cases h : file.resource with
    | ok resource => exact ⟨resource, rfl⟩
    | error fault =>
      obtain ⟨name, json, -, hmem, hnone, -⟩ := unsupported_of_resource hfile h
      obtain ⟨value, hvalue⟩ := hconverted _ hmem
      cases hnone.symm.trans hvalue

/-- **Documents and attribute values are converted into each other without loss.** A document, as it
is read as a value, can be converted just when it holds no null and no number but whole ones of
sixty-four bits, and it is the JSON form of what it is converted to; every attribute value is what
its JSON form is converted to. So a resource file describes a resource just when each attribute in
it can be converted; the resource has the type, the name and all attributes of the file, and if
there is none, the least name whose document cannot be converted is named. -/
theorem resource_converts :
    (∀ json : Json, json.IsValue →
      ((∃ value, Value.ofJson? json = some value) ↔ json.IsConvertible) ∧
        ∀ value, Value.ofJson? json = some value → value.Canonical ∧ value.toJson = json) ∧
      (∀ value : Value, value.Canonical → Value.ofJson? value.toJson = some value) ∧
      (∀ file : ResourceFile, file.IsWellFormed →
        ((∃ resource, file.resource = .ok resource) ↔
          ∀ entry ∈ file.attributes, ∃ value, Value.ofJson? entry.2 = some value) ∧
        (∀ resource, file.resource = .ok resource →
          resource.address = file.address ∧ resource.attributes.Canonical ∧
            Value.toJsonEntries resource.attributes = file.attributes) ∧
        ∀ fault, file.resource = .error fault →
          ∃ name json, fault = .unsupported name ∧ (name, json) ∈ file.attributes ∧
            Value.ofJson? json = none ∧
              ∀ entry ∈ file.attributes, Value.ofJson? entry.2 = none → name ≤ entry.1) ∧
      ∀ content file, parse? content = some file → file.IsWellFormed := by
  refine ⟨fun json hjson => ⟨Value.exists_ofJson?_iff hjson, fun value =>
    Value.toJson_of_ofJson? json hjson⟩, Value.ofJson?_toJson, fun file hfile => ?_,
    fun content file => isWellFormed_of_parse?⟩
  exact ⟨exists_resource_iff hfile, fun resource => attributes_of_resource hfile,
    fun fault => unsupported_of_resource hfile⟩

/-- Of the last two attributes neither can be converted, one for a null in a list and one for a
number that is too large. -/
theorem resource_converts_least :
    let file : ResourceFile :=
      { address := { type := "private_link_endpoint", name := "main" }
        attributes :=
          [("a", .array [.text "é", .whole (-9223372036854775808)]), ("b", .array [.null]),
           ("c", .whole 9223372036854775808)] }
    file.IsWellFormed ∧ (Json.array [.text "é", .whole (-9223372036854775808)]).IsConvertible ∧
      ∃ json, file.resource = .error (.unsupported "b") ∧ ("b", json) ∈ file.attributes ∧
        Value.ofJson? json = none ∧
          ∀ entry ∈ file.attributes, Value.ofJson? entry.2 = none → "b" ≤ entry.1 := by
  intro file
  have hlarge : (Number.whole 9223372036854775808).isFinite = true := by decide +kernel
  have hleast : (Number.whole (-9223372036854775808)).isFinite = true := by decide +kernel
  have hfirst : (Json.array [.text "é", .whole (-9223372036854775808)]).IsValue :=
    ⟨rfl, hleast, trivial⟩
  have hfile : file.IsWellFormed := by
    refine ⟨by decide, ?_⟩
    simp only [file, List.forall_mem_cons]
    exact ⟨hfirst, ⟨trivial, trivial⟩, hlarge, List.forall_mem_nil _⟩
  obtain ⟨hdocuments, -, hfiles, -⟩ := resource_converts
  have hresource : file.resource = .error (.unsupported "b") := rfl
  obtain ⟨name, json, hfault, hjson⟩ := (hfiles file hfile).2.2 _ hresource
  cases hfault
  exact ⟨hfile, (hdocuments _ hfirst).1.1 ⟨_, rfl⟩, json, hresource, hjson⟩

end ResourceFile

end PrivateLink
