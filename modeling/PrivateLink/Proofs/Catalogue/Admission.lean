import PrivateLink.Proofs.Catalogue.Accepted
import PrivateLink.Proofs.Checks

/-!
# What the schema asks for

What the types of the catalogue accept, said of the values themselves: a type accepts a value when
the value has the shape of the type and keeps its rule, and the schema lets attributes through when
each of them that is declared is as declared.

* `ValueType.violations_eq_nil_iff`: attributes are fine when each declaration is kept;
* `Schema.violations_ofDeclarations_eq_nil_iff`: the same for a schema and the declarations that it
  was made of;
* `Catalogue.violations_connectionFields_eq_nil_iff`: what is asked of a connection;
* `Catalogue.violations_endpointSchema_eq_nil_iff`: what is asked of an endpoint.
-/

namespace PrivateLink

/-- Items that are all of one form are the list of what they are made of. -/
theorem forall_exists_eq_iff {α β : Type} {f : β → α} {items : List α} {Kind : β → Prop} :
    (∀ item ∈ items, ∃ part, item = f part ∧ Kind part) ↔
      ∃ parts : List β, items = parts.map f ∧ ∀ part ∈ parts, Kind part := by
  constructor
  · intro h
    induction items with
    | nil => exact ⟨[], rfl, List.forall_mem_nil _⟩
    | cons item items ih =>
      obtain ⟨⟨part, hitem, hpart⟩, hitems⟩ := List.forall_mem_cons.1 h
      obtain ⟨parts, rfl, hparts⟩ := ih hitems
      exact ⟨part :: parts, by rw [List.map_cons, hitem], List.forall_mem_cons.2 ⟨hpart, hparts⟩⟩
  · rintro ⟨parts, rfl, hparts⟩ item hitem
    obtain ⟨part, hpart, rfl⟩ := List.mem_map.1 hitem
    exact ⟨part, rfl, hparts part hpart⟩

namespace Value

/-- The map of texts. -/
def textMap (texts : List (String × String)) : Value :=
  .map (texts.map fun entry => (entry.1, .string entry.2))

end Value

/-! ### Types -/

namespace ValueType

variable {value : Value} {field : Declaration} {fields : List Declaration}
  {attributes : Attributes}

theorem check_string_iff : check .string value = .ok () ↔ ∃ text, value = .string text := by
  cases value with
  | string text => exact iff_of_true rfl ⟨text, rfl⟩
  | _ => exact iff_of_false nofun nofun

theorem check_bool_iff : check .bool value = .ok () ↔ ∃ flag, value = .bool flag := by
  cases value with
  | bool flag => exact iff_of_true rfl ⟨flag, rfl⟩
  | _ => exact iff_of_false nofun nofun

theorem check_custom_iff {name : String} {base : ValueType}
    {accepts : Value → Except String Unit} :
    check (.custom name base accepts) value = .ok () ↔
      check base value = .ok () ∧ accepts value = .ok () := by
  rw [check]
  cases check base value with
  | error violation => simp
  | ok => cases accepts value <;> simp

/-- Where items are counted from makes no difference to whether they are accepted. -/
theorem checkItems_eq_ok_iff {check : Value → Except Violation Unit} {items : List Value}
    (index : Nat) :
    checkItems check index items = .ok () ↔ ∀ item ∈ items, check item = .ok () := by
  induction items generalizing index with
  | nil => simp [checkItems]
  | cons item items ih =>
    rw [checkItems, List.forall_mem_cons]
    cases check item with
    | error violation => simp
    | ok => simp [ih]

theorem checkEntries_eq_ok_iff {check : Value → Except Violation Unit} {entries : Attributes} :
    checkEntries check entries = .ok () ↔ ∀ entry ∈ entries, check entry.2 = .ok () := by
  induction entries with
  | nil => simp [checkEntries]
  | cons entry entries ih =>
    rw [checkEntries, List.forall_mem_cons]
    cases check entry.2 with
    | error violation => simp
    | ok => simp [ih]

theorem check_list_iff {item : ValueType} :
    check (.list item) value = .ok () ↔
      ∃ items, value = .list items ∧ ∀ found ∈ items, check item found = .ok () := by
  cases value with
  | list items => exact (checkItems_eq_ok_iff 0).trans (by simp)
  | _ => exact iff_of_false nofun nofun

theorem check_map_iff {item : ValueType} :
    check (.map item) value = .ok () ↔
      ∃ entries, value = .map entries ∧ ∀ entry ∈ entries, check item entry.2 = .ok () := by
  cases value with
  | map entries => exact checkEntries_eq_ok_iff.trans (by simp)
  | _ => exact iff_of_false nofun nofun

theorem check_block_iff :
    check (.block fields) value = .ok () ↔
      ∃ entries, value = .map entries ∧ violations fields entries = [] := by
  cases value with
  | map entries =>
    rw [check]
    cases hfound : violations fields entries <;> simp [hfound]
  | _ => simp [check]

/-! ### Declarations -/

/-- What a declaration asks of what is given for it, if anything is. -/
theorem violation?_eq_none_iff {found : Option Value} :
    violation? field found = none ↔
      (found = none → field.required = false) ∧
      ∀ value, found = some value →
        field.computed = false ∧ excess? field.maxItems value = none ∧
          check field.type value = .ok () := by
  obtain ⟨name, type, required, computed, forceNew, maxItems, description⟩ := field
  cases found with
  | none => cases required <;> simp [violation?]
  | some value =>
    rw [violation?]
    cases computed with
    | true => simp
    | false =>
      cases hexcess : excess? maxItems value with
      | some excess => simp [hexcess]
      | none => cases hcheck : check type value <;> simp [hexcess, hcheck]

/-- **Attributes are fine when each declaration is kept.** -/
theorem violations_eq_nil_iff :
    violations fields attributes = [] ↔
      ∀ field ∈ fields, violation? field (attributes.lookup field.name) = none := by
  refine ⟨fun h field => violation?_of_violations_eq_nil h, fun h => ?_⟩
  induction fields with
  | nil => rw [violations]
  | cons head rest ih =>
    obtain ⟨hhead, hrest⟩ := List.forall_mem_cons.1 h
    rw [violations, hhead]
    exact ih hrest

variable {found : Option Value}

/-- A required attribute is given and conforms to its type. -/
theorem violation?_required_iff (hrequired : field.required = true)
    (hcomputed : field.computed = false) (hmax : field.maxItems = none) :
    violation? field found = none ↔
      ∃ value, found = some value ∧ check field.type value = .ok () := by
  rw [violation?_eq_none_iff]
  cases found <;> simp [hrequired, hcomputed, hmax, excess?]

/-- An attribute that may be left out conforms to its type if it is given. -/
theorem violation?_optional_iff (hrequired : field.required = false)
    (hcomputed : field.computed = false) :
    violation? field found = none ↔
      ∀ value, found = some value →
        excess? field.maxItems value = none ∧ check field.type value = .ok () := by
  rw [violation?_eq_none_iff]
  cases found <;> simp [hrequired, hcomputed]

/-- A computed attribute is not given. -/
theorem violation?_computed_iff (hrequired : field.required = false)
    (hcomputed : field.computed = true) : violation? field found = none ↔ found = none := by
  rw [violation?_eq_none_iff]
  cases found <;> simp [hrequired, hcomputed]

end ValueType

namespace Schema

variable {declarations : List Declaration}

/-- **Attributes are fine for a schema** when each declaration that it was made of is kept. -/
theorem violations_ofDeclarations_eq_nil_iff {type : String} {description : Option String}
    (hnames : (declarations.map (·.name)).Nodup) {attributes : Attributes} :
    (ofDeclarations type description declarations).violations attributes = [] ↔
      ∀ field ∈ declarations,
        ValueType.violation? field (attributes.lookup field.name) = none :=
  ValueType.violations_eq_nil_iff.trans
    (forall_congr' fun _ => imp_congr_left (mem_ofDeclarations_iff_mem hnames))

end Schema

/-! ### The catalogue -/

namespace Catalogue

open ValueType

variable {value : Value}

/-- The message has one to 140 characters, and not all of them are white space. -/
structure IsMessage (text : String) : Prop where
  nonempty : 1 ≤ text.length
  short : text.length ≤ 140
  nonblank : Text.isBlankText text = false

theorem IsMessage.ne_empty {text : String} (h : IsMessage text) : text ≠ "" := by
  rintro rfl
  exact absurd h.nonempty (by decide)

/-- The tags are no more than 50, their keys have no more than 512 characters and their texts no
more than 256. -/
structure AreTags (tags : List (String × String)) : Prop where
  few : tags.length ≤ 50
  keys : ∀ tag ∈ tags, tag.1.length ≤ 512
  texts : ∀ tag ∈ tags, tag.2.length ≤ 256

theorem checkNonBlank_iff {text : String} :
    checkNonBlank text = .ok () ↔ Text.isBlankText text = false := by
  rw [checkNonBlank]
  cases Text.isBlankText text <;> simp

theorem checkRequestMessage_iff {text : String} :
    checkRequestMessage text = .ok () ↔ IsMessage text := by
  rw [checkRequestMessage, messageLimit]
  constructor
  · intro h
    split at h
    next => cases h
    next hlength =>
      split at h
      next => cases h
      next hblank => exact ⟨by omega, by omega, Bool.eq_false_iff.2 hblank⟩
  · rintro ⟨hnonempty, hshort, hblank⟩
    rw [if_neg (by omega), if_neg (by simp [hblank])]

/-- A rule for texts accepts the texts that keep it. -/
theorem check_ruled_iff {name : String} {rule : String → Except Fault Unit} :
    check (ruled name .string (onText rule)) value = .ok () ↔
      ∃ text, value = .string text ∧ rule text = .ok () := by
  refine ⟨rule_of_check, ?_⟩
  rintro ⟨text, rfl, hrule⟩
  rw [ruled, check_custom_iff, check_string_iff]
  exact ⟨⟨text, rfl⟩, by rw [onText, hrule]; rfl⟩

theorem check_nonBlankText_iff :
    check nonBlankText value = .ok () ↔
      ∃ text, value = .string text ∧ Text.isBlankText text = false := by
  simp only [nonBlankText, check_ruled_iff, checkNonBlank_iff]

theorem check_requestMessage_iff :
    check requestMessage value = .ok () ↔ ∃ text, value = .string text ∧ IsMessage text := by
  simp only [requestMessage, check_ruled_iff, checkRequestMessage_iff]

theorem check_groupName_iff :
    check groupName value = .ok () ↔
      ∃ text, value = .string text ∧ checkGroupName text = .ok () :=
  check_ruled_iff

theorem check_nonBlankTexts_iff :
    check (.list nonBlankText) value = .ok () ↔
      ∃ texts, value = .strings texts ∧ ∀ text ∈ texts, Text.isBlankText text = false := by
  simp only [check_list_iff, check_nonBlankText_iff, forall_exists_eq_iff]
  constructor
  · rintro ⟨_, rfl, texts, rfl, htexts⟩
    exact ⟨texts, rfl, htexts⟩
  · rintro ⟨texts, rfl, htexts⟩
    exact ⟨_, rfl, texts, rfl, htexts⟩

theorem check_textMap_iff :
    check textMap value = .ok () ↔ ∃ texts, value = .textMap texts := by
  rw [textMap, check_map_iff]
  constructor
  · rintro ⟨entries, rfl, hentries⟩
    have htexts : ∀ entry ∈ entries, ∃ text : String × String,
        entry = (text.1, .string text.2) ∧ True := by
      intro entry hentry
      obtain ⟨text, htext⟩ := check_string_iff.1 (hentries entry hentry)
      exact ⟨(entry.1, text), Prod.ext rfl htext, trivial⟩
    obtain ⟨texts, rfl, -⟩ := forall_exists_eq_iff.1 htexts
    exact ⟨texts, rfl⟩
  · rintro ⟨texts, rfl⟩
    refine ⟨_, rfl, fun entry hentry => ?_⟩
    obtain ⟨tag, -, rfl⟩ := List.mem_map.1 hentry
    exact check_string_iff.2 ⟨tag.2, rfl⟩

theorem checkTag_iff {tag : String × String} :
    checkTag (tag.1, .string tag.2) = .ok () ↔ tag.1.length ≤ 512 ∧ tag.2.length ≤ 256 := by
  have hkeyLimit : tagKeyLimit = 512 := rfl
  have htextLimit : tagValueLimit = 256 := rfl
  rw [checkTag]
  by_cases hkey : tagKeyLimit < tag.1.length
  · rw [if_pos hkey]
    exact iff_of_false nofun fun h => absurd h.1 (by omega)
  · rw [if_neg hkey]
    by_cases htext : tagValueLimit < tag.2.length
    · exact iff_of_false (by simp [htext]) fun h => absurd h.2 (by omega)
    · exact iff_of_true (by simp [htext]) (by omega)

theorem checkTags_iff {texts : List (String × String)} :
    checkTags (texts.map fun entry => (entry.1, .string entry.2)) = .ok () ↔ AreTags texts := by
  rw [checkTags, tagLimit, List.length_map]
  by_cases hmany : 50 < texts.length
  · rw [if_pos hmany]
    exact iff_of_false nofun fun h => absurd h.few (by omega)
  · rw [if_neg hmany, forM_eq_ok_iff, List.forall_mem_map]
    simp only [checkTag_iff]
    exact ⟨fun h => ⟨by omega, fun tag htag => (h tag htag).1, fun tag htag => (h tag htag).2⟩,
      fun h tag htag => ⟨h.keys tag htag, h.texts tag htag⟩⟩

theorem check_tags_iff :
    check tags value = .ok () ↔ ∃ texts, value = .textMap texts ∧ AreTags texts := by
  rw [tags, ruled, check_custom_iff, check_textMap_iff]
  constructor
  · rintro ⟨⟨texts, rfl⟩, hrule⟩
    exact ⟨texts, rfl, checkTags_iff.1 (mapError_eq_ok_iff.1 hrule)⟩
  · rintro ⟨texts, rfl, htags⟩
    exact ⟨⟨texts, rfl⟩, mapError_eq_ok_iff.2 (checkTags_iff.2 htags)⟩

/-! ### Connections and endpoints -/

/-- The text under the key is given and not blank. -/
def GivesText (attributes : Attributes) (key : String) : Prop :=
  ∃ text, attributes.lookup key = some (.string text) ∧ Text.isBlankText text = false

/-- What is asked of the attributes of a connection. -/
structure AdmitsConnection (block : Attributes) : Prop where
  name : GivesText block "name"
  isManual : ∃ flag, block.lookup "is_manual_connection" = some (.bool flag)
  resourceId : GivesText block "private_connection_resource_id"
  subresourceNames : ∀ value, block.lookup "subresource_names" = some value →
    ∃ texts, value = .strings texts ∧ ∀ text ∈ texts, Text.isBlankText text = false
  requestMessage : ∀ value, block.lookup "request_message" = some value →
    ∃ text, value = .string text ∧ IsMessage text
  provisioningState : block.lookup "provisioning_state" = none
  status : block.lookup "status" = none
  privateAddress : block.lookup "private_ip_address" = none

/-- What is asked of the attributes of an endpoint. -/
structure AdmitsEndpoint (attributes : Attributes) : Prop where
  name : GivesText attributes "name"
  location : GivesText attributes "location"
  resourceGroup : ∃ text, attributes.lookup "resource_group_name" = some (.string text) ∧
    checkGroupName text = .ok ()
  subnetId : GivesText attributes "subnet_id"
  connections : ∀ value, attributes.lookup "private_service_connection" = some value →
    ∃ blocks : List Attributes, value = .list (blocks.map .map) ∧ blocks.length ≤ 1 ∧
      ∀ block ∈ blocks, AdmitsConnection block
  interfaceIds : attributes.lookup "network_interface_ids" = none
  tags : ∀ value, attributes.lookup "tags" = some value →
    ∃ texts, value = .textMap texts ∧ AreTags texts

theorem exists_nonBlankText_iff {attributes : Attributes} {key : String} :
    (∃ value, attributes.lookup key = some value ∧ check nonBlankText value = .ok ()) ↔
      GivesText attributes key := by
  simp only [check_nonBlankText_iff, GivesText]
  constructor
  · rintro ⟨_, hlookup, text, rfl, htext⟩
    exact ⟨text, hlookup, htext⟩
  · rintro ⟨text, hlookup, htext⟩
    exact ⟨_, hlookup, text, rfl, htext⟩

theorem exists_bool_iff {attributes : Attributes} {key : String} :
    (∃ value, attributes.lookup key = some value ∧ check .bool value = .ok ()) ↔
      ∃ flag, attributes.lookup key = some (.bool flag) := by
  simp only [check_bool_iff]
  constructor
  · rintro ⟨_, hlookup, flag, rfl⟩
    exact ⟨flag, hlookup⟩
  · rintro ⟨flag, hlookup⟩
    exact ⟨_, hlookup, flag, rfl⟩

theorem excess?_none : excess? none value = none := by
  cases value <;> rfl

/-- **What is asked of a connection.** -/
theorem violations_connectionFields_eq_nil_iff {block : Attributes} :
    violations connectionFields block = [] ↔ AdmitsConnection block := by
  rw [violations_eq_nil_iff]
  simp only [connectionFields, List.forall_mem_cons, violation?_required_iff,
    violation?_optional_iff, violation?_computed_iff, exists_nonBlankText_iff, exists_bool_iff,
    excess?_none, check_nonBlankTexts_iff, check_requestMessage_iff, true_and]
  constructor
  · rintro ⟨hname, hmanual, hresource, hsubresources, hmessage, hstate, hstatus, haddress, -⟩
    exact ⟨hname, hmanual, hresource, hsubresources, hmessage, hstate, hstatus, haddress⟩
  · rintro ⟨hname, hmanual, hresource, hsubresources, hmessage, hstate, hstatus, haddress⟩
    exact ⟨hname, hmanual, hresource, hsubresources, hmessage, hstate, hstatus, haddress,
      List.forall_mem_nil _⟩

/-- A list of connections holds at most one. -/
theorem check_connections_iff :
    excess? (some 1) value = none ∧ check (.list connection) value = .ok () ↔
      ∃ blocks : List Attributes, value = .list (blocks.map .map) ∧ blocks.length ≤ 1 ∧
        ∀ block ∈ blocks, AdmitsConnection block := by
  simp only [check_list_iff, connection, check_block_iff, violations_connectionFields_eq_nil_iff]
  constructor
  · rintro ⟨hexcess, items, rfl, hitems⟩
    obtain ⟨blocks, rfl, hblocks⟩ := forall_exists_eq_iff.1 hitems
    refine ⟨blocks, rfl, ?_, hblocks⟩
    simpa [excess?] using hexcess
  · rintro ⟨blocks, rfl, hfew, hblocks⟩
    exact ⟨by simpa [excess?] using hfew, _, rfl, forall_exists_eq_iff.2 ⟨blocks, rfl, hblocks⟩⟩

/-- **What is asked of an endpoint.** -/
theorem violations_endpointSchema_eq_nil_iff {attributes : Attributes} :
    endpointSchema.violations attributes = [] ↔ AdmitsEndpoint attributes := by
  rw [endpointSchema, Schema.violations_ofDeclarations_eq_nil_iff nodup_endpointDeclarations]
  -- There is one part for each declaration, in the order in which they are declared.
  simp only [endpointDeclarations, List.forall_mem_cons, violation?_required_iff,
    violation?_optional_iff, violation?_computed_iff, exists_nonBlankText_iff, excess?_none,
    check_groupName_iff, check_connections_iff, check_tags_iff, true_and]
  constructor
  · rintro ⟨hname, hlocation, ⟨_, hlookup, group, rfl, hgroup⟩, hsubnet, hconnections, hinterfaces,
      htags, -⟩
    exact ⟨hname, hlocation, ⟨group, hlookup, hgroup⟩, hsubnet, hconnections, hinterfaces, htags⟩
  · rintro ⟨hname, hlocation, ⟨group, hlookup, hgroup⟩, hsubnet, hconnections, hinterfaces, htags⟩
    exact ⟨hname, hlocation, ⟨_, hlookup, group, rfl, hgroup⟩, hsubnet, hconnections, hinterfaces,
      htags, List.forall_mem_nil _⟩

end Catalogue

end PrivateLink
