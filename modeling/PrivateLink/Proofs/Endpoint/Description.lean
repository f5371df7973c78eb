import Mathlib.Data.List.Forall2
import PrivateLink.Endpoint.Spec
import PrivateLink.Proofs.Catalogue.Admission
import PrivateLink.Proofs.Dictionary
import PrivateLink.Proofs.Endpoint.Exchange

/-!
# Attributes that describe endpoints

Attributes that describe an endpoint are read as that endpoint, as far as it can be asked for.
Attributes that the schema lets through do describe one: none of the readers of attributes has
anything left to refuse, and the endpoint holds what the attributes say and nothing else.

* `Spec.Holds`, `Spec.IsDesired`: what an endpoint has to do with the attributes that describe it,
  and what is known of it then;
* `Spec.ofAttributes_of_holds`: what is read of the attributes that describe an endpoint;
* `Spec.exists_ofAttributes`: admitted attributes describe an endpoint.
-/

namespace PrivateLink.Endpoint

open Catalogue

/-! ### What is read of attributes -/

/-- The connection is what the block says. A list of sub-resources that is left out is empty. -/
structure Connection.Holds (block : Attributes) (connection : Connection) : Prop where
  name : block.lookup "name" = some (.string connection.name)
  isManual : block.lookup "is_manual_connection" = some (.bool connection.isManual)
  resourceId : block.lookup "private_connection_resource_id" = some (.string connection.resourceId)
  subresourceNames : (block.lookup "subresource_names").getD (.strings []) =
    .strings connection.subresourceNames
  requestMessage : block.lookup "request_message" = connection.requestMessage.map .string

/-- The endpoint is what the attributes say, with its connections in their order. Connections and
tags that are left out are none. -/
structure Spec.Holds (attributes : Attributes) (spec : Spec) : Prop where
  name : attributes.lookup "name" = some (.string spec.name)
  location : attributes.lookup "location" = some (.string spec.location)
  resourceGroup : attributes.lookup "resource_group_name" = some (.string spec.resourceGroup)
  subnetId : attributes.lookup "subnet_id" = some (.string spec.subnetId)
  connections : ∃ blocks : List Attributes,
    (attributes.lookup "private_service_connection").getD (.list []) = .list (blocks.map .map) ∧
      List.Forall₂ Connection.Holds blocks spec.connections
  tags : ∃ texts, (attributes.lookup "tags").getD (.textMap []) = .textMap texts ∧
    spec.tags = .ofList texts

/-- The connection is one that can be asked for: nothing in it is blank, and nothing is set that
only the service knows. -/
structure Connection.IsDesired (connection : Connection) : Prop where
  name : Text.isBlankText connection.name = false
  resourceId : Text.isBlankText connection.resourceId = false
  subresourceNames : ∀ name ∈ connection.subresourceNames, Text.isBlankText name = false
  requestMessage : ∀ message, connection.requestMessage = some message → IsMessage message
  provisioningState : connection.provisioningState = none
  status : connection.status = none
  privateAddress : connection.privateAddress = none

/-- The endpoint is one that can be asked for. -/
structure Spec.IsDesired (spec : Spec) : Prop where
  name : Text.isBlankText spec.name = false
  location : Text.isBlankText spec.location = false
  resourceGroup : checkGroupName spec.resourceGroup = .ok ()
  subnetId : Text.isBlankText spec.subnetId = false
  fewConnections : spec.connections.length ≤ 1
  connections : ∀ connection ∈ spec.connections, connection.IsDesired
  tags : AreTags spec.tags.entries

/-! ### Readers of attributes -/

variable {attributes block : Attributes} {name : String}

theorem requiredText_of_lookup {text : String}
    (h : attributes.lookup name = some (.string text)) :
    requiredText attributes name = .ok text := by
  rw [requiredText, h]

theorem requiredFlag_of_lookup {flag : Bool} (h : attributes.lookup name = some (.bool flag)) :
    requiredFlag attributes name = .ok flag := by
  rw [requiredFlag, h]

theorem optionalText_of_lookup {text : Option String}
    (h : attributes.lookup name = text.map .string) : optionalText attributes name = .ok text := by
  rw [optionalText, h]
  cases text <;> rfl

theorem mapM_text? (texts : List String) :
    (texts.map Value.string).mapM Value.text? = some texts := by
  rw [List.mapM_map]
  exact List.mapM_pure.trans (congrArg some (List.map_id' texts))

theorem textList_of_lookup {texts : List String}
    (h : (attributes.lookup name).getD (.strings []) = .strings texts) :
    textList attributes name = .ok texts := by
  rw [textList]
  cases hlookup : attributes.lookup name with
  | none =>
    rw [hlookup] at h
    cases texts with
    | nil => rfl
    | cons => cases h
  | some value =>
    rw [hlookup] at h
    cases h
    simp only [mapM_text?]

theorem mapM_tagOf (texts : List (String × String)) :
    (texts.map fun entry => (entry.1, Value.string entry.2)).mapM tagOf = .ok texts := by
  rw [List.mapM_map]
  exact List.mapM_pure.trans (congrArg Except.ok (List.map_id' texts))

theorem tagsOf_of_lookup {texts : List (String × String)}
    (h : (attributes.lookup "tags").getD (.textMap []) = .textMap texts) :
    tagsOf attributes = .ok (.ofList texts) := by
  rw [tagsOf]
  cases hlookup : attributes.lookup "tags" with
  | none =>
    rw [hlookup] at h
    cases texts with
    | nil => rfl
    | cons => cases h
  | some value =>
    rw [hlookup] at h
    cases h
    simp only [mapM_tagOf]
    rfl

/-- Items that are each read as something that fits them are read as the list of it. -/
theorem mapM_of_forall₂ {ε α β γ : Type} {read : α → Except ε γ} {f : β → γ} {Fits : α → β → Prop}
    (hread : ∀ item part, Fits item part → read item = .ok (f part)) {items : List α}
    {found : List β} (h : List.Forall₂ Fits items found) : items.mapM read = .ok (found.map f) := by
  induction h with
  | nil => rfl
  | cons hfirst _ ih =>
    rw [List.mapM_cons, hread _ _ hfirst, ih]
    rfl

theorem connectionsOf_of_lookup {blocks : List Attributes} {connections : List Connection}
    (h : (attributes.lookup "private_service_connection").getD (.list []) =
      .list (blocks.map .map))
    (hread : blocks.mapM Connection.ofAttributes = .ok connections) :
    connectionsOf attributes = .ok connections := by
  rw [connectionsOf]
  cases hlookup : attributes.lookup "private_service_connection" with
  | none =>
    rw [hlookup] at h
    cases blocks with
    | nil => exact hread
    | cons => cases h
  | some value =>
    rw [hlookup] at h
    cases h
    exact List.mapM_map.trans hread

/-! ### Endpoints that attributes describe -/

variable {connection : Connection} {spec : Spec}

/-- The endpoint as far as it can be asked for: its connections without what only the service knows,
an empty request message counting as none. -/
def Spec.asked (spec : Spec) : Spec :=
  { spec with connections := spec.connections.map (Connection.echo none) }

/-- A block is read as the connection that it describes. -/
theorem Connection.ofAttributes_of_holds (h : connection.Holds block) :
    Connection.ofAttributes block = .ok (connection.echo none) := by
  rw [Connection.ofAttributes, requiredFlag_of_lookup h.isManual, requiredText_of_lookup h.name,
    requiredText_of_lookup h.resourceId, textList_of_lookup h.subresourceNames,
    optionalText_of_lookup h.requestMessage]
  simp only [bind, Except.bind, pure, Except.pure, nonEmpty_eq, Connection.echo]

/-- **Attributes are read as the endpoint that they describe.** -/
theorem Spec.ofAttributes_of_holds (h : spec.Holds attributes) :
    Spec.ofAttributes attributes = .ok spec.asked := by
  obtain ⟨blocks, hblocks, hconnections⟩ := h.connections
  obtain ⟨texts, htexts, htags⟩ := h.tags
  have hread : blocks.mapM Connection.ofAttributes = .ok spec.asked.connections :=
    mapM_of_forall₂ (fun _ _ hholds => Connection.ofAttributes_of_holds hholds) hconnections
  rw [Spec.ofAttributes, connectionsOf_of_lookup hblocks hread, tagsOf_of_lookup htexts, ← htags,
    requiredText_of_lookup h.name, requiredText_of_lookup h.location,
    requiredText_of_lookup h.resourceGroup, requiredText_of_lookup h.subnetId]
  rfl

/-! ### Admitted attributes -/

/-- What is given of some kind, or left out for the least of its kind, is of the kind. -/
theorem exists_getD_eq {α β : Type} {found : Option α} (f : β → α) {Kind : β → Prop} (least : β)
    (h : ∀ value, found = some value → ∃ part, value = f part ∧ Kind part) (hleast : Kind least) :
    ∃ part, found.getD (f least) = f part ∧ Kind part := by
  cases found with
  | none => exact ⟨least, rfl, hleast⟩
  | some value => exact h value rfl

theorem exists_map_eq {α β : Type} {found : Option α} {f : β → α} {Kind : β → Prop}
    (h : ∀ value, found = some value → ∃ part, value = f part ∧ Kind part) :
    ∃ part : Option β, found = part.map f ∧ ∀ given, part = some given → Kind given := by
  cases found with
  | none => exact ⟨none, rfl, nofun⟩
  | some value =>
    obtain ⟨part, rfl, hpart⟩ := h value rfl
    exact ⟨some part, rfl, fun given hgiven => Option.some.inj hgiven ▸ hpart⟩

/-- Items of which each has something that fits it have a list that fits them. -/
theorem exists_forall₂ {α β : Type} {Fits : α → β → Prop} {Kind : β → Prop} {items : List α}
    (h : ∀ item ∈ items, ∃ found, Fits item found ∧ Kind found) :
    ∃ found, List.Forall₂ Fits items found ∧ ∀ part ∈ found, Kind part := by
  induction items with
  | nil => exact ⟨[], .nil, List.forall_mem_nil _⟩
  | cons item items ih =>
    obtain ⟨⟨first, hfits, hkind⟩, hitems⟩ := List.forall_mem_cons.1 h
    obtain ⟨rest, hall, hkinds⟩ := ih hitems
    exact ⟨first :: rest, .cons hfits hall, List.forall_mem_cons.2 ⟨hkind, hkinds⟩⟩

/-- A message is not empty, so it is kept. -/
theorem nonEmpty_of_isMessage {message : Option String}
    (h : ∀ text, message = some text → IsMessage text) : nonEmpty message = message := by
  cases message with
  | none => rfl
  | some text =>
    simp [nonEmpty, (h text rfl).ne_empty]

/-- All of a connection that can be asked for is asked for. -/
theorem Connection.IsDesired.echo_eq (h : connection.IsDesired) :
    connection.echo none = connection := by
  have hmessage := nonEmpty_of_isMessage h.requestMessage
  rw [nonEmpty_eq] at hmessage
  obtain ⟨-, -, -, -, hstate, hstatus, haddress⟩ := h
  cases connection
  cases hstate
  cases hstatus
  cases haddress
  rw [Connection.echo, hmessage]

/-- All of an endpoint that can be asked for is asked for. -/
theorem Spec.IsDesired.asked_eq (h : spec.IsDesired) : spec.asked = spec := by
  have hconnections : spec.connections.map (Connection.echo none) = spec.connections :=
    List.map_congr_left (fun connection hmem => (h.connections connection hmem).echo_eq)
      |>.trans (List.map_id' _)
  rw [Spec.asked, hconnections]

/-- The attributes of a connection that are admitted describe a connection. -/
theorem Connection.exists_holds (h : AdmitsConnection block) :
    ∃ connection : Connection, connection.Holds block ∧ connection.IsDesired := by
  obtain ⟨name, hname, hnameRule⟩ := h.name
  obtain ⟨isManual, hmanual⟩ := h.isManual
  obtain ⟨resourceId, hresource, hresourceRule⟩ := h.resourceId
  obtain ⟨subresourceNames, hsubresources, hsubresourceRule⟩ :=
    exists_getD_eq Value.strings [] h.subresourceNames (List.forall_mem_nil _)
  obtain ⟨requestMessage, hmessage, hmessageRule⟩ := exists_map_eq h.requestMessage
  exact ⟨{ name, isManual, resourceId, subresourceNames, requestMessage },
    ⟨hname, hmanual, hresource, hsubresources, hmessage⟩,
    ⟨hnameRule, hresourceRule, hsubresourceRule, hmessageRule, rfl, rfl, rfl⟩⟩

/-- The dictionary of tags that keep the rules keeps them. -/
theorem areTags_ofList {texts : List (String × String)} (h : AreTags texts) :
    AreTags (Dictionary.ofList texts).entries where
  few := Nat.le_trans (length_entriesOf_le texts) h.few
  keys tag htag := h.keys tag (mem_of_mem_entriesOf htag)
  texts tag htag := h.texts tag (mem_of_mem_entriesOf htag)

/-- **Admitted attributes describe an endpoint.** -/
theorem Spec.exists_ofAttributes (h : AdmitsEndpoint attributes) :
    ∃ spec, Spec.ofAttributes attributes = .ok spec ∧ spec.Holds attributes ∧ spec.IsDesired := by
  obtain ⟨name, hname, hnameRule⟩ := h.name
  obtain ⟨location, hlocation, hlocationRule⟩ := h.location
  obtain ⟨resourceGroup, hgroup, hgroupRule⟩ := h.resourceGroup
  obtain ⟨subnetId, hsubnet, hsubnetRule⟩ := h.subnetId
  -- Connections and tags that are left out are none, and none keep every rule.
  have hnoBlocks : ([] : List Attributes).length ≤ 1 ∧ ∀ block ∈ [], AdmitsConnection block :=
    ⟨Nat.zero_le _, List.forall_mem_nil _⟩
  have hnoTags : AreTags [] := ⟨Nat.zero_le _, List.forall_mem_nil _, List.forall_mem_nil _⟩
  obtain ⟨blocks, hblocks, hfew, hadmitted⟩ :=
    exists_getD_eq (fun blocks : List Attributes => Value.list (blocks.map .map)) [] h.connections
      hnoBlocks
  obtain ⟨connections, hconnections, hdesired⟩ :=
    exists_forall₂ fun block hblock => Connection.exists_holds (hadmitted block hblock)
  obtain ⟨texts, htexts, htagRule⟩ := exists_getD_eq Value.textMap [] h.tags hnoTags
  have hcount : connections.length ≤ 1 := hconnections.length_eq ▸ hfew
  let spec : Spec :=
    { name, location, resourceGroup, subnetId, connections, tags := .ofList texts }
  have hholds : spec.Holds attributes :=
    ⟨hname, hlocation, hgroup, hsubnet, ⟨blocks, hblocks, hconnections⟩, ⟨texts, htexts, rfl⟩⟩
  have hasked : spec.IsDesired :=
    ⟨hnameRule, hlocationRule, hgroupRule, hsubnetRule, hcount, hdesired, areTags_ofList htagRule⟩
  refine ⟨spec, ?_, hholds, hasked⟩
  rw [Spec.ofAttributes_of_holds hholds, hasked.asked_eq]

/-! ### Canonical attributes -/

theorem canonical_of_lookup {value : Value} (hcanonical : Value.CanonicalEntries attributes)
    (h : attributes.lookup name = some value) : value.Canonical := by
  induction attributes with
  | nil => cases h
  | cons entry attributes ih =>
    obtain ⟨key, found⟩ := entry
    rw [lookup_entry_cons] at h
    split at h
    · cases h
      exact hcanonical.1
    · exact ih hcanonical.2 h

/-- The tags of canonical attributes are the tags of the endpoint as they stand. -/
theorem Spec.Holds.tags_of_canonical (h : spec.Holds attributes)
    (hcanonical : attributes.Canonical) :
    (attributes.lookup "tags").getD (.textMap []) = .textMap spec.tags.entries := by
  obtain ⟨texts, htexts, htags⟩ := h.tags
  have hmap : (Value.textMap texts).Canonical := by
    rw [← htexts]
    cases hlookup : attributes.lookup "tags" with
    | none => exact ⟨List.Pairwise.nil, trivial⟩
    | some value => exact canonical_of_lookup hcanonical.2 hlookup
  have hascending : Ascending texts := by
    have hentries := hmap.1
    rwa [Ascending, List.pairwise_map] at hentries
  rw [htexts, htags]
  exact congrArg Value.textMap (entriesOf_of_ascending hascending).symm

end PrivateLink.Endpoint
