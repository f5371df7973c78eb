import PrivateLink.Proofs.Endpoint.Description

/-!
# Attributes of endpoints that were found

The attributes of an endpoint that was found describe it: each part of the endpoint is found under
its name again, connections as blocks in their order, and tags unless there are none. So reading the
attributes gives the endpoint back, as far as it can be asked for, and nothing that was found gets
lost when it is asked for again.

* `Observed.holds`: the attributes of an endpoint describe it;
* `Spec.ofAttributes_attributes`: what is read of them.
-/

namespace PrivateLink.Endpoint

/-- A text that may be absent is found under its own name. -/
theorem lookup_textEntry (key name : String) (text : Option String) :
    (textEntry name text).reverse.lookup key = if key = name then text.map .string else none := by
  cases text with
  | none => exact (ite_self none).symm
  | some text => exact lookup_entry_cons key name _ []

/-- Tags are found under their own name, if there are any. -/
theorem lookup_tagsEntry (key : String) (tags : Dictionary String) :
    (tagsEntry tags).reverse.lookup key =
      if key = "tags" ∧ tags.entries ≠ [] then some (.textMap tags.entries) else none := by
  unfold tagsEntry
  by_cases hempty : tags.entries = []
  · simp [hempty]
  · simp [hempty, lookup_entry_cons, Value.textMap]

/-- **The block of a connection describes it.** -/
theorem Connection.exists_block (connection : Connection) :
    ∃ block, connection.value = .map block ∧ connection.Holds block := by
  refine ⟨_, rfl, ?_⟩
  constructor <;> rw [lookup_entriesOf] <;>
    simp [List.lookup_append, lookup_textEntry, lookup_entry_cons]

/-- The blocks of connections describe them in their order. -/
theorem exists_blocks (connections : List Connection) :
    ∃ blocks : List Attributes, connections.map Connection.value = blocks.map .map ∧
      List.Forall₂ Connection.Holds blocks connections := by
  induction connections with
  | nil => exact ⟨[], rfl, .nil⟩
  | cons connection connections ih =>
    obtain ⟨block, hvalue, hholds⟩ := connection.exists_block
    obtain ⟨blocks, hvalues, hall⟩ := ih
    refine ⟨block :: blocks, ?_, .cons hholds hall⟩
    rw [List.map_cons, List.map_cons, hvalue, hvalues]

/-- What is found under every name but that of the tags. -/
theorem Observed.lookup_attributes (observed : Observed) :
    observed.attributes.lookup "name" = some (.string observed.spec.name) ∧
      observed.attributes.lookup "location" = some (.string observed.spec.location) ∧
      observed.attributes.lookup "resource_group_name" =
        some (.string observed.spec.resourceGroup) ∧
      observed.attributes.lookup "subnet_id" = some (.string observed.spec.subnetId) ∧
      observed.attributes.lookup "private_service_connection" =
        some (.list (observed.spec.connections.map Connection.value)) ∧
      observed.attributes.lookup "network_interface_ids" =
        some (.strings observed.interfaceIds) := by
  unfold Observed.attributes
  refine ⟨?_, ?_, ?_, ?_, ?_, ?_⟩ <;>
    simp [lookup_entriesOf, List.lookup_append, lookup_tagsEntry, lookup_entry_cons]

/-- **The attributes of an endpoint describe it**, whether it has tags or not. -/
theorem Observed.holds (observed : Observed) : observed.spec.Holds observed.attributes := by
  obtain ⟨hname, hlocation, hgroup, hsubnet, hconnections, -⟩ := observed.lookup_attributes
  obtain ⟨blocks, hvalues, hblocks⟩ := exists_blocks observed.spec.connections
  have hlist : (observed.attributes.lookup "private_service_connection").getD (.list []) =
      .list (blocks.map .map) := by
    rw [hconnections, hvalues, Option.getD_some]
  -- Tags that are left out are read as no tags, and just these are left out.
  have htags : (observed.attributes.lookup "tags").getD (.textMap []) =
      .textMap observed.spec.tags.entries := by
    rw [Observed.attributes, lookup_entriesOf]
    by_cases hempty : observed.spec.tags.entries = [] <;>
      simp [List.lookup_append, lookup_tagsEntry, lookup_entry_cons, hempty]
  exact ⟨hname, hlocation, hgroup, hsubnet, ⟨blocks, hlist, hblocks⟩,
    ⟨_, htags, (Dictionary.ofList_entries _).symm⟩⟩

/-- **An endpoint is read back from its attributes**, as far as it can be asked for. -/
theorem Spec.ofAttributes_attributes (observed : Observed) :
    Spec.ofAttributes observed.attributes = .ok observed.spec.asked :=
  Spec.ofAttributes_of_holds observed.holds

end PrivateLink.Endpoint
