import PrivateLink.Proofs.Cloud.Repetition
import PrivateLink.Proofs.Provider.FirstCall
import PrivateLink.Proofs.Provider.InPlace
import PrivateLink.Proofs.Provider.Refinement

/-!
# Resources that are applied again

A resource that was created in a cloud can be asked for again, with the identifier and the state
that its creation came to. The state shows the location in normal form, so any spelling with the
same normal form is no change; the name and the resource group in the identifier are those of the
resource. So the update is not refused, and what it sends is what was sent before. It comes to the
same state and changes nothing in the cloud but the calls on record, also when it is made again and
again, each time with another spelling.

* `Settled`: the state is what an application of the endpoint has left behind;
* `Settled.exists_updateSpec`, `Settled.update`: what one update has to do with it;
* `update_created`: the first update after a creation;
* `Settled.runAll_update`: any number of updates.
-/

namespace PrivateLink

open Network

/-! ### Other spellings of the location -/

/-- The other resource is the same but for the spelling of its location. -/
structure Resource.Respelled (resource other : Resource) : Prop where
  address : other.address = resource.address
  attributes : ∀ name, name ≠ "location" →
    other.attributes.lookup name = resource.attributes.lookup name
  location : ∀ old new, resource.attributes.lookup "location" = some (.string old) →
    other.attributes.lookup "location" = some (.string new) →
    Location.normalize new = Location.normalize old

/-- The endpoint that is read of attributes with another location differs in that alone. -/
theorem Endpoint.Spec.ofAttributes_relocated {attributes other : Attributes} {old new : String}
    (hothers : ∀ name, name ≠ "location" → other.lookup name = attributes.lookup name)
    (hold : attributes.lookup "location" = some (.string old))
    (hnew : other.lookup "location" = some (.string new)) :
    Spec.ofAttributes other =
      (Spec.ofAttributes attributes).map fun spec => { spec with location := new } := by
  have htext : ∀ name, name ≠ "location" →
      requiredText other name = requiredText attributes name := fun name hname => by
    rw [requiredText, requiredText, hothers name hname]
  have hconnections : connectionsOf other = connectionsOf attributes := by
    rw [connectionsOf, connectionsOf, hothers _ (by decide)]
  have htags : tagsOf other = tagsOf attributes := by
    rw [tagsOf, tagsOf, hothers _ (by decide)]
  unfold Spec.ofAttributes
  rw [hconnections, htags, htext "name" (by decide), htext "resource_group_name" (by decide),
    htext "subnet_id" (by decide), requiredText_of_lookup hold, requiredText_of_lookup hnew]
  cases connectionsOf attributes <;> cases tagsOf attributes <;>
    cases requiredText attributes "name" <;>
    cases requiredText attributes "resource_group_name" <;>
    cases requiredText attributes "subnet_id" <;> rfl

namespace Provider

open Cloud Endpoint
open Manager.Identifier (IsSegment)

variable {settings : Settings} {scope : Stop.Scope} {resource other : Resource} {spec : Spec}

/-- A resource with another spelling of the location asks for the same endpoint, if it is accepted
as well. -/
theorem exists_specOf_respelled (hspec : specOf resource = .ok spec)
    (hrespelled : resource.Respelled other)
    (haccepted : Catalogue.endpointSchema.violations other.attributes = []) :
    ∃ respelled, specOf other = .ok respelled ∧ respelled.normal = spec.normal := by
  obtain ⟨found, hfind, -⟩ := exists_specOf_iff.1 ⟨spec, hspec⟩
  rw [← hrespelled.address] at hfind
  rw [← schema_of_find? hfind] at haccepted
  obtain ⟨respelled, hother⟩ := exists_specOf_iff.2 ⟨found, hfind, haccepted⟩
  refine ⟨respelled, hother, ?_⟩
  have hold := (holds_of_specOf hspec).location
  have hnew := (holds_of_specOf hother).location
  have hread := Spec.ofAttributes_relocated hrespelled.attributes hold hnew
  rw [(accepted_of_specOf hspec).2, (accepted_of_specOf hother).2] at hread
  have hsame : respelled = { spec with location := respelled.location } := Except.ok.inj hread
  rw [hsame]
  exact congrArg (fun location => { spec with location }) (hrespelled.location _ _ hold hnew)

/-- Texts with the same form are compared as unchanged. -/
theorem Unchanged.of_lookup {name old new : String} {form : String → String}
    {before desired : Attributes} (hold : before.lookup name = some (.string old))
    (hnew : desired.lookup name = some (.string new)) (h : form old = form new) :
    Unchanged name form before desired := by
  intro old' new' hold' hnew'
  cases hold.symm.trans hold'
  cases hnew.symm.trans hnew'
  exact congrArg Value.string h

/-- By a state that reports the endpoint under its own identifier, the endpoint can be updated in
place, however its location is spelled. -/
theorem exists_updateSpec_respelled {before : State} {record : Wire.Endpoint} {identifier : String}
    (hreports : before.Reports spec.resourceGroup spec.name record)
    (hname : record.name = some spec.name)
    (hlocation : record.location = some (Location.normalize spec.location))
    (hid : parseId identifier = .ok (spec.resourceGroup, spec.name))
    (hspec : specOf resource = .ok spec) (hrespelled : resource.Respelled other)
    (haccepted : Catalogue.endpointSchema.violations other.attributes = []) :
    ∃ respelled, updateSpec resource.address identifier before other = .ok respelled ∧
      respelled.normal = spec.normal := by
  obtain ⟨respelled, hother, hnormal⟩ := exists_specOf_respelled hspec hrespelled haccepted
  refine ⟨respelled, updateSpec_eq_ok_iff.2 ⟨hother, ?known, ?unchanged, ?means⟩, hnormal⟩
  all_goals obtain ⟨hsameName, hsameLocation, hsameGroup, -⟩ := Spec.mk.inj hnormal
  case known =>
    obtain ⟨found, hfind, -⟩ := exists_specOf_iff.1 ⟨spec, hspec⟩
    exact ⟨found, hfind⟩
  case unchanged =>
    have hholds := holds_of_specOf hother
    refine replacements_comparable_eq_nil_iff.2
      ⟨.of_lookup hreports.name hholds.name ?_, .of_lookup hreports.location hholds.location ?_,
        .of_lookup hreports.resourceGroup hholds.resourceGroup ?_⟩
    · rw [hname, hsameName, Option.getD_some]
    · rw [hlocation, Option.map_some, Option.getD_some, Location.normalize_normalize,
        Location.normalize_normalize, hsameLocation]
    · rw [hsameGroup]
  case means =>
    rw [hsameName, hsameGroup]
    exact ⟨_, hid, Text.equalIgnoringCase_refl _⟩

/-! ### Settled states -/

/-- An application is shown as a state when it has come to the endpoint that the state is of. -/
theorem shown_eq_ok_iff {σ : Type} {provider : Provider σ} {address : Address}
    {work : Stop.Scope → StateM σ (Except Fault Observed)} {start done : σ} {state : State} :
    (do
      let result ← provider.run address work
      return result.map fun observed => some (stateOf address observed) :
        StateM σ Answer) start = (.ok (some state), done) ↔
      ∃ observed, work (provider.operationScope start) start = (.ok observed, done) ∧
        state = stateOf address observed := by
  change ((shown address (work (provider.operationScope start) start).1).map _,
    (work (provider.operationScope start) start).2) = _ ↔ _
  constructor
  · intro h
    rcases hwork : work (provider.operationScope start) start with ⟨fault | observed, after⟩
    all_goals
      rw [hwork] at h
      cases h
    exact ⟨observed, rfl, rfl⟩
  · rintro ⟨observed, hwork, rfl⟩
    rw [hwork]
    rfl

/-- The state is what an application of the endpoint came to, within the scope of an operation, and
the cloud is as it was left. -/
def Settled (settings : Settings) (scope : Stop.Scope) (address : Address) (spec : Spec)
    (state : State) (cloud : Cloud) : Prop :=
  ∃ mode start observed,
    Endpoint.apply Cloud.client ((overCloud settings scope).operationScope start) spec mode start =
      (.ok observed, cloud) ∧
    state = stateOf address observed

variable {state : State} {start cloud : Cloud}

/-- What a creation comes to is settled. -/
theorem settled_of_create
    (h : (Task.create resource).run (overCloud settings scope) start = (.ok (some state), cloud)) :
    ∃ spec, specOf resource = .ok spec ∧
      Settled settings scope resource.address spec state cloud := by
  cases hspec : specOf resource with
  | error error =>
    rw [Task.run_create_of_error hspec] at h
    cases h
  | ok spec =>
    rw [Task.run_create hspec, shown_eq_ok_iff] at h
    obtain ⟨observed, happly, hstate⟩ := h
    exact ⟨spec, rfl, _, start, observed, happly, hstate⟩

theorem Settled.address_eq {address : Address}
    (h : Settled settings scope address spec state cloud) : state.address = address := by
  obtain ⟨_, _, _, -, rfl⟩ := h
  rfl

theorem Settled.exists_identifier {address : Address}
    (h : Settled settings scope address spec state cloud) :
    ∃ identifier, state.identifier = some identifier := by
  obtain ⟨_, _, observed, -, rfl⟩ := h
  exact ⟨observed.id, rfl⟩

/-- **An update of what is settled** for the same endpoint comes to the same state and changes
nothing, so that all is settled as before. -/
theorem Settled.update {address : Address} (h : Settled settings scope address spec state cloud)
    {identifier : String} {before : State} {desired : Resource} {respelled : Spec}
    (hupdate : updateSpec address identifier before desired = .ok respelled)
    (hnormal : respelled.normal = spec.normal) :
    ∃ done, (Task.update address identifier before desired).run (overCloud settings scope) cloud =
        (.ok (some state), done) ∧
      done.unrecorded = cloud.unrecorded ∧ Settled settings scope address spec state done := by
  obtain ⟨mode, start, observed, happly, rfl⟩ := h
  -- No time goes by in a cloud, so the operations have the same scope.
  have hscope : (overCloud settings scope).operationScope cloud =
      (overCloud settings scope).operationScope start :=
    congrArg (fun clock => scope.within clock settings.operationTimeout) (clock_of_apply happly)
  obtain ⟨done, hagain, hdone⟩ := apply_again happly
  rw [← hscope, ← apply_of_normal_eq hnormal] at hagain
  refine ⟨done, ?_, hdone, ?_⟩
  · rw [Task.run_update hupdate, shown_eq_ok_iff]
    exact ⟨observed, hagain, rfl⟩
  · rw [apply_of_normal_eq hnormal] at hagain
    exact ⟨.update, cloud, observed, hagain, rfl⟩

/-- **What is settled can be updated in place** by the identifier in its state, for the same
endpoint. -/
theorem Settled.exists_updateSpec (h : Settled settings scope resource.address spec state cloud)
    {identifier : String} (hidentifier : state.identifier = some identifier)
    (hspec : specOf resource = .ok spec) (hname : '/' ∉ spec.name.toList)
    (hrespelled : resource.Respelled other)
    (haccepted : Catalogue.endpointSchema.violations other.attributes = []) :
    ∃ respelled, updateSpec resource.address identifier state other = .ok respelled ∧
      respelled.normal = spec.normal := by
  obtain ⟨mode, start, observed, happly, rfl⟩ := h
  have hgroup : IsSegment spec.resourceGroup := isSegment_group_of_specOf hspec
  have hsegment : IsSegment spec.name := ⟨name_ne_empty_of_specOf hspec, hname⟩
  obtain ⟨privateAddress, rfl⟩ := observe_of_apply happly hgroup hsegment
  obtain rfl : endpointId spec.resourceGroup spec.name = identifier :=
    Option.some.inj hidentifier
  have hreports := State.reports_stateOf resource.address
    (endpointId spec.resourceGroup spec.name) spec.resourceGroup spec.name
    (start.storedRecord spec.resourceGroup spec.name spec.parameters) privateAddress
  exact exists_updateSpec_respelled hreports rfl rfl (parseId_endpointId hgroup hsegment) hspec
    hrespelled haccepted

/-- **Any number of updates**, one after the other, come to the settled state and leave the cloud as
it is. -/
theorem Settled.runAll_update (h : Settled settings scope resource.address spec state cloud)
    {identifier : String} (hidentifier : state.identifier = some identifier)
    (hspec : specOf resource = .ok spec) (hname : '/' ∉ spec.name.toList) {others : List Resource}
    (hothers : ∀ other ∈ others, resource.Respelled other ∧
      Catalogue.endpointSchema.violations other.attributes = []) :
    ∃ done,
      Task.runAll (overCloud settings scope)
          (others.map (.update resource.address identifier state ·)) cloud =
        (others.map fun _ => .ok (some state), done) ∧
      done.unrecorded = cloud.unrecorded := by
  induction others generalizing cloud with
  | nil => exact ⟨cloud, rfl, rfl⟩
  | cons other others ih =>
    obtain ⟨⟨hrespelled, haccepted⟩, hrest⟩ := List.forall_mem_cons.1 hothers
    obtain ⟨respelled, hupdate, hnormal⟩ :=
      h.exists_updateSpec hidentifier hspec hname hrespelled haccepted
    obtain ⟨updated, hfirst, hkept, hsettled⟩ := h.update hupdate hnormal
    obtain ⟨done, hlater, hdone⟩ := ih hsettled hrest
    refine ⟨done, ?_, hdone.trans hkept⟩
    simp only [List.map_cons, Task.runAll, bind, StateT.bind, hfirst, hlater]
    rfl

/-- **A creation can be repeated as an update.** Let the provider create a resource in a cloud,
whatever the cloud holds and however it is set, under a name without a slash. Then an update by the
identifier and the state that the creation came to, for any accepted resource that is the same but
for the spelling of its location, comes to the same state, and all endpoints and interfaces are left
as they were. -/
theorem update_created (settings : Settings) (scope : Stop.Scope) (start : Cloud)
    {resource other : Resource} {state : State}
    (hname : ∀ name, resource.attributes.lookup "name" = some (.string name) → '/' ∉ name.toList)
    (hcreate : ((Task.create resource).run (overCloud settings scope) start).1 =
      .ok (some state))
    (hrespelled : resource.Respelled other)
    (haccepted : Catalogue.endpointSchema.violations other.attributes = []) :
    let created := ((Task.create resource).run (overCloud settings scope) start).2
    ∃ identifier updated, state.identifier = some identifier ∧
      (Task.update state.address identifier state other).run (overCloud settings scope) created =
        (.ok (some state), updated) ∧
      updated.endpoints = created.endpoints ∧ updated.interfaces = created.interfaces := by
  intro created
  obtain ⟨spec, hspec, hsettled⟩ := settled_of_create (Prod.ext hcreate rfl)
  obtain ⟨identifier, hidentifier⟩ := hsettled.exists_identifier
  obtain ⟨respelled, hupdate, hnormal⟩ := hsettled.exists_updateSpec hidentifier hspec
    (hname _ (holds_of_specOf hspec).name) hrespelled haccepted
  obtain ⟨updated, hrun, hkept, -⟩ := hsettled.update hupdate hnormal
  rw [hsettled.address_eq]
  exact ⟨identifier, updated, hidentifier, hrun, holds_of_unrecorded hkept⟩

/-- An endpoint with a manual connection is created beside another one, and then updated with its
location in capitals. -/
theorem update_created_in_capitals :
    let address : Address := { type := "private_link_endpoint", name := "main" }
    let attributes (location : String) : Attributes :=
      [("location", .string location), ("name", .string "e"),
       ("private_service_connection", .list [.map
         [("is_manual_connection", .bool true), ("name", .string "c"),
          ("private_connection_resource_id", .string "r"), ("request_message", .string "hi")]]),
       ("resource_group_name", .string "g"), ("subnet_id", .string "n")]
    let resource : Resource := { address, attributes := attributes "West Europe" }
    let other : Resource := { address, attributes := attributes "WESTEUROPE" }
    let settings : Settings := { subscription := "s" }
    let start : Cloud := { endpoints := [(("g", "f"), {})] }
    let identifier := endpointId "g" "e"
    let state : State :=
      .present address identifier
        [("location", .string "westeurope"), ("name", .string "e"),
         ("network_interface_ids", .strings [interfaceId "g" "e.nic.0a1b2c"]),
         ("private_service_connection", .list [.map
           [("is_manual_connection", .bool true), ("name", .string "c"),
            ("private_connection_resource_id", .string "r"),
            ("private_ip_address", .string "10.0.0.4"),
            ("provisioning_state", .string "Succeeded"), ("request_message", .string "hi"),
            ("status", .string "Pending"), ("subresource_names", .strings [])]]),
         ("resource_group_name", .string "g"), ("subnet_id", .string "n")]
    ((Task.create resource).run (overCloud settings .background) start).1 = .ok (some state) ∧
      ∃ updated,
        (Task.update state.address identifier state other).run (overCloud settings .background)
            ((Task.create resource).run (overCloud settings .background) start).2 =
          (.ok (some state), updated) ∧
        updated.endpoints =
          ((Task.create resource).run (overCloud settings .background) start).2.endpoints ∧
        updated.interfaces =
          ((Task.create resource).run (overCloud settings .background) start).2.interfaces := by
  intro address attributes resource other settings start identifier state
  have hcreate :
      ((Task.create resource).run (overCloud settings .background) start).1 = .ok (some state) := by
    decide +kernel
  have hrespelled : resource.Respelled other := by
    refine ⟨rfl, fun name hname => ?_, fun old new hold hnew => ?_⟩
    · have hskip : ∀ location, (attributes location).lookup name = (attributes "").lookup name :=
        fun location => by simp [attributes, List.lookup_cons, beq_false_of_ne hname]
      exact (hskip "WESTEUROPE").trans (hskip "West Europe").symm
    · cases hold
      cases hnew
      decide +kernel
  have hname : ∀ name, resource.attributes.lookup "name" = some (.string name) →
      '/' ∉ name.toList := by
    intro name hname
    cases hname
    decide
  have haccepted : Catalogue.endpointSchema.violations other.attributes = [] := by decide +kernel
  obtain ⟨given, updated, hgiven, hupdated⟩ :=
    update_created settings .background start hname hcreate hrespelled haccepted
  have hidentifier : given = identifier := (Option.some.inj hgiven).symm
  rw [hidentifier] at hupdated
  exact ⟨hcreate, updated, hupdated⟩

end Provider

end PrivateLink
