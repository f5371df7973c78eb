import PrivateLink.Proofs.Endpoint.Parameters
import PrivateLink.Proofs.Provider.Guard
import PrivateLink.Proofs.Provider.States

/-!
# Changes in place

A resource is changed by the state that was read under its identifier. The state holds the name and
the location that the service reported and the resource group of the identifier, and the change is
refused if the desired resource differs from it in one of these. Since a normal form is its own
normal form, a location that was normalized when it was read is compared as if it had not been. So
nothing that is sent moves or renames the endpoint, and an endpoint without a location gets none.

* `told_read_found`: what a state that was found has to do with the record that was fetched;
* `update_in_place`: where a change of it goes.
-/

namespace PrivateLink

open Network

namespace Endpoint

variable {id : String} {made : List Answered} {observed : Observed}

/-- What was observed is what the record says that the first call fetched. -/
theorem Reads.exists_record (h : Reads id made (.ok (some observed))) :
    ∃ group name record address, parseId id = .ok (group, name) ∧
      made.head? = some (.getEndpoint group name (.ok record)) ∧
      observed = observe id group name record address := by
  cases h with
  | detached hid | attached hid => exact ⟨_, _, _, _, hid, rfl, rfl⟩

end Endpoint

open Endpoint

/-- The state holds what the record says of name and location and what the identifier says of the
resource group; a name that the record leaves out is that of the identifier, and a location that it
leaves out is empty. -/
structure State.Reports (state : State) (group name : String) (record : Wire.Endpoint) : Prop where
  name : state.attributes.lookup "name" = some (.string (record.name.getD name))
  location : state.attributes.lookup "location" =
    some (.string ((record.location.map Location.normalize).getD ""))
  resourceGroup : state.attributes.lookup "resource_group_name" = some (.string group)

theorem State.reports_stateOf (address : Address) (id group name : String) (record : Wire.Endpoint)
    (privateAddress : Option String) :
    (Provider.stateOf address (observe id group name record privateAddress)).Reports group name
      record := by
  have hholds := (observe id group name record privateAddress).holds
  exact ⟨hholds.name, hholds.location, hholds.resourceGroup⟩

namespace Provider

variable {σ : Type} {address : Address} {identifier : String} {before : State}
  {desired : Resource} {spec : Spec} {made : List Answered} {answer : Answer}

/-- A state that was found reports the record that the first call fetched, for the resource group
and the name in the identifier. -/
theorem told_read_found (provider : Provider σ) (address : Address) (identifier : String) :
    Told ((Task.read address (some identifier)).run provider)
      ((Task.read address (some identifier)).run provider.recorded) fun made answer =>
        ∀ before, answer = .ok (some before) → before.found = true →
          ∃ group name record, parseId identifier = .ok (group, name) ∧
            made.head? = some (.getEndpoint group name (.ok record)) ∧
            before.Reports group name record := by
  cases htype : resourceType address with
  | error error => exact told_pure (Task.run_read_of_error htype) nofun
  | ok found =>
    rw [Task.run_read htype, Task.run_read htype]
    refine told_run (fun scope => told_read provider.client scope identifier) ?_
    intro made result hwork before hbefore hfound
    rcases result with fault | _ | observed
    · cases hbefore
    · cases hbefore
      cases hfound
    · cases hbefore
      obtain ⟨group, name, record, privateAddress, hid, hfetched, rfl⟩ := hwork.exists_record
      exact ⟨group, name, record, hid, hfetched, State.reports_stateOf ..⟩

/-- **An update keeps what was reported**: the name that was reported is the desired one and that in
the identifier, the resource group in the identifier is the desired one but for the case of plain
letters, and a location was reported, with the same normal form as the desired one. -/
theorem kept_of_updateSpec {group name : String} {record : Wire.Endpoint}
    (hreports : before.Reports group name record) (hid : parseId identifier = .ok (group, name))
    (h : updateSpec address identifier before desired = .ok spec) :
    spec.name = name ∧ record.name.getD name = name ∧
      Text.equalIgnoringCase group spec.resourceGroup = true ∧
      ∃ location, record.location = some location ∧
        Location.normalize spec.location = Location.normalize location := by
  obtain ⟨hspec, -, hunchanged, written, hwritten, hgroup⟩ := updateSpec_eq_ok_iff.1 h
  obtain ⟨hsameName, hsameLocation, -⟩ := replacements_comparable_eq_nil_iff.1 hunchanged
  have hholds : spec.Holds desired.attributes := holds_of_specOf hspec
  have hkey : (written, spec.name) = (group, name) := Except.ok.inj (hwritten.symm.trans hid)
  obtain ⟨rfl, hname⟩ := Prod.mk.inj hkey
  have hreported : record.name.getD name = spec.name :=
    Value.string.inj (hsameName _ _ hreports.name hholds.name)
  have hnormal : Location.normalize ((record.location.map Location.normalize).getD "") =
      Location.normalize spec.location :=
    Value.string.inj (hsameLocation _ _ hreports.location hholds.location)
  refine ⟨hname, hreported.trans hname, hgroup, ?_⟩
  cases hlocation : record.location with
  | none =>
    -- Without a location the state has an empty one, but the desired one is not blank.
    rw [hlocation] at hnormal
    have hgiven := Location.normalize_ne_empty (isDesired_of_specOf hspec).location
    exact absurd hnormal.symm hgiven
  | some location =>
    rw [hlocation, Option.map_some, Option.getD_some, Location.normalize_normalize] at hnormal
    exact ⟨location, rfl, hnormal.symm⟩

/-- What a task sends that was not refused is the endpoint that was asked for. -/
theorem Endeavours.sent_of_mem {asked : Except Error Spec} {mode : Mode}
    (h : Endeavours asked mode address made answer) {group name : String}
    {parameters : Wire.Endpoint} {sent : Except Failure Operation}
    (hmem : .beginPut group name parameters sent ∈ made) :
    ∃ spec, asked = .ok spec ∧ group = spec.resourceGroup ∧ name = spec.name ∧
      parameters = spec.parameters := by
  cases h with
  | refused => cases hmem
  | applied hasked hwork => exact ⟨_, hasked, (hwork.sent_of_mem hmem).2⟩

theorem Endeavours.error_of_forall_ne {asked : Except Error Spec} {mode : Mode}
    (h : Endeavours asked mode address made answer) (hasked : ∀ spec, asked ≠ .ok spec) :
    made = [] ∧ ∃ error, answer = .error error := by
  cases h with
  | refused => exact ⟨rfl, _, rfl⟩
  | applied hspec => exact absurd hspec (hasked _)

/-- **Changes in place**: let a state be found when the resource is read under an identifier, over
any client. Then the first call of that reading fetched the record of the endpoint which the
identifier means, and whatever is desired later, over the same client in any state, what an update
by the state and the identifier sends goes to the name in the identifier, which is also the name in
the state, to the resource group in the identifier but for the case of plain letters, and with the
normal form of the location that the record gave. If the record gave no location, the update is
refused without a call. -/
theorem update_in_place (provider : Provider σ) (address : Address) (identifier : String)
    (start : σ) {before : State}
    (hread : ((Task.read address (some identifier)).run provider start).1 = .ok (some before))
    (hfound : before.found = true) :
    ∃ group name record read,
      ((Task.read address (some identifier)).run provider.recorded (start, [])).2.2 =
        .getEndpoint group name (.ok record) :: read ∧
      parseId identifier = .ok (group, name) ∧
      ∀ (other : Address) (desired : Resource) (state : σ) (earlier : List Answered), ∃ made,
        (Task.update other identifier before desired).run provider.recorded (state, earlier) =
          (((Task.update other identifier before desired).run provider state).1,
            ((Task.update other identifier before desired).run provider state).2,
            earlier ++ made) ∧
        (∀ sentGroup sentName parameters sent,
          .beginPut sentGroup sentName parameters sent ∈ made →
            sentName = name ∧ before.attributes.lookup "name" = some (.string name) ∧
            Text.equalIgnoringCase group sentGroup = true ∧
            ∃ location, record.location = some location ∧
              parameters.location = some (Location.normalize location)) ∧
        (record.location = none → made = [] ∧
          ∃ error, ((Task.update other identifier before desired).run provider state).1 =
            .error error) := by
  obtain ⟨fetched, hfetched, hstory⟩ := told_read_found provider address identifier start []
  obtain ⟨group, name, record, hid, hhead, hreports⟩ := hstory before hread hfound
  obtain ⟨read, rfl⟩ := List.head?_eq_some_iff.1 hhead
  refine ⟨group, name, record, read, by rw [hfetched]; rfl, hid, ?_⟩
  intro other desired state earlier
  obtain ⟨made, hmade, htold⟩ := told_update provider other identifier before desired state earlier
  refine ⟨made, hmade, ?_, ?_⟩
  · intro sentGroup sentName parameters sent hmem
    obtain ⟨spec, hspec, rfl, rfl, rfl⟩ := htold.sent_of_mem hmem
    obtain ⟨hname, hreported, hgroup, location, hlocation, hnormal⟩ :=
      kept_of_updateSpec hreports hid hspec
    have hlookup := hreports.name
    rw [hreported] at hlookup
    exact ⟨hname, hlookup, hgroup, location, hlocation, congrArg some hnormal⟩
  · intro hnone
    refine htold.error_of_forall_ne fun spec hspec => ?_
    obtain ⟨-, -, -, location, hlocation, -⟩ := kept_of_updateSpec hreports hid hspec
    cases hnone.symm.trans hlocation

/-- An endpoint without a name in its record is read by an identifier with its group in small
letters, and is changed by one of the same group in capitals and the location spelled anew. -/
theorem update_respelled_in_place :
    let address : Address := { type := "private_link_endpoint", name := "main" }
    let identifier := "/subscriptions/s/resourceGroups/g/privateEndpoints/e"
    let provider : Provider Script :=
      { client := Script.client, settings := { subscription := "s", importProtection := false } }
    let start : Script := { replies := [{ endpoint := some { location := some "West Europe" } }] }
    let before : State :=
      .present address identifier
        [("location", .string "westeurope"), ("name", .string "e"),
         ("network_interface_ids", .strings []), ("private_service_connection", .list []),
         ("resource_group_name", .string "g"), ("subnet_id", .string "")]
    let desired : Resource :=
      { address
        attributes :=
          [("location", .string "WEST europe"), ("name", .string "e"),
           ("resource_group_name", .string "G"), ("subnet_id", .string "n")] }
    let task : Task := .update address identifier before desired
    let later : Script := { replies := [{ operation := some .completed }] }
    let parameters : Wire.Endpoint :=
      { location := some "westeurope"
        tags := some {}
        properties := some
          { subnet := some { id := some "n" }
            automaticConnections := some []
            manualConnections := some [] } }
    ((Task.read address (some identifier)).run provider start).1 = .ok (some before) ∧
      before.found = true ∧
      (task.run provider.recorded (later, [])).2.2.map Answered.request =
        [.beginPut "G" "e" parameters, .wait .completed] ∧
      ∃ group location, parseId identifier = .ok (group, "e") ∧
        Text.equalIgnoringCase group "G" = true ∧
        parameters.location = some (Location.normalize location) := by
  intro address identifier provider start before desired task later parameters
  have hread : ((Task.read address (some identifier)).run provider start).1 =
      .ok (some before) := by
    decide +kernel
  have hcalls : (task.run provider.recorded (later, [])).2.2.map Answered.request =
      [.beginPut "G" "e" parameters, .wait .completed] := by
    decide +kernel
  refine ⟨hread, rfl, hcalls, ?_⟩
  obtain ⟨group, name, record, read, -, hid, hlater⟩ :=
    update_in_place provider address identifier start hread rfl
  obtain ⟨made, hmade, hsent, -⟩ := hlater address desired later []
  rw [hmade] at hcalls
  obtain ⟨call, hcall, hrequest⟩ := List.mem_map.1 (hcalls ▸ List.mem_cons_self)
  cases call <;> cases hrequest
  obtain ⟨rfl, -, hgroup, location, -, hlocation⟩ := hsent _ _ _ _ hcall
  exact ⟨group, location, hid, hgroup, hlocation⟩

end Provider

end PrivateLink
