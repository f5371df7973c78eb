import PrivateLink.Proofs.Endpoint.Application
import PrivateLink.Proofs.Endpoint.Description
import PrivateLink.Proofs.Location

/-!
# What is sent

The record of an endpoint that can be asked for, with settings that agree, asks for the endpoint and
sets nothing that only the service knows: `Wire.Endpoint.Asks`. Creating and changing endpoints
sends no other record.

* `Spec.asks_parameters`: the record of an endpoint asks for it;
* `Applies.sent_of_mem`: an application sends this record, and only if the settings agree.
-/

namespace PrivateLink

namespace Wire

open Catalogue

/-- The text is there, and not blank. -/
def IsGiven (text : Option String) : Prop :=
  ∃ given, text = some given ∧ Text.isBlankText given = false

/-- The message that goes with a connection: a manual one needs one, an automatic one has none. -/
def AsksWith (manual : Bool) (message : Option String) : Prop :=
  if manual then ∃ text, message = some text ∧ IsMessage text else message = none

/-- What a record says that asks for a connection, of its properties. -/
structure ConnectionProperties.Asks (manual : Bool) (record : ConnectionProperties) : Prop where
  serviceId : IsGiven record.serviceId
  groupIds : ∃ names, record.groupIds = some names ∧ ∀ name ∈ names, Text.isBlankText name = false
  requestMessage : AsksWith manual record.requestMessage
  provisioningState : record.provisioningState = none
  state : record.state = none

/-- What a record says that asks for a connection. -/
structure Connection.Asks (manual : Bool) (record : Connection) : Prop where
  id : record.id = none
  name : IsGiven record.name
  properties : ∃ properties, record.properties = some properties ∧ properties.Asks manual

/-- What a record says that asks for an endpoint, of its properties. -/
structure EndpointProperties.Asks (record : EndpointProperties) : Prop where
  subnet : ∃ subnet, record.subnet = some subnet ∧ IsGiven subnet.id
  connections : ∃ automatic manual,
    record.automaticConnections = some automatic ∧ record.manualConnections = some manual ∧
      automatic.length + manual.length ≤ 1 ∧
      (∀ connection ∈ automatic, connection.Asks false) ∧
      ∀ connection ∈ manual, connection.Asks true
  interfaces : record.interfaces = none
  provisioningState : record.provisioningState = none

/-- What a record says that asks for an endpoint. -/
structure Endpoint.Asks (record : Endpoint) : Prop where
  location : ∃ location, record.location = some location ∧ location ≠ "" ∧
    ' ' ∉ location.toList ∧ Location.normalize location = location
  tags : ∃ tags, record.tags = some tags ∧ AreTags tags.entries
  properties : ∃ properties, record.properties = some properties ∧ properties.Asks
  id : record.id = none
  name : record.name = none
  type : record.type = none
  etag : record.etag = none

end Wire

/-! ### Locations -/

namespace Location

theorem normalize_ne_empty {location : String} (h : Text.isBlankText location = false) :
    normalize location ≠ "" := by
  intro hempty
  have hblank : Text.isBlankText location = true := by
    rw [← isBlankText_normalize, hempty]
    rfl
  exact Bool.false_ne_true (h.symm.trans hblank)

end Location

namespace Endpoint

open Catalogue Network

variable {spec : Spec} {connection : Connection} {connections : List Connection}

/-! ### Connections -/

/-- Settings agree when just the manual connection has a message. -/
theorem Connection.checkAgreement_eq_ok_iff :
    connection.checkAgreement = .ok () ↔ connection.hasMessage = connection.isManual := by
  rw [Connection.checkAgreement]
  cases connection.isManual <;> cases connection.hasMessage <;> simp

theorem Spec.checkAgreement_eq_ok_iff :
    spec.checkAgreement = .ok () ↔
      ∀ connection ∈ spec.connections, connection.hasMessage = connection.isManual := by
  simp only [Spec.checkAgreement, forM_eq_ok_iff, Connection.checkAgreement_eq_ok_iff]

theorem Connection.asksWith (hdesired : connection.IsDesired)
    (hagree : connection.hasMessage = connection.isManual) :
    Wire.AsksWith connection.isManual (nonEmpty connection.requestMessage) := by
  rw [nonEmpty_of_isMessage hdesired.requestMessage, ← hagree, Connection.hasMessage, Wire.AsksWith]
  cases hmessage : connection.requestMessage with
  | none => rfl
  | some text =>
    have htext := hdesired.requestMessage text hmessage
    simpa [htext.ne_empty] using htext

/-- The record of a connection asks for it. -/
theorem Connection.asks_parameters (hdesired : connection.IsDesired)
    (hagree : connection.hasMessage = connection.isManual) :
    connection.parameters.Asks connection.isManual where
  id := rfl
  name := ⟨_, rfl, hdesired.name⟩
  properties := ⟨_, rfl,
    { serviceId := ⟨_, rfl, hdesired.resourceId⟩
      groupIds := ⟨_, rfl, hdesired.subresourceNames⟩
      requestMessage := Connection.asksWith hdesired hagree
      provisioningState := rfl
      state := rfl }⟩

/-- The records on one side ask for connections of that side. -/
theorem asks_of_mem_connectionParameters {manual : Bool} {record : Wire.Connection}
    (hdesired : ∀ connection ∈ connections, connection.IsDesired)
    (hagree : ∀ connection ∈ connections, connection.hasMessage = connection.isManual)
    (h : record ∈ connectionParameters connections manual) : record.Asks manual := by
  obtain ⟨connection, hmem, rfl⟩ := List.mem_map.1 h
  obtain ⟨hconnection, hside⟩ := List.mem_filter.1 hmem
  rw [← eq_of_beq hside]
  exact Connection.asks_parameters (hdesired _ hconnection) (hagree _ hconnection)

/-- No connection is sent on both sides or on neither. -/
theorem length_connectionParameters (connections : List Connection) :
    (connectionParameters connections false).length +
      (connectionParameters connections true).length = connections.length := by
  rw [List.length_eq_length_filter_add (fun connection : Connection => connection.isManual),
    connectionParameters, connectionParameters, List.length_map, List.length_map, Nat.add_comm]
  simp only [beq_true, beq_false]

/-! ### Endpoints -/

/-- **The record of an endpoint asks for it.** -/
theorem Spec.asks_parameters (hdesired : spec.IsDesired) (hagree : spec.checkAgreement = .ok ()) :
    spec.parameters.Asks where
  location := ⟨_, rfl, Location.normalize_ne_empty hdesired.location,
    Location.space_notMem_normalize _, Location.normalize_normalize _⟩
  tags := ⟨_, rfl, hdesired.tags⟩
  properties := ⟨_, rfl,
    { subnet := ⟨_, rfl, _, rfl, hdesired.subnetId⟩
      connections := by
        have hagrees := Spec.checkAgreement_eq_ok_iff.1 hagree
        refine ⟨_, _, rfl, rfl, ?_, fun _ => ?_, fun _ => ?_⟩
        · exact (length_connectionParameters _).trans_le hdesired.fewConnections
        · exact asks_of_mem_connectionParameters hdesired.connections hagrees
        · exact asks_of_mem_connectionParameters hdesired.connections hagrees
      interfaces := rfl
      provisioningState := rfl }⟩
  id := rfl
  name := rfl
  type := rfl
  etag := rfl

/-- What is sent by an application is the record of the endpoint, whose settings agree, under its
own resource group and name. -/
theorem Applies.sent_of_mem {mode : Mode} {made : List Answered}
    {result : Except Fault Observed} (h : Applies spec mode made result) {group name : String}
    {parameters : Wire.Endpoint} {answer : Except Failure Operation}
    (hmem : .beginPut group name parameters answer ∈ made) :
    spec.checkAgreement = .ok () ∧ group = spec.resourceGroup ∧ name = spec.name ∧
      parameters = spec.parameters := by
  cases h with
  | disagreeing => cases hmem
  | kept _ hcheck => cases hcheck <;> simp at hmem
  | taken hagree hcheck htake =>
    refine ⟨hagree, ?_⟩
    -- The check beforehand sends nothing, and after it the endpoint is the one thing sent.
    obtain hchecked | htaken := List.mem_append.1 hmem
    · cases hcheck <;> simp at hchecked
    · obtain ⟨_, _, _, _, hchained⟩ := htake.chained
      have hcall := hchained.calls.subset (List.mem_map_of_mem htaken)
      simp only [Spec.calls, Answered.request, List.mem_cons, Request.beginPut.injEq, reduceCtorEq,
        List.not_mem_nil, or_false] at hcall
      exact hcall

end Endpoint

end PrivateLink
