import PrivateLink.Endpoint.Exchange
import PrivateLink.Proofs.Location
import PrivateLink.Proofs.Wire.RoundTrip

/-!
# What comes back of a spec

A spec that is sent to the service and read back as it was sent is not quite the spec: its location
is normal, automatic connections stand before manual ones, and a connection keeps only what is asked
for (`Spec.echo`). Nothing else is lost or changed on the way through the body of the message.

The other way round, connections that the service reports are sent again on the side that they were
reported on, each as far as it can be asked for (`sentBack`).

* `observe_parameters`: what is observed of the record of a spec;
* `observe_ofBody?_body_parameters`: the same through the body that carries the record;
* `connectionParameters_sides`: what is sent of the connections that were observed.
-/

namespace PrivateLink.Endpoint

/-- The connection as it comes back with the address: as far as it was asked for, an empty request
message counting as none. -/
def Connection.echo (address : Option String) (connection : Connection) : Connection where
  name := connection.name
  isManual := connection.isManual
  resourceId := connection.resourceId
  subresourceNames := connection.subresourceNames
  requestMessage := if connection.requestMessage = some "" then none else connection.requestMessage
  provisioningState := none
  status := none
  privateAddress := address

/-- The spec as it comes back with the address. -/
def Spec.echo (address : Option String) (spec : Spec) : Spec where
  name := spec.name
  location := Location.normalize spec.location
  resourceGroup := spec.resourceGroup
  subnetId := spec.subnetId
  connections :=
    (spec.connections.filter (!·.isManual) ++ spec.connections.filter (·.isManual)).map
      (Connection.echo address)
  tags := spec.tags

theorem nonEmpty_eq (message : Option String) :
    nonEmpty message = if message = some "" then none else message := by
  cases message with
  | none => rfl
  | some text => by_cases h : text = "" <;> simp [nonEmpty, Option.filter, h]

/-- A connection is observed as it was asked for, on the side that it was sent on. -/
theorem observeConnection_parameters (address : Option String) (connection : Connection) :
    observeConnection connection.isManual address connection.parameters =
      connection.echo address := by
  simp [observeConnection, Connection.parameters, Connection.echo, nonEmpty_eq]

/-- The records of one side give back the connections of that side in their order. -/
theorem observe_connectionParameters (manual : Bool) (address : Option String)
    (connections : List Connection) :
    (connectionParameters connections manual).map (observeConnection manual address) =
      (connections.filter (·.isManual == manual)).map (Connection.echo address) := by
  rw [connectionParameters, List.map_map]
  refine List.map_congr_left fun connection hmem => ?_
  have hside : connection.isManual = manual := by simpa using (List.mem_filter.1 hmem).2
  rw [Function.comp_apply, ← hside, observeConnection_parameters]

/-- **What is observed of the record of a spec.** -/
theorem observe_parameters (id : String) (spec : Spec) (address : Option String) :
    observe id spec.resourceGroup spec.name spec.parameters address =
      { id, spec := spec.echo address, interfaceIds := [] } := by
  have hsides : observeConnections (some (connectionParameters spec.connections false))
      (some (connectionParameters spec.connections true)) address =
        (spec.echo address).connections := by
    simp only [observeConnections, Option.getD_some, observe_connectionParameters, Spec.echo,
      List.map_append, beq_false, beq_true]
  have hlocation : Location.normalize (Location.normalize spec.location) =
      (spec.echo address).location := Location.normalize_normalize spec.location
  simp only [observe, Spec.parameters, Option.getD_some, Option.map_some, Option.bind_some,
    hsides, hlocation, interfaceIds]
  rfl

/-- **The exchange keeps a spec.** The body that carries the record of a spec is read as a record
again, and what is observed of it is the spec as it was asked for, whatever its texts hold and
however many connections it has. -/
theorem observe_ofBody?_body_parameters (id : String) (spec : Spec) (address : Option String) :
    (Wire.ofBody? (Wire.body spec.parameters)).map (fun record =>
        observe id spec.resourceGroup spec.name record address) =
      some { id, spec := spec.echo address, interfaceIds := [] } := by
  rw [Wire.ofBody?_body, Option.map_some, observe_parameters]

/-! ### Connections that were observed -/

/-- The record of a connection as it is sent again: with its name, the service that it leads to, the
groups in their order and the request message unless that is empty. A name, a service or a list of
groups that the service left out is sent as an empty one, and nothing that only the service knows is
sent. -/
def sentBack (record : Wire.Connection) : Wire.Connection where
  id := none
  name := some (record.name.getD "")
  properties := some {
    provisioningState := none
    serviceId := some ((record.properties.bind (·.serviceId)).getD "")
    groupIds := some ((record.properties.bind (·.groupIds)).getD [])
    requestMessage :=
      let message := record.properties.bind (·.requestMessage)
      if message = some "" then none else message
    state := none }

theorem connectionParameters_append (first second : List Connection) (side : Bool) :
    connectionParameters (first ++ second) side =
      connectionParameters first side ++ connectionParameters second side := by
  simp only [connectionParameters, List.filter_append, List.map_append]

@[simp]
theorem isManual_observeConnection (manual : Bool) (address : Option String)
    (record : Wire.Connection) : (observeConnection manual address record).isManual = manual := by
  unfold observeConnection
  split <;> rfl

/-- Neither the side nor the address is part of what is sent of a connection. -/
theorem parameters_observeConnection (manual : Bool) (address : Option String)
    (record : Wire.Connection) :
    (observeConnection manual address record).parameters = sentBack record := by
  cases hproperties : record.properties <;>
    simp [observeConnection, Connection.parameters, sentBack, hproperties, nonEmpty_eq]

/-- The connections that were observed on one side are all of that side, so on the other side none
of them is sent. -/
theorem connectionParameters_map_observeConnection (manual side : Bool) (address : Option String)
    (records : List Wire.Connection) :
    connectionParameters (records.map (observeConnection manual address)) side =
      if manual = side then records.map sentBack else [] := by
  have hside : (fun connection : Connection => connection.isManual == side) ∘
      observeConnection manual address = fun _ => manual == side := by
    funext record
    rw [Function.comp_apply, isManual_observeConnection]
  rw [connectionParameters, List.filter_map, List.map_map, hside]
  split
  next h =>
    rw [List.filter_eq_self.2 fun _ _ => beq_iff_eq.2 h]
    exact List.map_congr_left fun record _ => parameters_observeConnection manual address record
  next h =>
    have hnone : ∀ record ∈ records, ¬ (manual == side) = true := fun _ _ => mt eq_of_beq h
    rw [List.filter_eq_nil_iff.2 hnone, List.map_nil]

/-- **The sides of connections are kept.** Of two lists of connections that were observed, with
whatever address, the automatic ones are sent again as the automatic ones and the manual ones as the
manual ones, record by record in their order. -/
theorem connectionParameters_sides (automatic manual : Option (List Wire.Connection))
    (address : Option String) :
    connectionParameters (observeConnections automatic manual address) false =
        (automatic.getD []).map sentBack ∧
      connectionParameters (observeConnections automatic manual address) true =
        (manual.getD []).map sentBack := by
  unfold observeConnections
  simp only [connectionParameters_append, connectionParameters_map_observeConnection]
  exact ⟨List.append_nil _, List.nil_append _⟩

end PrivateLink.Endpoint
