import PrivateLink.Endpoint.Spec
import PrivateLink.Text.LowerCase
import PrivateLink.Wire.Endpoint

/-!
# Exchange with the service

`Spec.parameters` is the record that is sent to bring an endpoint about; `observe` reads a record
that was received. Automatic connections travel apart from manual ones.

The service writes a location such as `West Europe` in several ways. Two spellings name the same
location when they have the same normal form, which has no plain spaces and no capitals.
`Location.normalize` gives it to what is sent as well as to what is received.
-/

namespace PrivateLink

/-! ### Locations -/

namespace Location

/-- The characters of the normal form. -/
def normalizeChars (chars : List Char) : List Char :=
  Text.lowerEach (chars.filter (· ≠ ' '))

/-- The normal form of a location. -/
def normalize (location : String) : String :=
  String.ofList (normalizeChars location.toList)

theorem normalizeChars_append (a b : List Char) :
    normalizeChars (a ++ b) = normalizeChars a ++ normalizeChars b := by
  simp [normalizeChars, Text.lowerEach_append]

end Location

namespace Endpoint

/-! ### What is sent -/

/-- The record of a connection. -/
def Connection.parameters (connection : Connection) : Wire.Connection where
  name := some connection.name
  properties := some {
    serviceId := some connection.resourceId
    groupIds := some connection.subresourceNames
    requestMessage := nonEmpty connection.requestMessage }

/-- The records of the connections that are manual, or of those that are not. -/
def connectionParameters (connections : List Connection) (manual : Bool) : List Wire.Connection :=
  (connections.filter (·.isManual == manual)).map Connection.parameters

/-- The record that brings the endpoint about. -/
def Spec.parameters (spec : Spec) : Wire.Endpoint where
  location := some (Location.normalize spec.location)
  tags := some spec.tags
  properties := some {
    subnet := some { id := some spec.subnetId }
    automaticConnections := some (connectionParameters spec.connections false)
    manualConnections := some (connectionParameters spec.connections true) }

/-! ### What is received -/

/-- The connection that a record describes. -/
def observeConnection (manual : Bool) (address : Option String) (record : Wire.Connection) :
    Connection :=
  match record.properties with
  | none => { name := record.name.getD "", isManual := manual, privateAddress := address }
  | some properties =>
    { name := record.name.getD ""
      isManual := manual
      resourceId := properties.serviceId.getD ""
      subresourceNames := properties.groupIds.getD []
      requestMessage := properties.requestMessage
      provisioningState := nonEmpty properties.provisioningState
      status := properties.state.bind (·.status)
      privateAddress := address }

/-- The connections that two lists of records describe, automatic ones before manual ones, each with
the same private address. -/
def observeConnections (automatic manual : Option (List Wire.Connection))
    (address : Option String) : List Connection :=
  (automatic.getD []).map (observeConnection false address) ++
    (manual.getD []).map (observeConnection true address)

/-- The identifiers of the interfaces that have one, in their order. -/
def interfaceIds (interfaces : Option (List Wire.Interface)) : List String :=
  (interfaces.getD []).filterMap (·.id)

/-- The endpoint that a record describes. The name that the service reports counts before the one by
which the endpoint was asked for. -/
def observe (id group name : String) (record : Wire.Endpoint) (address : Option String) :
    Observed where
  id
  spec := {
    name := record.name.getD name
    location := (record.location.map Location.normalize).getD ""
    resourceGroup := group
    subnetId := ((record.properties.bind (·.subnet)).bind (·.id)).getD ""
    connections :=
      match record.properties with
      | some properties =>
        observeConnections properties.automaticConnections properties.manualConnections address
      | none => []
    tags := record.tags.getD {} }
  interfaceIds := interfaceIds (record.properties.bind (·.interfaces))

end Endpoint

end PrivateLink
