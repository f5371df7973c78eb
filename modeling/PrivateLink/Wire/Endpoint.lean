import PrivateLink.Wire.Format

/-!
# Records of private endpoints

The records by which the service describes private endpoints and network interfaces. Every field may
be absent, and an absent field is left out when the record is written.
-/

namespace PrivateLink.Wire

/-! ### Interfaces -/

/-- The address of an interface. -/
structure AddressProperties where
  privateAddress : Option String := none
  allocationMethod : Option String := none
  primary : Option Bool := none
deriving DecidableEq, Repr

/-- The configuration of an address of an interface. -/
structure AddressConfiguration where
  id : Option String := none
  name : Option String := none
  properties : Option AddressProperties := none
deriving DecidableEq, Repr

/-- The state of an interface. -/
structure InterfaceProperties where
  addressConfigurations : Option (List AddressConfiguration) := none
  provisioningState : Option String := none
deriving DecidableEq, Repr

/-- A network interface. -/
structure Interface where
  id : Option String := none
  name : Option String := none
  location : Option String := none
  properties : Option InterfaceProperties := none
deriving DecidableEq, Repr

/-- The private address of the first address configuration, if it has one. -/
def Interface.firstAddress? (interface : Interface) : Option String := do
  let properties ← interface.properties
  let configurations ← properties.addressConfigurations
  let first ← configurations.head?
  let address ← first.properties
  address.privateAddress

/-! ### Endpoints -/

/-- A resource that is named by its identifier alone. -/
structure Reference where
  id : Option String := none
deriving DecidableEq, Repr

/-- How the owner of a service has answered a connection. -/
structure ConnectionState where
  status : Option String := none
  description : Option String := none
  actionsRequired : Option String := none
deriving DecidableEq, Repr

/-- What a connection leads to. -/
structure ConnectionProperties where
  provisioningState : Option String := none
  serviceId : Option String := none
  groupIds : Option (List String) := none
  requestMessage : Option String := none
  state : Option ConnectionState := none
deriving DecidableEq, Repr

/-- A connection of an endpoint to a service. -/
structure Connection where
  id : Option String := none
  name : Option String := none
  properties : Option ConnectionProperties := none
deriving DecidableEq, Repr

/-- The subnet, the interfaces and the connections of an endpoint. -/
structure EndpointProperties where
  subnet : Option Reference := none
  interfaces : Option (List Interface) := none
  provisioningState : Option String := none
  /-- Connections that are approved without further action. -/
  automaticConnections : Option (List Connection) := none
  /-- Connections that wait for the owner of the service. -/
  manualConnections : Option (List Connection) := none
deriving DecidableEq, Repr

/-- A private endpoint. -/
structure Endpoint where
  id : Option String := none
  name : Option String := none
  type : Option String := none
  etag : Option String := none
  location : Option String := none
  tags : Option (Dictionary String) := none
  properties : Option EndpointProperties := none
deriving DecidableEq

instance : Inhabited Endpoint := ⟨{}⟩

/-! ### Errors and operations -/

/-- What the service says about an error. -/
structure ErrorDetail where
  code : Option String := none
  message : Option String := none
deriving DecidableEq, Repr

/-- The body of an answer that is no success. -/
structure ErrorBody where
  error : Option ErrorDetail := none
deriving DecidableEq, Repr

/-- What a status monitor says about an operation. -/
structure OperationStatus where
  status : Option String := none
  error : Option ErrorDetail := none
deriving DecidableEq, Repr

/-! ### Formats -/

instance : Format AddressProperties where
  encode record := .ofPresent
    [present "privateIPAddress" record.privateAddress,
     present "privateIPAllocationMethod" record.allocationMethod,
     present "primary" record.primary]
  decode? json := do
    let [privateAddress, allocationMethod, primary] ←
      json.fields? ["privateIPAddress", "privateIPAllocationMethod", "primary"] | none
    return {
      privateAddress := ← field? privateAddress
      allocationMethod := ← field? allocationMethod
      primary := ← field? primary }

instance : Format AddressConfiguration where
  encode record := .ofPresent
    [present "id" record.id, present "name" record.name, present "properties" record.properties]
  decode? json := do
    let [id, name, properties] ← json.fields? ["id", "name", "properties"] | none
    return { id := ← field? id, name := ← field? name, properties := ← field? properties }

instance : Format InterfaceProperties where
  encode record := .ofPresent
    [present "ipConfigurations" record.addressConfigurations,
     present "provisioningState" record.provisioningState]
  decode? json := do
    let [configurations, state] ← json.fields? ["ipConfigurations", "provisioningState"] | none
    return { addressConfigurations := ← field? configurations, provisioningState := ← field? state }

instance : Format Interface where
  encode record := .ofPresent
    [present "id" record.id, present "name" record.name, present "location" record.location,
     present "properties" record.properties]
  decode? json := do
    let [id, name, location, properties] ←
      json.fields? ["id", "name", "location", "properties"] | none
    return {
      id := ← field? id
      name := ← field? name
      location := ← field? location
      properties := ← field? properties }

instance : Format Reference where
  encode record := .ofPresent [present "id" record.id]
  decode? json := do
    let [id] ← json.fields? ["id"] | none
    return { id := ← field? id }

instance : Format ConnectionState where
  encode record := .ofPresent
    [present "status" record.status, present "description" record.description,
     present "actionsRequired" record.actionsRequired]
  decode? json := do
    let [status, description, actionsRequired] ←
      json.fields? ["status", "description", "actionsRequired"] | none
    return {
      status := ← field? status
      description := ← field? description
      actionsRequired := ← field? actionsRequired }

instance : Format ConnectionProperties where
  encode record := .ofPresent
    [present "provisioningState" record.provisioningState,
     present "privateLinkServiceId" record.serviceId,
     present "groupIds" record.groupIds,
     present "requestMessage" record.requestMessage,
     present "privateLinkServiceConnectionState" record.state]
  decode? json := do
    let [provisioningState, serviceId, groupIds, requestMessage, state] ←
      json.fields?
        ["provisioningState", "privateLinkServiceId", "groupIds", "requestMessage",
         "privateLinkServiceConnectionState"] | none
    return {
      provisioningState := ← field? provisioningState
      serviceId := ← field? serviceId
      groupIds := ← field? groupIds
      requestMessage := ← field? requestMessage
      state := ← field? state }

instance : Format Connection where
  encode record := .ofPresent
    [present "id" record.id, present "name" record.name, present "properties" record.properties]
  decode? json := do
    let [id, name, properties] ← json.fields? ["id", "name", "properties"] | none
    return { id := ← field? id, name := ← field? name, properties := ← field? properties }

instance : Format EndpointProperties where
  encode record := .ofPresent
    [present "subnet" record.subnet,
     present "networkInterfaces" record.interfaces,
     present "provisioningState" record.provisioningState,
     present "privateLinkServiceConnections" record.automaticConnections,
     present "manualPrivateLinkServiceConnections" record.manualConnections]
  decode? json := do
    let [subnet, interfaces, provisioningState, automatic, manual] ←
      json.fields?
        ["subnet", "networkInterfaces", "provisioningState", "privateLinkServiceConnections",
         "manualPrivateLinkServiceConnections"] | none
    return {
      subnet := ← field? subnet
      interfaces := ← field? interfaces
      provisioningState := ← field? provisioningState
      automaticConnections := ← field? automatic
      manualConnections := ← field? manual }

instance : Format Endpoint where
  encode record := .ofPresent
    [present "id" record.id, present "name" record.name, present "type" record.type,
     present "etag" record.etag, present "location" record.location, present "tags" record.tags,
     present "properties" record.properties]
  decode? json := do
    let [id, name, type, etag, location, tags, properties] ←
      json.fields? ["id", "name", "type", "etag", "location", "tags", "properties"] | none
    return {
      id := ← field? id
      name := ← field? name
      type := ← field? type
      etag := ← field? etag
      location := ← field? location
      tags := ← field? tags
      properties := ← field? properties }

instance : Format ErrorDetail where
  encode record := .ofPresent [present "code" record.code, present "message" record.message]
  decode? json := do
    let [code, message] ← json.fields? ["code", "message"] | none
    return { code := ← field? code, message := ← field? message }

instance : Format ErrorBody where
  encode record := .ofPresent [present "error" record.error]
  decode? json := do
    let [error] ← json.fields? ["error"] | none
    return { error := ← field? error }

instance : Format OperationStatus where
  encode record := .ofPresent [present "status" record.status, present "error" record.error]
  decode? json := do
    let [status, error] ← json.fields? ["status", "error"] | none
    return { status := ← field? status, error := ← field? error }

end PrivateLink.Wire
