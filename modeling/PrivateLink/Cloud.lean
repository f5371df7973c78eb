import PrivateLink.Network.Client

/-!
# A cloud in memory

A cloud keeps endpoints and interfaces under their resource group and name, fills in what the
service computes, and records every call. Calls can be made to fail. It answers at once, so its
clock moves only when someone moves it.
-/

namespace PrivateLink

open Network

namespace Cloud

/-- Things under their resource group and name, one for each. -/
abbrev Shelf (α : Type) := List ((String × String) × α)

namespace Shelf

variable {α : Type}

/-- What lies under a resource group and name. -/
def get? (shelf : Shelf α) (group name : String) : Option α :=
  shelf.lookup (group, name)

/-- The shelf with `value` in place of what lay under the resource group and name. -/
def put (group name : String) (value : α) : Shelf α → Shelf α
  | [] => [((group, name), value)]
  | entry :: rest =>
    if entry.1 = (group, name) then ((group, name), value) :: rest
    else entry :: put group name value rest

/-- The shelf without what lay under the resource group and name. -/
def erase (shelf : Shelf α) (group name : String) : Shelf α :=
  shelf.filter fun entry => entry.1 ≠ (group, name)

end Shelf

/-- A failure that a cloud is told to show. -/
inductive Injected where
  | notFound
  | operationFailed (message : String)
  | refused (status : Nat) (message : String)
deriving DecidableEq, Repr

/-- The failure that callers see. -/
def Injected.failure : Injected → Failure
  | .notFound => .notFound "mock resource not found"
  | .operationFailed message => .operationFailed "Failed" (some "MockFailure") (some message)
  | .refused status message => .refused status (some "MockError") message

/-- The subscription in which all resources of a cloud lie. -/
def subscription : String := "00000000-0000-0000-0000-000000000000"

/-- The identifier of a resource of the network service. -/
def resourceId (group kind name : String) : String :=
  "/subscriptions/" ++ subscription ++ "/resourceGroups/" ++ group ++
    "/providers/Microsoft.Network/" ++ kind ++ "/" ++ name

/-- The identifier of an endpoint. -/
def endpointId (group name : String) : String :=
  resourceId group "privateEndpoints" name

/-- The identifier of an interface. -/
def interfaceId (group name : String) : String :=
  resourceId group "networkInterfaces" name

/-- An interface with the given private addresses. -/
def interfaceWith (id : String) (addresses : List String) : Wire.Interface where
  id := some id
  properties := some {
    addressConfigurations := some <|
      addresses.map fun address => { properties := some { privateAddress := some address } } }

/-- The name of the interface that is attached to an endpoint. -/
def attachedName (endpoint : String) : String :=
  endpoint ++ ".nic.0a1b2c"

/-- The addresses of an interface that is attached to an endpoint. -/
def attachedAddresses : List String := ["10.0.0.4", "10.0.0.5"]

/-- The connection as the service keeps it. -/
def provisionConnection (status : String) (connection : Wire.Connection) : Wire.Connection :=
  { connection with
    properties := some
      { connection.properties.getD {} with
        provisioningState := some "Succeeded"
        state := some { status := some status } } }

/-- The endpoint as the service keeps it. -/
def provision (group name : String) (emptyId : Bool) (interface : Option String)
    (endpoint : Wire.Endpoint) : Wire.Endpoint :=
  let properties := endpoint.properties.getD {}
  { endpoint with
    id := some (if emptyId then "" else endpointId group name)
    name := some name
    type := some "Microsoft.Network/privateEndpoints"
    properties := some
      { properties with
        provisioningState := some "Succeeded"
        interfaces := interface.map fun id => [{ id := some id }]
        automaticConnections :=
          properties.automaticConnections.map (·.map (provisionConnection "Approved"))
        manualConnections :=
          properties.manualConnections.map (·.map (provisionConnection "Pending")) } }

end Cloud

/-- A cloud in memory. -/
structure Cloud where
  clock : Clock := {}
  endpoints : Cloud.Shelf Wire.Endpoint := []
  interfaces : Cloud.Shelf Wire.Interface := []
  /-- The calls that were made, the first one first. -/
  calls : List String := []
  failGet : Option Cloud.Injected := none
  failBegin : Option Cloud.Injected := none
  failWait : Option Cloud.Injected := none
  failInterface : Option Cloud.Injected := none
  /-- Endpoints get an interface when they are put. -/
  attachInterfaces : Bool := true
  /-- Endpoints get an empty identifier when they are put. -/
  emptyIds : Bool := false

namespace Cloud

/-- The cloud with one more call on record. -/
def record (cloud : Cloud) (call : String) : Cloud :=
  { cloud with calls := cloud.calls ++ [call] }

/-- How a call on an endpoint or interface is recorded. -/
def callText (verb group name : String) : String :=
  verb ++ " " ++ group ++ "/" ++ name

/-- A call that is recorded and then answered at once, unless its scope is over. -/
def guarded {α : Type} (scope : Stop.Scope) (call : String)
    (answer : Cloud → Except Failure α × Cloud) : Call Cloud α := fun cloud =>
  match scope.interruption? cloud.clock with
  | some interruption => (.error (.interrupted interruption), cloud)
  | none => answer (cloud.record call)

/-- What lies on a shelf, or the failure that is to be shown or that says that there is nothing. -/
def look {α : Type} (injected : Option Injected) (shelf : Shelf α) (group name : String) :
    Except Failure α :=
  match injected with
  | some injected => .error injected.failure
  | none =>
    match shelf.get? group name with
    | some found => .ok found
    | none => .error (.notFound (name ++ " not found"))

/-- The cloud with the interface that is attached to an endpoint, unless it is there already. -/
def withAttached (cloud : Cloud) (group name : String) : Cloud :=
  let attached := attachedName name
  match cloud.interfaces.get? group attached with
  | some _ => cloud
  | none =>
    { cloud with
      interfaces :=
        cloud.interfaces.put group attached
          (interfaceWith (interfaceId group attached) attachedAddresses) }

/-- The cloud after an endpoint was put. -/
def store (cloud : Cloud) (group name : String) (parameters : Wire.Endpoint) : Cloud :=
  let interface :=
    if cloud.attachInterfaces then some (interfaceId group (attachedName name)) else none
  let cloud := if cloud.attachInterfaces then cloud.withAttached group name else cloud
  { cloud with
    endpoints :=
      cloud.endpoints.put group name (provision group name cloud.emptyIds interface parameters) }

/-- Begin to put an endpoint, which is done at once. -/
def beginPut (scope : Stop.Scope) (group name : String) (parameters : Wire.Endpoint) :
    Call Cloud Operation :=
  guarded scope (callText "begin_create_or_update_private_endpoint" group name) fun cloud =>
    match cloud.failBegin with
    | some injected => (.error injected.failure, cloud)
    | none =>
      (.ok { target := .statusMonitor ("mock://operations/put/" ++ name), retryAfter := none },
        cloud.store group name parameters)

/-- Begin to delete an endpoint, which is done at once. -/
def beginDelete (scope : Stop.Scope) (group name : String) : Call Cloud Operation :=
  guarded scope (callText "begin_delete_private_endpoint" group name) fun cloud =>
    match look cloud.failBegin cloud.endpoints group name with
    | .error failure => (.error failure, cloud)
    | .ok _ =>
      (.ok { target := .location ("mock://operations/delete/" ++ name), retryAfter := none },
        { cloud with endpoints := cloud.endpoints.erase group name })

/-- Wait for an operation, which is over already. -/
def wait (scope : Stop.Scope) (operation : Operation) : Call Cloud Unit := fun cloud =>
  let cloud :=
    match operation.target with
    | .statusMonitor url | .location url => cloud.record ("wait_for_completion " ++ url)
    | _ => cloud
  match scope.interruption? cloud.clock with
  | some interruption => (.error (.interrupted interruption), cloud)
  | none =>
    match cloud.failWait with
    | some injected => (.error injected.failure, cloud)
    | none => (.ok (), cloud)

/-- The client of clouds. -/
def client : Client Cloud where
  clock := Cloud.clock
  getEndpoint scope group name :=
    guarded scope (callText "get_private_endpoint" group name) fun cloud =>
      (look cloud.failGet cloud.endpoints group name, cloud)
  beginPut := beginPut
  beginDelete := beginDelete
  wait := wait
  getInterface scope group name :=
    guarded scope (callText "get_network_interface" group name) fun cloud =>
      (look cloud.failInterface cloud.interfaces group name, cloud)

/-- The number of recorded calls that begin with the given text. -/
def countCalls (cloud : Cloud) (start : String) : Nat :=
  cloud.calls.countP fun call => start.toList.isPrefixOf call.toList

end Cloud

end PrivateLink
