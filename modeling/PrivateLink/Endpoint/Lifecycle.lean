import PrivateLink.Endpoint.Exchange
import PrivateLink.Manager.Identifier
import PrivateLink.Network.Client

/-!
# The life of an endpoint

`apply` creates or changes an endpoint, `read` finds out what has become of it, and `remove` deletes
it. Each makes its network calls one after the other and stops at the first one that goes wrong. An
endpoint that the service does not know is no fault for `read` and `remove`.
-/

namespace PrivateLink.Endpoint

open Manager Network

/-- Whether an endpoint is created, if need be with a check that there is none, or changed. -/
inductive Mode where
  | create (requiresImport : Bool)
  | update
deriving DecidableEq, Repr

/-- The name that the path of an identifier gives under `key`. -/
def nameIn (key id : String) : Except Fault (Identifier × String) :=
  match Identifier.parse id with
  | .error fault => .error (.invalidId id (fault.message id))
  | .ok identifier =>
    match identifier.get? key with
    | some name => .ok (identifier, name)
    | none => .error (.invalidId id ("missing \"" ++ key ++ "\" segment"))

/-- The resource group and the name that the identifier of an endpoint holds. -/
def parseId (id : String) : Except Fault (String × String) :=
  (nameIn "privateEndpoints" id).map fun (identifier, name) => (identifier.resourceGroup, name)

variable {σ : Type}

/-- The private address of the interface with the given identifier, which is looked up in the
resource group of the endpoint. -/
def resolveAddress (client : Client σ) (scope : Stop.Scope) (group interfaceId : String) :
    StateM σ (Except Fault (Option String)) := do
  match nameIn "networkInterfaces" interfaceId with
  | .error fault => return .error fault
  | .ok (_, name) =>
    match ← client.getInterface scope group name with
    | .ok interface => return .ok interface.firstAddress?
    | .error failure =>
      if failure.isNotFound then return .error (.interfaceNotFound name group)
      else return .error (.interface name group failure)

/-- The identifier of the first interface of an endpoint, if that interface has one. -/
def firstInterfaceId? (record : Wire.Endpoint) : Option String := do
  let properties ← record.properties
  let interfaces ← properties.interfaces
  let first ← interfaces.head?
  first.id

/-- What has become of an endpoint: nothing when the service does not know it. -/
def read (client : Client σ) (scope : Stop.Scope) (id : String) :
    StateM σ (Except Fault (Option Observed)) := do
  match parseId id with
  | .error fault => return .error fault
  | .ok (group, name) =>
    match ← client.getEndpoint scope group name with
    | .error failure =>
      if failure.isNotFound then return .ok none
      else return .error (.request .read name group failure)
    | .ok record =>
      match firstInterfaceId? record with
      | none => return .ok (some (observe id group name record none))
      | some interfaceId =>
        match ← resolveAddress client scope group interfaceId with
        | .error fault => return .error fault
        | .ok address => return .ok (some (observe id group name record address))

/-- Make sure that there is no endpoint yet, if the mode asks for it. -/
def checkAbsent (client : Client σ) (scope : Stop.Scope) (spec : Spec) (mode : Mode) :
    StateM σ (Except Fault Unit) := do
  match mode with
  | .create true =>
    match ← client.getEndpoint scope spec.resourceGroup spec.name with
    | .ok record => return .error (.alreadyExists (record.id.getD spec.name))
    | .error failure =>
      if failure.isNotFound then return .ok ()
      else return .error (.request .checkExisting spec.name spec.resourceGroup failure)
  | _ => return .ok ()

/-- The identifier under which the service knows an endpoint that has been applied. -/
def appliedId (client : Client σ) (scope : Stop.Scope) (spec : Spec) :
    StateM σ (Except Fault String) := do
  match ← client.getEndpoint scope spec.resourceGroup spec.name with
  | .error failure => return .error (.request .read spec.name spec.resourceGroup failure)
  | .ok record =>
    match nonEmpty record.id with
    | some id => return .ok id
    | none => return .error (.emptyId spec.name spec.resourceGroup)

/-- Send the endpoint to the service and wait until it has taken effect. -/
def put (client : Client σ) (scope : Stop.Scope) (spec : Spec) :
    StateM σ (Except Fault Unit) := do
  match ← client.beginPut scope spec.resourceGroup spec.name spec.parameters with
  | .error failure =>
    return .error (.request .createOrUpdate spec.name spec.resourceGroup failure)
  | .ok operation =>
    match ← client.wait scope operation with
    | .error failure => return .error (.wait .createOrUpdate spec.name spec.resourceGroup failure)
    | .ok () => return .ok ()

/-- Create or change an endpoint and read it back. -/
def apply (client : Client σ) (scope : Stop.Scope) (spec : Spec) (mode : Mode) :
    StateM σ (Except Fault Observed) := do
  match spec.checkAgreement with
  | .error fault => return .error fault
  | .ok () =>
    match ← checkAbsent client scope spec mode with
    | .error fault => return .error fault
    | .ok () =>
      match ← put client scope spec with
      | .error fault => return .error fault
      | .ok () =>
        match ← appliedId client scope spec with
        | .error fault => return .error fault
        | .ok id =>
          match ← read client scope id with
          | .error fault => return .error fault
          | .ok (some observed) => return .ok observed
          | .ok none => return .error (.notFoundAfterApply spec.name spec.resourceGroup)

/-- Delete an endpoint; one that is gone already counts as deleted. -/
def remove (client : Client σ) (scope : Stop.Scope) (id : String) :
    StateM σ (Except Fault Unit) := do
  match parseId id with
  | .error fault => return .error fault
  | .ok (group, name) =>
    match ← client.beginDelete scope group name with
    | .error failure =>
      if failure.isNotFound then return .ok ()
      else return .error (.request .delete name group failure)
    | .ok operation =>
      match ← client.wait scope operation with
      | .ok () => return .ok ()
      | .error failure =>
        if failure.isNotFound then return .ok ()
        else return .error (.wait .delete name group failure)

end PrivateLink.Endpoint
