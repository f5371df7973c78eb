import PrivateLink.Catalogue.Endpoint
import PrivateLink.Endpoint.Lifecycle
import PrivateLink.Resource
import PrivateLink.Settings
import PrivateLink.Text.LowerCase

/-!
# The provider

The provider manages resources by their address and the identifier that the service gave them.
Before it talks to the service it checks the type of the resource, its attributes against the
schema, and for an update also that nothing changes that would need a new resource and that the
identifier means the resource at hand.
-/

namespace PrivateLink

open Network

namespace Provider

/-- What a caller has to know about an error to react to it. -/
inductive Kind where
  | other
  /-- What was asked for is not valid. -/
  | validation
  /-- The resource exists already and has to be imported. -/
  | alreadyExists
deriving DecidableEq, Repr

/-- Why the provider could not do as asked. -/
structure Error where
  message : String
  resource : Option Address := none
  kind : Kind := .other
  cause : Option Endpoint.Fault := none
deriving DecidableEq, Repr

namespace Error

/-- The error of the kind `validation` with a message. -/
def validation (message : String) : Error where
  message
  kind := .validation

/-- The error for a resource that exists already. -/
def alreadyExists (resourceType identifier : String) : Error where
  message :=
    "A resource with the ID " ++ Text.quoted identifier ++ " already exists - to be managed via " ++
      "Carina this resource needs to be imported into the State. Please see the resource " ++
      "documentation for " ++ Text.quoted resourceType ++ " for more information."
  kind := .alreadyExists

/-- The same error, said of a resource. -/
def forResource (error : Error) (address : Address) : Error :=
  { error with resource := some address }

/-- The error for a fault in managing an endpoint. -/
def ofFault (fault : Endpoint.Fault) : Error :=
  match fault with
  | .alreadyExists id => alreadyExists endpointType id
  | _ =>
    { message := fault.message
      kind := if fault.isValidation then .validation else .other
      cause := some fault }
where
  /-- The full name of the type of endpoints. -/
  endpointType : String := "azurerm.private_link_endpoint"

/-- The error with the resource that it concerns. -/
def display (error : Error) : String :=
  match error.resource with
  | some address => "[" ++ address.type ++ "." ++ address.name ++ "] " ++ error.message
  | none => error.message

end Error

/-- The name of the provider. -/
def name : String := "azurerm"

end Provider

/-- A provider over the service that a client talks to. -/
structure Provider (σ : Type) where
  client : Client σ
  settings : Settings
  /-- What stops all operations, apart from the time that each may take. -/
  scope : Stop.Scope := .background

namespace Provider

/-- The error for a resource whose type is not known. -/
def unknownType (address : Address) : Error :=
  { message := "Unknown resource type: " ++ address.type, resource := some address }

/-- The type of the resource at the address. -/
def resourceType (address : Address) : Except Error Catalogue.ResourceType :=
  match Catalogue.find? address.type with
  | some found => .ok found
  | none => .error (unknownType address)

/-- The endpoint that a resource describes, if its attributes are valid. -/
def specOf (resource : Resource) : Except Error Endpoint.Spec := do
  let found ← resourceType resource.address
  match found.schema.violations resource.attributes with
  | [] =>
    (Endpoint.Spec.ofAttributes resource.attributes).mapError fun fault =>
      (Error.ofFault fault).forResource resource.address
  | violations =>
    .error <| (Error.validation (Violation.joined "; " (Violation.messages violations))).forResource
      resource.address

/-- The state of a resource that was observed. -/
def stateOf (address : Address) (observed : Endpoint.Observed) : State :=
  .present address observed.id observed.attributes

/-! ### Comparison of attributes -/

/-- The attributes with the text of one of them changed by `change`. -/
def changeText (name : String) (change : String → String) (attributes : Attributes) : Attributes :=
  match attributes.lookup name with
  | some (.string text) => insertEntry name (.string (change text)) attributes
  | _ => attributes

/-- The attributes with location and resource group in the form in which they are compared. -/
def comparable (attributes : Attributes) : Attributes :=
  changeText "resource_group_name" Text.lowerText
    (changeText "location" Location.normalize attributes)

/-- The error for an update that would need a new resource. -/
def needsReplacement (identifier : String) (changed : List String) : Error :=
  .validation ("Update not supported for " ++ identifier ++ ", delete and recreate (changed: " ++
    Violation.joined ", " changed ++ ")")

/-- The error for an identifier that means another resource than the one described. -/
def otherResource (identifier : String) (spec : Endpoint.Spec) : Error :=
  .validation ("Identifier " ++ Text.quoted identifier ++ " does not match name " ++
    Text.quoted spec.name ++ " in resource group " ++ Text.quoted spec.resourceGroup)

/-- The endpoint that an update asks for, if the update can be made in place. -/
def updateSpec (address : Address) (identifier : String) (before : State) (desired : Resource) :
    Except Error Endpoint.Spec := do
  let spec ← specOf desired
  let found ← resourceType address
  let current := comparable before.attributes
  match found.schema.replacements current (comparable desired.attributes) with
  | [] =>
    match Endpoint.parseId identifier with
    | .error fault => .error ((Error.ofFault fault).forResource address)
    | .ok (group, name) =>
      if Text.equalIgnoringCase group spec.resourceGroup ∧ name = spec.name then .ok spec
      else .error ((otherResource identifier spec).forResource address)
  | changed => .error ((needsReplacement identifier changed).forResource address)

/-! ### Operations -/

variable {σ : Type}

/-- The scope of an operation that starts at the state. -/
def operationScope (provider : Provider σ) (state : σ) : Stop.Scope :=
  provider.scope.within (provider.client.clock state) provider.settings.operationTimeout

/-- Run work on endpoints within the scope of an operation on a resource. -/
def run {α : Type} (provider : Provider σ) (address : Address)
    (work : Stop.Scope → StateM σ (Except Endpoint.Fault α)) : StateM σ (Except Error α) := do
  let result ← work (provider.operationScope (← get))
  return result.mapError fun fault => (Error.ofFault fault).forResource address

/-- Find the state of a resource. Without an identifier it was never created. -/
def read (provider : Provider σ) (address : Address) (identifier : Option String) :
    StateM σ (Except Error State) := do
  match resourceType address with
  | .error error => return .error error
  | .ok _ =>
    match identifier with
    | none => return .ok (.absent address)
    | some identifier =>
      match ← provider.run address fun scope => Endpoint.read provider.client scope identifier with
      | .error error => return .error error
      | .ok none => return .ok (.absent address)
      | .ok (some observed) => return .ok (stateOf address observed)

/-- Create a resource. -/
def create (provider : Provider σ) (resource : Resource) : StateM σ (Except Error State) := do
  match specOf resource with
  | .error error => return .error error
  | .ok spec =>
    match ← provider.run resource.address fun scope =>
        Endpoint.apply provider.client scope spec (.create provider.settings.importProtection) with
    | .error error => return .error error
    | .ok observed => return .ok (stateOf resource.address observed)

/-- Change a resource in place. -/
def update (provider : Provider σ) (address : Address) (identifier : String) (before : State)
    (desired : Resource) : StateM σ (Except Error State) := do
  match updateSpec address identifier before desired with
  | .error error => return .error error
  | .ok spec =>
    match ← provider.run address fun scope =>
        Endpoint.apply provider.client scope spec .update with
    | .error error => return .error error
    | .ok observed => return .ok (stateOf address observed)

/-- Delete a resource. -/
def delete (provider : Provider σ) (address : Address) (identifier : String) :
    StateM σ (Except Error Unit) := do
  match resourceType address with
  | .error error => return .error error
  | .ok _ => provider.run address fun scope => Endpoint.remove provider.client scope identifier

/-- Start to manage a resource that exists already. -/
def importExisting (provider : Provider σ) (address : Address) (identifier : String) :
    StateM σ (Except Error State) := do
  match ← provider.read address (some identifier) with
  | .error error => return .error error
  | .ok state =>
    if state.found then return .ok state
    else
      return .error
        { message := "Cannot import non-existent remote object " ++ Text.quoted identifier
          resource := some address }

end Provider

end PrivateLink
