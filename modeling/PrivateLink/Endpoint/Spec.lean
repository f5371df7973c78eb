import PrivateLink.Attribute.Value
import PrivateLink.Endpoint.Fault

/-!
# Endpoints as they are desired and observed

`Spec` is an endpoint as it is desired, read from attributes by `Spec.ofAttributes`; `Observed` is
an endpoint as it was found, given back as attributes by `Observed.attributes`.

A request message goes with manual connections only: a manual connection needs one, an automatic one
must not have one. `Spec.checkAgreement` says whether the settings of all connections agree.
-/

namespace PrivateLink.Endpoint

/-- A connection of an endpoint to a service. The last three fields are known of observed
connections only. -/
structure Connection where
  name : String := ""
  isManual : Bool := false
  resourceId : String := ""
  subresourceNames : List String := []
  requestMessage : Option String := none
  provisioningState : Option String := none
  status : Option String := none
  privateAddress : Option String := none
deriving DecidableEq, Repr

/-- An endpoint as it is desired. -/
structure Spec where
  name : String := ""
  location : String := ""
  resourceGroup : String := ""
  subnetId : String := ""
  connections : List Connection := []
  tags : Dictionary String := {}
deriving DecidableEq

/-- An endpoint as it was found. -/
structure Observed where
  id : String
  spec : Spec
  interfaceIds : List String
deriving DecidableEq

/-! ### From attributes -/

/-- The text of a required attribute. -/
def requiredText (attributes : Attributes) (name : String) : Except Fault String :=
  match attributes.lookup name with
  | some (.string text) => .ok text
  | some _ => .error (.invalidAttribute name "expected a string")
  | none => .error (.invalidAttribute name "attribute is required")

/-- The text of an attribute that may be absent. -/
def optionalText (attributes : Attributes) (name : String) : Except Fault (Option String) :=
  match attributes.lookup name with
  | some (.string text) => .ok (some text)
  | some _ => .error (.invalidAttribute name "expected a string")
  | none => .ok none

/-- The flag of a required attribute. -/
def requiredFlag (attributes : Attributes) (name : String) : Except Fault Bool :=
  match attributes.lookup name with
  | some (.bool flag) => .ok flag
  | some _ => .error (.invalidAttribute name "expected a bool")
  | none => .error (.invalidAttribute name "attribute is required")

/-- The texts of an attribute that may be absent. -/
def textList (attributes : Attributes) (name : String) : Except Fault (List String) :=
  match attributes.lookup name with
  | none => .ok []
  | some (.list items) =>
    match items.mapM Value.text? with
    | some texts => .ok texts
    | none => .error (.invalidAttribute name "expected a list of strings")
  | some _ => .error (.invalidAttribute name "expected a list of strings")

/-- A request message that is not empty. -/
def nonEmpty (message : Option String) : Option String :=
  message.filter (· ≠ "")

/-- The connection that a block describes. -/
def Connection.ofAttributes (block : Attributes) : Except Fault Connection := do
  let isManual ← requiredFlag block "is_manual_connection"
  let name ← requiredText block "name"
  let resourceId ← requiredText block "private_connection_resource_id"
  let subresourceNames ← textList block "subresource_names"
  let requestMessage ← optionalText block "request_message"
  return { name, isManual, resourceId, subresourceNames, requestMessage := nonEmpty requestMessage }

/-- The connection that a value describes. -/
def Connection.ofValue : Value → Except Fault Connection
  | .map block => Connection.ofAttributes block
  | _ => .error (.invalidAttribute "private_service_connection" "expected a block")

/-- The connections of an endpoint. -/
def connectionsOf (attributes : Attributes) : Except Fault (List Connection) :=
  match attributes.lookup "private_service_connection" with
  | none => .ok []
  | some (.list blocks) => blocks.mapM Connection.ofValue
  | some _ => .error (.invalidAttribute "private_service_connection" "expected a list of blocks")

/-- The key and the text of a tag. -/
def tagOf : String × Value → Except Fault (String × String)
  | (key, .string text) => .ok (key, text)
  | (key, _) =>
    .error (.invalidAttribute "tags" ("value for " ++ Text.quoted key ++ " must be a string"))

/-- The tags of an endpoint. -/
def tagsOf (attributes : Attributes) : Except Fault (Dictionary String) :=
  match attributes.lookup "tags" with
  | none => .ok {}
  | some (.map entries) => do return .ofList (← entries.mapM tagOf)
  | some _ => .error (.invalidAttribute "tags" "expected a map of strings")

/-- The endpoint that attributes describe. -/
def Spec.ofAttributes (attributes : Attributes) : Except Fault Spec := do
  let connections ← connectionsOf attributes
  let tags ← tagsOf attributes
  let name ← requiredText attributes "name"
  let location ← requiredText attributes "location"
  let resourceGroup ← requiredText attributes "resource_group_name"
  let subnetId ← requiredText attributes "subnet_id"
  return { name, location, resourceGroup, subnetId, connections, tags }

/-! ### To attributes -/

/-- The entry of a text that may be absent. -/
def textEntry (name : String) (text : Option String) : List (String × Value) :=
  (text.map fun text => (name, Value.string text)).toList

/-- The block that describes a connection. -/
def Connection.value (connection : Connection) : Value :=
  .map <| entriesOf <|
    [("name", .string connection.name),
     ("is_manual_connection", .bool connection.isManual),
     ("private_connection_resource_id", .string connection.resourceId),
     ("subresource_names", .strings connection.subresourceNames)] ++
    textEntry "request_message" connection.requestMessage ++
    textEntry "provisioning_state" connection.provisioningState ++
    textEntry "status" connection.status ++
    textEntry "private_ip_address" connection.privateAddress

/-- The entry of the tags, if there are any. -/
def tagsEntry (tags : Dictionary String) : List (String × Value) :=
  if tags.entries.isEmpty then []
  else [("tags", .map (tags.entries.map fun tag => (tag.1, .string tag.2)))]

/-- The attributes of an endpoint as it was found. -/
def Observed.attributes (observed : Observed) : Attributes :=
  entriesOf <|
    [("name", .string observed.spec.name),
     ("location", .string observed.spec.location),
     ("resource_group_name", .string observed.spec.resourceGroup),
     ("subnet_id", .string observed.spec.subnetId),
     ("private_service_connection", .list (observed.spec.connections.map Connection.value)),
     ("network_interface_ids", .strings observed.interfaceIds)] ++
    tagsEntry observed.spec.tags

/-! ### Agreement of settings -/

/-- The connection has a request message that is not empty. -/
def Connection.hasMessage (connection : Connection) : Bool :=
  connection.requestMessage.any (· ≠ "")

/-- The request message of the connection agrees with its kind. -/
def Connection.checkAgreement (connection : Connection) : Except Fault Unit :=
  if !connection.isManual && connection.hasMessage then
    .error (.invalidSettings connection.name
      ("the \"request_message\" attribute cannot be set if the " ++
        "\"is_manual_connection\" attribute is \"false\""))
  else if connection.isManual && !connection.hasMessage then
    .error (.invalidSettings connection.name
      "the \"request_message\" attribute must not be empty")
  else .ok ()

/-- The settings of every connection agree; otherwise the first connection at fault counts. -/
def Spec.checkAgreement (spec : Spec) : Except Fault Unit :=
  spec.connections.forM Connection.checkAgreement

end PrivateLink.Endpoint
