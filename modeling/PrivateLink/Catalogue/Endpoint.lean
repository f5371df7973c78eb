import PrivateLink.Attribute.Schema
import PrivateLink.Catalogue.Rule

/-!
# The private link endpoint

The types of the attributes of a private link endpoint and the schema that declares them.
-/

namespace PrivateLink.Catalogue

/-- A type for the values of `base` that a rule accepts. -/
def ruled (name : String) (base : ValueType) (rule : Value → Except Fault Unit) : ValueType :=
  .custom name base fun value => (rule value).mapError Fault.message

/-- Texts that hold more than white space. -/
def nonBlankText : ValueType :=
  ruled "NonEmptyString" .string (onText checkNonBlank)

/-- Maps of texts. -/
def textMap : ValueType :=
  .map .string

/-- Messages to the owner of a service. -/
def requestMessage : ValueType :=
  ruled "RequestMessage" .string (onText checkRequestMessage)

/-- Names of resource groups. -/
def groupName : ValueType :=
  ruled "ResourceGroupName" .string (onText checkGroupName)

/-- Tags of a resource. -/
def tags : ValueType :=
  ruled "Tags" textMap (onMap checkTags)

/-- The declarations of the attributes of a connection. -/
def connectionFields : List Declaration :=
  [{ name := "name", type := nonBlankText, required := true,
     description := some "Name of the connection." },
   { name := "is_manual_connection", type := .bool, required := true,
     description :=
       some "Whether the connection requires manual approval by the service owner." },
   { name := "private_connection_resource_id", type := nonBlankText, required := true,
     description := some "ID of the private link service or resource to connect to." },
   { name := "subresource_names", type := .list nonBlankText,
     description :=
       some "Sub-resources (group IDs) of the target the endpoint connects to." },
   { name := "request_message", type := requestMessage,
     description :=
       some ("Message passed to the owner of the remote resource. " ++
         "Only valid for manual connections.") },
   { name := "provisioning_state", type := .string, computed := true },
   { name := "status", type := .string, computed := true },
   { name := "private_ip_address", type := .string, computed := true }]

/-- The block that describes a connection to a service. -/
def connection : ValueType :=
  .block connectionFields

/-- The declarations of the attributes of a private link endpoint. -/
def endpointDeclarations : List Declaration :=
  [{ name := "name", type := nonBlankText, required := true, forceNew := true,
     description := some "Name of the private endpoint." },
   { name := "location", type := nonBlankText, required := true, forceNew := true,
     description := some "Azure location (e.g. westeurope)." },
   { name := "resource_group_name", type := groupName, required := true, forceNew := true,
     description := some "Resource group holding the endpoint." },
   { name := "subnet_id", type := nonBlankText, required := true,
     description := some "ID of the subnet the endpoint's interface is placed in." },
   { name := "private_service_connection", type := .list connection, maxItems := some 1 },
   { name := "network_interface_ids", type := .list .string, computed := true,
     description := some "Network interfaces attached to the endpoint." },
   { name := "tags", type := tags }]

/-- The schema of a private link endpoint. -/
def endpointSchema : Schema :=
  .ofDeclarations "azurerm.private_link_endpoint"
    (some "A private endpoint projecting a remote service into a subnet") endpointDeclarations

/-- A type of resource that can be managed. -/
structure ResourceType where
  name : String
  schema : Schema

/-- The types of resources that can be managed. -/
def resourceTypes : List ResourceType :=
  [{ name := "private_link_endpoint", schema := endpointSchema }]

/-- The type of resource with the given name. -/
def find? (name : String) : Option ResourceType :=
  resourceTypes.find? (·.name == name)

end PrivateLink.Catalogue
