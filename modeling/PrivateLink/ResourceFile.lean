import PrivateLink.Attribute.Rendering
import PrivateLink.Catalogue.Endpoint
import PrivateLink.Json.Document
import PrivateLink.Json.Printer
import PrivateLink.Json.Reader
import PrivateLink.Resource

/-!
# Resource files

A resource file is a JSON document that gives the type, the name and the attributes of a resource.
`ResourceFile.parse?` reads the document, `ResourceFile.resource` the attributes in it, and
`Resource.problem?` says what keeps the resource from being managed. `State.document` is how a state
is shown.
-/

namespace PrivateLink

/-- What a resource file says. The attributes are still documents, in ascending order. -/
structure ResourceFile where
  address : Address
  attributes : List (String × Json)

namespace ResourceFile

/-- Why a resource file does not give a resource. -/
inductive Fault where
  | unreadable
  /-- The value of the attribute is no attribute value. -/
  | unsupported (name : String)
deriving DecidableEq, Repr

/-- The fault in words. -/
def Fault.message : Fault → String
  | .unreadable => "Parse error: the content is not a resource"
  | .unsupported name => "Unsupported value for attribute " ++ Text.quoted name

/-- Type, name and attributes as they are written; the attributes may be left out at the end. -/
def fields? : Json → Option (List (Option Json))
  | .array [type, name] => some [some type, some name, none]
  | json => json.fields? ["type", "name", "attributes"]

/-- The attributes, which may be absent but not null. They nest one level less deep than a document
may. -/
def attributes? : Option Json → Option (List (String × Json))
  | none => some []
  | some (.object members) =>
    (Json.valueMembers (Json.nestingLimit - 2) members).map entriesOf
  | some _ => none

/-- What the content of a resource file says. -/
def parse? (content : String) : Option ResourceFile := do
  let [some type, some name, attributes] ← fields? (← Json.read? content) | none
  return {
    address := { type := ← type.text?, name := ← name.text? }
    attributes := ← attributes? attributes }

/-- The attribute that a document writes. -/
def attributeOf (entry : String × Json) : Except Fault (String × Value) :=
  match Value.ofJson? entry.2 with
  | some value => .ok (entry.1, value)
  | none => .error (.unsupported entry.1)

/-- The resource that the file describes, or the first attribute that it cannot have. -/
def resource (file : ResourceFile) : Except Fault Resource :=
  (file.attributes.mapM attributeOf).map fun attributes => { address := file.address, attributes }

/-- The resource that the content of a file describes. -/
def read (content : String) : Except Fault Resource :=
  match parse? content with
  | some file => file.resource
  | none => .error .unreadable

end ResourceFile

namespace Resource

/-- What keeps a resource from being managed. -/
inductive Problem where
  | unknownType (type : String)
  | violations (address : Address) (found : List Violation)

/-- The problem in words, with a line for every violation. -/
def Problem.message : Problem → String
  | .unknownType type => "Unknown resource type: " ++ type
  | .violations address found =>
    "Validation failed:\n  " ++ Violation.joined "\n  "
      (found.map fun violation => address.type ++ "." ++ address.name ++ ": " ++ violation.message)

/-- The problem of a resource, if it has one. -/
def problem? (resource : Resource) : Option Problem :=
  match Catalogue.find? resource.address.type with
  | none => some (.unknownType resource.address.type)
  | some found =>
    match found.schema.violations resource.attributes with
    | [] => none
    | violations => some (.violations resource.address violations)

end Resource

/-- The document that shows a state. -/
def State.document (state : State) : Json :=
  .ofMembers
    [("attributes", state.attributes.toJson),
     ("identifier", state.identifier.elim .null .text),
     ("name", .text state.address.name),
     ("type", .text state.address.type)]

/-- The lines that show a state. -/
def State.lines (state : State) : String :=
  state.document.pretty

end PrivateLink
