import PrivateLink.Attribute.Value

/-!
# Resources and their states

A resource is declared by its address, which is a type and a name chosen by the user, and by the
desired attributes. Its state is what was last seen of it.
-/

namespace PrivateLink

/-- The type of a resource and the name by which the user calls it. -/
structure Address where
  type : String
  name : String
deriving DecidableEq, Repr

/-- A resource as it is desired. -/
structure Resource where
  address : Address
  attributes : Attributes

/-- A resource as it was found. -/
structure State where
  address : Address
  /-- The name that the service gave to the resource. -/
  identifier : Option String
  attributes : Attributes
  /-- The service knows the resource. -/
  found : Bool
deriving DecidableEq

namespace State

/-- The state of a resource that the service does not know. -/
def absent (address : Address) : State where
  address
  identifier := none
  attributes := []
  found := false

/-- The state of a resource that the service knows under `identifier`. -/
def present (address : Address) (identifier : String) (attributes : Attributes) : State where
  address
  identifier := some identifier
  attributes
  found := true

end State

end PrivateLink
