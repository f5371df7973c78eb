import PrivateLink.Network.Failure
import PrivateLink.Wire.Endpoint

/-!
# Network clients

A network client answers the five calls by which endpoints are managed. It is given by what each
call does to a state of type `σ`, which holds whatever the client talks to and the time that goes
by, so the same management of endpoints runs over any service.

A change that the service has begun but not finished is an `Operation`. It is followed by asking
again: at a status monitor, at a location, or at the resource itself.
-/

namespace PrivateLink.Network

/-! ### Long-running operations -/

/-- Where the outcome of an operation is found. -/
inductive Target where
  /-- The operation is over already. -/
  | completed
  /-- A status monitor tells the state of the operation. -/
  | statusMonitor (url : String)
  /-- The location answers otherwise than "accepted" when the operation is over. -/
  | location (url : String)
  /-- The provisioning state of the resource is final when the operation is over. -/
  | provisioningState (url : String)
  /-- The resource is not found when the operation is over. -/
  | resourceGone (url : String)
deriving DecidableEq, Repr

/-- The address that is asked, if any. -/
def Target.url? : Target → Option String
  | .completed => none
  | .statusMonitor url | .location url | .provisioningState url | .resourceGone url => some url

/-- An operation that the service has begun. -/
structure Operation where
  target : Target
  /-- The seconds to wait before asking for the first time, as the service suggests. -/
  retryAfter : Option Nat
deriving DecidableEq, Repr

namespace Operation

/-- An operation that is over already. -/
def completed : Operation where
  target := .completed
  retryAfter := none

/-- The operation is over already. -/
def isCompleted (operation : Operation) : Bool :=
  operation.target == .completed

end Operation

/-! ### Calls -/

/-- A call that changes a state and answers or fails. -/
abbrev Call (σ : Type) (α : Type) := StateM σ (Except Failure α)

/-- The calls by which endpoints are managed. Each is made within a stop scope and, but for `wait`,
for a resource group and a name. -/
structure Client (σ : Type) where
  /-- The clock of a state. -/
  clock : σ → Clock
  getEndpoint : Stop.Scope → String → String → Call σ Wire.Endpoint
  /-- Begin to create or change an endpoint. -/
  beginPut : Stop.Scope → String → String → Wire.Endpoint → Call σ Operation
  /-- Begin to delete an endpoint. -/
  beginDelete : Stop.Scope → String → String → Call σ Operation
  /-- Wait until an operation is over. -/
  wait : Stop.Scope → Operation → Call σ Unit
  getInterface : Stop.Scope → String → String → Call σ Wire.Interface

/-- A call as it is seen from outside. -/
inductive Request where
  | getEndpoint (group name : String)
  | beginPut (group name : String) (parameters : Wire.Endpoint)
  | beginDelete (group name : String)
  | wait (operation : Operation)
  | getInterface (group name : String)
deriving DecidableEq

end PrivateLink.Network
