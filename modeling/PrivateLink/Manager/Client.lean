import PrivateLink.Manager.Server
import PrivateLink.Manager.Verdict
import PrivateLink.Settings

/-!
# The client of the resource manager

The client turns the calls by which endpoints are managed into requests to a server. An operation is
followed by `Client.poll`, which waits, asks, and asks again until a reply gives a verdict; it ends
because every reply of success is a turn of the server.
-/

namespace PrivateLink.Manager

open Network

/-- The version of the network service that is spoken to. -/
def apiVersion : String := "2019-06-01"

/-- A client for the resources of one subscription. -/
structure Client where
  /-- The address of the resource manager, without a slash at its end. -/
  manager : String
  subscription : String
  /-- How long to wait between polls unless the service says otherwise. -/
  pollInterval : Millis
deriving DecidableEq, Repr

namespace Client

/-- The client for a resource manager and a subscription. -/
def forSubscription (manager subscription : String) (pollInterval : Millis) : Client where
  manager := Settings.withoutFinalSlashes manager
  subscription
  pollInterval

/-- The client in words. -/
def describe (client : Client) : String :=
  "ArmNetworkClient \x7b endpoint: " ++ Text.quoted client.manager ++ ", subscription_id: " ++
    Text.quoted client.subscription ++ ", poll_interval: " ++ client.pollInterval.describe ++
    ", .. \x7d"

/-! ### Addresses -/

/-- The address of a resource of the network service. -/
def resourceUrl (client : Client) (group kind name : String) : String :=
  client.manager ++ "/subscriptions/" ++ client.subscription ++ "/resourceGroups/" ++ group ++
    "/providers/Microsoft.Network/" ++ kind ++ "/" ++ name ++ "?api-version=" ++ apiVersion

/-- The address of an endpoint. -/
def endpointUrl (client : Client) (group name : String) : String :=
  client.resourceUrl group "privateEndpoints" name

/-- The address of an interface. -/
def interfaceUrl (client : Client) (group name : String) : String :=
  client.resourceUrl group "networkInterfaces" name

/-! ### Requests -/

/-- Send a request. -/
def send (client : Client) (scope : Stop.Scope) (method : Method) (url : String)
    (body : Option String) : Call Server Reply :=
  Server.send scope (client.manager ++ "/.default") method url body

/-- Fetch a value. -/
def fetch {α : Type} [Wire.Format α] (client : Client) (scope : Stop.Scope) (url : String) :
    StateM Server (Except Failure α) := do
  match ← client.send scope .get url none with
  | .error failure => return .error failure
  | .ok reply =>
    match Wire.ofBody? reply.content with
    | some value => return .ok value
    | none => return .error Verdict.unreadable

/-- Begin an operation. -/
def begin (client : Client) (scope : Stop.Scope) (method : Method) (url : String)
    (body : Option String) : StateM Server (Except Failure Operation) := do
  match ← client.send scope method url body with
  | .error failure => return .error failure
  | .ok reply => return .ok (operationBegun method url reply)

/-! ### Polls -/

/-- The time to wait when the service asks for so many seconds, or for none. -/
def delay (client : Client) (retryAfter : Option Nat) : Millis :=
  retryAfter.elim client.pollInterval (· * 1000)

/-- Ask at the address after the time to wait, until a reply gives a verdict. -/
def poll (client : Client) (scope : Stop.Scope) (url : String) (verdict : Reply → Verdict)
    (retryAfter : Option Nat) (server : Server) : Except Failure Unit × Server :=
  match scope.sleep server.clock (client.delay retryAfter) with
  | (.error interruption, clock) => (.error (.interrupted interruption), { server with clock })
  | (.ok (), clock) =>
    match _ : client.send scope .get url none { server with clock } with
    | (.error failure, server) => (.error failure, server)
    | (.ok reply, after) =>
      match verdict reply with
      | .done => (.ok (), after)
      | .failed failure => (.error failure, after)
      | .pending retryAfter => client.poll scope url verdict retryAfter after
termination_by server.turns.length
decreasing_by
  rename_i answered
  have fewer := Server.turns_lt_of_send_ok answered
  exact fewer

/-- Wait until an operation is over. -/
def wait (client : Client) (scope : Stop.Scope) (operation : Operation) : Call Server Unit :=
  match operation.target with
  | .completed => fun server => (.ok (), server)
  | .statusMonitor url => client.poll scope url Verdict.ofMonitor operation.retryAfter
  | .location url => client.poll scope url Verdict.ofLocation operation.retryAfter
  | .provisioningState url => client.poll scope url Verdict.ofResource operation.retryAfter
  | .resourceGone url => client.poll scope url Verdict.ofRemainder operation.retryAfter

/-- The calls by which endpoints are managed, as requests to a server. -/
def network (client : Client) : Network.Client Server where
  clock := Server.clock
  getEndpoint scope group name := client.fetch scope (client.endpointUrl group name)
  beginPut scope group name parameters :=
    client.begin scope .put (client.endpointUrl group name) (some (Wire.body parameters))
  beginDelete scope group name := client.begin scope .delete (client.endpointUrl group name) none
  wait := client.wait
  getInterface scope group name := client.fetch scope (client.interfaceUrl group name)

end Client

end PrivateLink.Manager
