import PrivateLink.Network.Client

/-!
# Scripted answers

A script holds the replies to the calls that will be made, each with the time that it takes, and
records the calls. A call takes the next reply, whatever it asks for; a reply that does not fit the
call, and a call without a reply, fail.
-/

namespace PrivateLink

open Network

namespace Script

/-- A reply. A failure counts before everything else; of the rest, what fits the call counts. -/
structure Reply where
  delay : Millis := 0
  failure : Option Failure := none
  endpoint : Option Wire.Endpoint := none
  interface : Option Wire.Interface := none
  operation : Option Operation := none
  done : Option Unit := none

/-- The failure of a call that the script does not answer. -/
def unscripted (message : String) : Failure :=
  .refused 500 (some "Script") message

/-- What a reply gives to a call that asks for the part `pick`. -/
def Reply.answer {α : Type} (reply : Reply) (pick : Reply → Option α) : Except Failure α :=
  match reply.failure with
  | some failure => .error failure
  | none =>
    match pick reply with
    | some answer => .ok answer
    | none => .error (unscripted "reply does not fit the call")

end Script

/-- Replies to come and calls that were made. -/
structure Script where
  clock : Clock := {}
  replies : List Script.Reply
  /-- The calls that were made, the first one first. -/
  calls : List Request := []

namespace Script

/-- A call that asks for the part `pick` of the next reply. It is recorded unless its scope is over
before it is made. -/
def call {α : Type} (scope : Stop.Scope) (request : Request) (pick : Reply → Option α) :
    Call Script α := fun script =>
  match scope.interruption? script.clock with
  | some interruption => (.error (.interrupted interruption), script)
  | none =>
    let script := { script with calls := script.calls ++ [request] }
    match script.replies with
    | [] => (.error (unscripted "no reply left"), script)
    | reply :: replies =>
      let (outcome, clock) := scope.sleep script.clock reply.delay
      let script := { script with clock, replies }
      match outcome with
      | .error interruption => (.error (.interrupted interruption), script)
      | .ok () => (reply.answer pick, script)

/-- The client of scripts. -/
def client : Client Script where
  clock := Script.clock
  getEndpoint scope group name := call scope (.getEndpoint group name) Reply.endpoint
  beginPut scope group name parameters :=
    call scope (.beginPut group name parameters) Reply.operation
  beginDelete scope group name := call scope (.beginDelete group name) Reply.operation
  wait scope operation := call scope (.wait operation) Reply.done
  getInterface scope group name := call scope (.getInterface group name) Reply.interface

end Script

end PrivateLink
