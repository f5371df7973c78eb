import PrivateLink.Json.Document
import PrivateLink.Manager.Message
import PrivateLink.Network.Client

/-!
# Verdicts on operations

`operationBegun` reads off the reply that begins an operation where its outcome is found. After
that, a `Verdict` is what a reply of success tells about the operation: that it is done, that it
failed, or that one has to ask again. It is given by a status monitor (`Verdict.ofMonitor`), by a
location (`Verdict.ofLocation`), by the resource itself (`Verdict.ofResource`) or, where that is to
go away, by its being there still (`Verdict.ofRemainder`).
-/

namespace PrivateLink.Manager

open Network

/-- How far an operation has come. -/
inductive Progress where
  | underway
  | succeeded
  | failed
  | cancelled
deriving DecidableEq, Repr

/-- The progress that a status names, in capital or small letters. A status that is not known means
that the operation goes on. -/
def Progress.ofStatus (status : String) : Progress :=
  if Text.equalIgnoringCase status "Succeeded" then .succeeded
  else if Text.equalIgnoringCase status "Failed" then .failed
  else if Text.equalIgnoringCase status "Canceled" then .cancelled
  else if Text.equalIgnoringCase status "Cancelled" then .cancelled
  else .underway

/-- The operation that a request to `url` began, by the reply to it. -/
def operationBegun (method : Method) (url : String) (reply : Reply) : Operation where
  target :=
    match reply.header? "azure-asyncoperation", reply.header? "location" with
    | some monitor, _ => .statusMonitor monitor
    | none, some location => .location location
    | none, none =>
      match method, reply.status with
      | .put, 201 => .provisioningState url
      | .delete, 202 => .resourceGone url
      | _, _ => .completed
  retryAfter := reply.retryAfter?

/-- What a reply tells about an operation. -/
inductive Verdict where
  | done
  | failed (failure : Failure)
  /-- Ask again after so many seconds, or after the usual time. -/
  | pending (retryAfter : Option Nat)
deriving DecidableEq, Repr

namespace Verdict

/-- The failure to read a reply. -/
def unreadable : Failure :=
  .undecodable "the content has another form than expected"

/-- The verdict of a status, with what is known about a failure. -/
def ofStatus (status : String) (code message : Option String) (retryAfter : Option Nat) : Verdict :=
  match Progress.ofStatus status with
  | .succeeded => .done
  | .failed | .cancelled => .failed (.operationFailed status code message)
  | .underway => .pending retryAfter

/-- The verdict of a status monitor. -/
def ofMonitor (reply : Reply) : Verdict :=
  match (Wire.ofBody? reply.content : Option Wire.OperationStatus) with
  | none => .failed unreadable
  | some report =>
    let detail := report.error.getD {}
    ofStatus (report.status.getD "") detail.code detail.message reply.retryAfter?

/-- The verdict of a location, which answers "accepted" as long as the operation goes on. -/
def ofLocation (reply : Reply) : Verdict :=
  if reply.status = 202 then .pending reply.retryAfter? else .done

/-- The provisioning state that a resource reports; one that reports none is provisioned. -/
def provisioningState (resource : Json) : String :=
  (do (← (← resource.member? "properties").member? "provisioningState").text?).getD "Succeeded"

/-- The verdict of the resource itself. The pace of the polls is left to the client. -/
def ofResource (reply : Reply) : Verdict :=
  match (Json.read? reply.content).bind (Json.value Json.nestingLimit) with
  | none => .failed unreadable
  | some resource => ofStatus (provisioningState resource) none none none

/-- The verdict of a resource that is to go away: it is still there. -/
def ofRemainder (reply : Reply) : Verdict :=
  .pending reply.retryAfter?

end Verdict

end PrivateLink.Manager
