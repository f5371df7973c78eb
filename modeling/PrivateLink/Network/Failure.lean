import PrivateLink.Stop.Scope
import PrivateLink.Text.Quoted

/-!
# Failures of network calls

A call to the service fails because the service answers with a status other than success, because no
answer comes or it cannot be read, because an operation of the service ends without success, or
because the caller's stop scope is over.
-/

namespace PrivateLink.Network

/-- Why a call failed. -/
inductive Failure where
  /-- The service answered with a status other than success. -/
  | refused (status : Nat) (code : Option String) (message : String)
  /-- No answer came. -/
  | unreachable (detail : String)
  /-- There is no access token for the call. -/
  | credential (reason : String)
  /-- The answer is not what was asked for. -/
  | undecodable (detail : String)
  /-- An operation of the service ended without success. -/
  | operationFailed (status : String) (code : Option String) (message : Option String)
  /-- The stop scope of the call is over. -/
  | interrupted (cause : Stop.Interruption)
deriving DecidableEq, Repr

namespace Failure

/-- The failure by which the service says that something does not exist. -/
def notFound (message : String) : Failure :=
  .refused 404 (some "NotFound") message

/-- The service said that what was asked for does not exist. -/
def isNotFound : Failure → Bool
  | .refused status _ _ => status == 404
  | _ => false

/-- The failure in words. -/
def message : Failure → String
  | .refused status code message =>
    toString status ++ " " ++ code.getD "Unknown" ++ ": " ++ message
  | .unreachable detail => "HTTP request failed: " ++ detail
  | .credential reason => "Failed to obtain an access token: " ++ reason
  | .undecodable detail => "Failed to decode response: " ++ detail
  | .operationFailed status _ message =>
    "Operation finished with status " ++ Text.quoted status ++ ": " ++ message.getD "no details"
  | .interrupted .cancelled => "Operation was cancelled"
  | .interrupted .deadlineExceeded => "Operation deadline exceeded"

end Failure

end PrivateLink.Network
