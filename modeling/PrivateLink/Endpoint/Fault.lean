import PrivateLink.Network.Failure

/-!
# Faults in managing an endpoint

A fault names the step that went wrong and carries the failure of the network call, if there was
one.
-/

namespace PrivateLink.Endpoint

/-- A step that talks to the service. -/
inductive Step where
  | checkExisting
  | createOrUpdate
  | read
  | delete
deriving DecidableEq, Repr

/-- What the step was doing. -/
def Step.activity : Step → String
  | .checkExisting => "checking for presence of existing"
  | .createOrUpdate => "creating/updating"
  | .read => "retrieving"
  | .delete => "deleting"

/-- What the step brings about. -/
def Step.outcome : Step → String
  | .checkExisting => "presence check"
  | .createOrUpdate => "creation/update"
  | .read => "retrieval"
  | .delete => "deletion"

/-- Why an endpoint could not be managed as asked. -/
inductive Fault where
  | invalidAttribute (name reason : String)
  | invalidSettings (connection reason : String)
  | invalidId (id reason : String)
  | alreadyExists (id : String)
  | request (step : Step) (name group : String) (source : Network.Failure)
  | wait (step : Step) (name group : String) (source : Network.Failure)
  | emptyId (name group : String)
  | interfaceNotFound (name group : String)
  | interface (name group : String) (source : Network.Failure)
  | notFoundAfterApply (name group : String)
deriving DecidableEq, Repr

namespace Fault

/-- The kind of an object, its name and its resource group, as messages show them. -/
def subject (kind name group : String) : String :=
  kind ++ " " ++ Text.quoted name ++ " (Resource Group " ++ Text.quoted group ++ ")"

/-- The fault in words. -/
def message : Fault → String
  | .invalidAttribute name reason => "Invalid attribute " ++ Text.quoted name ++ ": " ++ reason
  | .invalidSettings connection reason =>
    "\"private_service_connection\":" ++ Text.quoted connection ++ " is invalid, " ++ reason
  | .invalidId id reason => "Invalid resource ID " ++ Text.quoted id ++ ": " ++ reason
  | .alreadyExists id => "Private Link Endpoint " ++ Text.quoted id ++ " already exists"
  | .request step name group source =>
    "Error " ++ step.activity ++ " " ++ subject "Private Link Endpoint" name group ++ ": " ++
      source.message
  | .wait step name group source =>
    "Error waiting for " ++ step.outcome ++ " of " ++ subject "Private Link Endpoint" name group ++
      ": " ++ source.message
  | .emptyId name group =>
    "API returns a nil/empty id on " ++ subject "Private Link Endpoint" name group
  | .interfaceNotFound name group => subject "Network Interface" name group ++ " was not found"
  | .interface name group source =>
    "Error making Read request on " ++ subject "Network Interface" name group ++ ": " ++
      source.message
  | .notFoundAfterApply name group =>
    subject "Private Link Endpoint" name group ++ " was not found after apply"

/-- The fault lies in what was asked for. -/
def isValidation : Fault → Bool
  | .invalidAttribute .. | .invalidSettings .. | .invalidId .. => true
  | _ => false

/-- The failure of the network call behind the fault. -/
def source? : Fault → Option Network.Failure
  | .request _ _ _ source | .wait _ _ _ source | .interface _ _ source => some source
  | _ => none

end Fault

end PrivateLink.Endpoint
