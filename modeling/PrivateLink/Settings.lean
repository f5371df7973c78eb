import PrivateLink.Text.Quoted
import PrivateLink.Time

/-!
# Settings

The settings come from variables, each with a default but the subscription. A variable that is unset
or blank counts as absent. `Settings.ofEnvironment` reads them in a fixed order and stops at the
first one that is missing or cannot be read.
-/

namespace PrivateLink

/-- How to authenticate against the directory. -/
inductive Authentication where
  | servicePrincipal (tenant client secret : String)
  | managedIdentity
deriving DecidableEq

/-- Settings shared by all operations. -/
structure Settings where
  subscription : String
  authentication : Authentication := .managedIdentity
  /-- The address of the resource manager. -/
  manager : String := "https://management.azure.com"
  /-- Refuse to create resources that exist already. -/
  importProtection : Bool := false
  pollInterval : Millis := 10 * 1000
  operationTimeout : Millis := 60 * 60 * 1000
deriving DecidableEq

namespace Settings

/-- What is wrong with the value of a variable. -/
inductive Reason where
  | notAnAddress
  | notATruthValue
  | notPositive
  | tooLarge
deriving DecidableEq, Repr

/-- The reason in words. -/
def Reason.message : Reason → String
  | .notAnAddress => "expected an http(s) URL"
  | .notATruthValue => "expected true, false, 1 or 0"
  | .notPositive => "expected a positive integer"
  | .tooLarge => "timeout is too large"

/-- Why there are no settings. -/
inductive Fault where
  | missing (name : String)
  | invalid (name value : String) (reason : Reason)
deriving DecidableEq, Repr

/-- The name of the variable at fault. -/
def Fault.name : Fault → String
  | .missing name => name
  | .invalid name _ _ => name

/-- The fault in words. -/
def Fault.message : Fault → String
  | .missing name => "Environment variable " ++ name ++ " is required"
  | .invalid name value reason =>
    "Invalid value " ++ Text.quoted value ++ " for " ++ name ++ ": " ++ reason.message

/-- The authentication in words, without the secret. -/
def describeAuthentication : Authentication → String
  | .servicePrincipal tenant client _ =>
    "ServicePrincipal \x7b tenant_id: " ++ Text.quoted tenant ++ ", client_id: " ++
      Text.quoted client ++ ", client_secret: " ++ Text.quoted "<redacted>" ++ " \x7d"
  | .managedIdentity => "ManagedIdentity"

/-- The value of a variable that is set and not blank. -/
def given? (environment : String → Option String) (name : String) : Option String :=
  (environment name).filter (!Text.isBlankText ·)

/-- The text is the address of a server. -/
def isAddress (text : String) : Bool :=
  "https://".toList.isPrefixOf text.toList || "http://".toList.isPrefixOf text.toList

/-- The text without the slashes at its end. -/
def withoutFinalSlashes (text : String) : String :=
  String.ofList (text.toList.reverse.dropWhile (· == '/')).reverse

/-- The truth value that the text writes. -/
def truthValue? (text : String) : Option Bool :=
  let word := String.ofList (Text.foldCase (Text.trim text))
  if word = "true" ∨ word = "1" then some true
  else if word = "false" ∨ word = "0" then some false
  else none

/-- The positive whole number that the text writes. -/
def positive? (text : String) : Option Nat :=
  (Text.natural64? (Text.trim text)).filter (0 < ·)

/-- The settings with the value of a variable worked in, if the variable is given. -/
def withGiven (environment : String → Option String) (name : String) (settings : Settings)
    (use : Settings → String → Except Reason Settings) : Except Fault Settings :=
  match given? environment name with
  | none => .ok settings
  | some value => (use settings value).mapError (.invalid name value)

/-- The authentication that the variables ask for: a service principal if all three are given. -/
def authenticationOf (environment : String → Option String) : Authentication :=
  match given? environment "ARM_TENANT_ID", given? environment "ARM_CLIENT_ID",
    given? environment "ARM_CLIENT_SECRET" with
  | some tenant, some client, some secret => .servicePrincipal tenant client secret
  | _, _, _ => .managedIdentity

/-- Use the address of the resource manager. -/
def useManager (settings : Settings) (value : String) : Except Reason Settings :=
  if isAddress value then .ok { settings with manager := withoutFinalSlashes value }
  else .error .notAnAddress

/-- Use the flag for import protection. -/
def useImportProtection (settings : Settings) (value : String) : Except Reason Settings :=
  match truthValue? value with
  | some importProtection => .ok { settings with importProtection }
  | none => .error .notATruthValue

/-- Use the interval between polls, in seconds. -/
def usePollInterval (settings : Settings) (value : String) : Except Reason Settings :=
  match positive? value with
  | some seconds => .ok { settings with pollInterval := seconds * 1000 }
  | none => .error .notPositive

/-- Use the time that an operation may take, in minutes. -/
def useOperationTimeout (settings : Settings) (value : String) : Except Reason Settings :=
  match positive? value with
  | some minutes =>
    if minutes * 60 < Text.limit64 then
      .ok { settings with operationTimeout := minutes * 60 * 1000 }
    else .error .tooLarge
  | none => .error .notPositive

/-- The settings that the variables give. -/
def ofEnvironment (environment : String → Option String) : Except Fault Settings := do
  let subscription ←
    match given? environment "ARM_SUBSCRIPTION_ID" with
    | some subscription => .ok subscription
    | none => .error (.missing "ARM_SUBSCRIPTION_ID")
  let settings : Settings := { subscription, authentication := authenticationOf environment }
  let settings ← withGiven environment "ARM_RESOURCE_MANAGER_ENDPOINT" settings useManager
  let settings ← withGiven environment "ARM_PROVIDER_STRICT" settings useImportProtection
  let settings ← withGiven environment "ARM_POLL_INTERVAL_SECONDS" settings usePollInterval
  withGiven environment "ARM_OPERATION_TIMEOUT_MINUTES" settings useOperationTimeout

end Settings

end PrivateLink
