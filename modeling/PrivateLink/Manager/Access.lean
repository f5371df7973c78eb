import PrivateLink.Manager.Client
import PrivateLink.Provider
import PrivateLink.Text.WordCharacter

/-!
# Access to the resource manager

`connect` makes the provider over the resource manager that the settings ask for. It needs a
credential; whether there can be one is checked before any request.
-/

namespace PrivateLink.Manager

/-- Why there can be no credential. -/
inductive AccessFault where
  /-- The name of the tenant has characters that no tenant has. -/
  | tenant
  /-- The identity of the machine is handed out in a way that is not supported. -/
  | identity
deriving DecidableEq, Repr

/-- The fault in words. -/
def AccessFault.message : AccessFault → String
  | .tenant =>
    "Failed to create ClientSecretCredential: the tenant ID holds characters other than " ++
      "letters, digits, dots and hyphens"
  | .identity =>
    "Failed to create ManagedIdentityCredential: the source of the identity is not supported"

/-- The character may stand in the name of a tenant. -/
def isTenantCharacter (c : Char) : Bool :=
  Text.isAlphanumeric c || c == '.' || c == '-'

/-- The variable that is set where a cluster hands out the identity of the machine. -/
def clusterVariable : String := "IDENTITY_SERVER_THUMBPRINT"

/-- Whether there can be a credential, by the variables of the machine. -/
def checkAccess (environment : String → Option String) : Authentication → Except AccessFault Unit
  | .servicePrincipal tenant _ _ =>
    if tenant.toList.all isTenantCharacter then .ok () else .error .tenant
  | .managedIdentity => if (environment clusterVariable).isSome then .error .identity else .ok ()

/-- The client that the settings ask for. -/
def Client.ofSettings (settings : Settings) : Client :=
  .forSubscription settings.manager settings.subscription settings.pollInterval

/-- The provider that the settings ask for, on a machine with the given variables. -/
def connect (environment : String → Option String) (settings : Settings) (scope : Stop.Scope) :
    Except Provider.Error (Provider Server) :=
  match checkAccess environment settings.authentication with
  | .error fault => .error { message := fault.message }
  | .ok () => .ok { client := (Client.ofSettings settings).network, settings, scope }

end PrivateLink.Manager
