import PrivateLink.Cloud
import PrivateLink.Proofs.Endpoint.Exchange
import PrivateLink.Proofs.Provider.Task

/-!
# Operations on an abstract store

What an operation means to its caller, without clients, records and identifiers of interfaces: an
endpoint is held under its resource group and name, a task looks it up, writes it or erases it, and
a task that is refused changes nothing (`Task.step`). The store holds specs with normal locations;
`Endpoint.Spec.observed` is what the service makes of them.
-/

namespace PrivateLink

/-! ### What the service shows -/

namespace Endpoint

/-- The private address that every endpoint is given. -/
def givenAddress : String := "10.0.0.4"

/-- The connection as it comes back from the service that has answered it. -/
def Connection.provisioned (status : String) (connection : Connection) : Connection :=
  { connection.echo (some givenAddress) with
    provisioningState := some "Succeeded"
    status := some status }

/-- The connections as they come back: automatic ones are approved, manual ones wait. -/
def provisionedConnections (connections : List Connection) : List Connection :=
  (connections.filter (!·.isManual)).map (Connection.provisioned "Approved") ++
    (connections.filter (·.isManual)).map (Connection.provisioned "Pending")

/-- The spec with its location in normal form. -/
def Spec.normal (spec : Spec) : Spec :=
  { spec with location := Location.normalize spec.location }

/-- Where the spec is held. -/
def Spec.key (spec : Spec) : String × String :=
  (spec.resourceGroup, spec.name)

/-- What is observed, under an identifier, of the endpoint that a spec has brought about. -/
def Spec.observed (id : String) (spec : Spec) : Observed where
  id
  spec := { spec with connections := provisionedConnections spec.connections }
  interfaceIds := [Cloud.interfaceId spec.resourceGroup (Cloud.attachedName spec.name)]

/-- The mode asks for a check that there is no endpoint yet. -/
def Mode.isStrict : Mode → Bool
  | .create requiresImport => requiresImport
  | .update => false

end Endpoint

/-! ### Stores -/

/-- The specs that are held under resource group and name. -/
def Store := String × String → Option Endpoint.Spec

namespace Store

/-- The store that holds nothing. -/
def empty : Store := fun _ => none

/-- The store with a spec under its own resource group and name. -/
def write (spec : Endpoint.Spec) (store : Store) : Store :=
  fun key => if key = spec.key then some spec.normal else store key

/-- The store without what it held under a key. -/
def erase (erased : String × String) (store : Store) : Store :=
  fun key => if key = erased then none else store key

variable {spec held : Endpoint.Spec} {key erased : String × String} {store : Store}

/-- What is held after writing was written or held before. -/
theorem of_write (h : store.write spec key = some held) :
    key = spec.key ∧ held = spec.normal ∨ store key = some held := by
  rw [write] at h
  split at h
  next hkey => exact .inl ⟨hkey, (Option.some.inj h).symm⟩
  next => exact .inr h

/-- What is held after erasing was held before. -/
theorem of_erase (h : store.erase erased key = some held) : store key = some held := by
  rw [erase] at h
  split at h
  next => cases h
  next => exact h

/-- Erasing what is not held changes nothing. -/
theorem erase_of_absent (h : store erased = none) : store.erase erased = store := by
  funext key
  rw [erase]
  split
  next hkey => rw [hkey, h]
  next => rfl

end Store

namespace Provider

open Endpoint

/-- The error for a fault in managing the endpoint of a resource. -/
def faulty (address : Address) (fault : Fault) : Error :=
  (Error.ofFault fault).forResource address

/-- The key that an identifier gives. -/
def keyOf (address : Address) (identifier : String) : Except Error (String × String) :=
  (parseId identifier).mapError (faulty address)

/-- Refuse settings that do not agree. -/
def agree (address : Address) (spec : Spec) : Except Error Unit :=
  spec.checkAgreement.mapError (faulty address)

theorem keyOf_of_ok {address : Address} {identifier : String} {key : String × String}
    (h : parseId identifier = .ok key) : keyOf address identifier = .ok key := by
  rw [keyOf, h]
  rfl

theorem keyOf_of_error {address : Address} {identifier : String} {fault : Fault}
    (h : parseId identifier = .error fault) :
    keyOf address identifier = .error (faulty address fault) := by
  rw [keyOf, h]
  rfl

theorem agree_of_ok {address : Address} {spec : Spec} (h : spec.checkAgreement = .ok ()) :
    agree address spec = .ok () := by
  rw [agree, h]
  rfl

theorem agree_of_error {address : Address} {spec : Spec} {fault : Fault}
    (h : spec.checkAgreement = .error fault) :
    agree address spec = .error (faulty address fault) := by
  rw [agree, h]
  rfl

/-- The state of a resource whose spec is held, under the identifier that the service gave it. -/
def stateWritten (address : Address) (spec : Spec) : State :=
  stateOf address (spec.normal.observed (Cloud.endpointId spec.resourceGroup spec.name))

namespace Task

/-- What a task that is not refused answers and leaves in the store. -/
def effect (strict : Bool) (task : Task) (store : Store) : Except Error (Option State × Store) :=
  match task with
  | .read address identifier => do
    let _ ← resourceType address
    match identifier with
    | none => return (some (.absent address), store)
    | some identifier =>
      let key ← keyOf address identifier
      return (some (stateFound address ((store key).map (·.observed identifier))), store)
  | .create resource => do
    let spec ← specOf resource
    agree resource.address spec
    if strict && (store spec.key).isSome then
      .error (faulty resource.address
        (.alreadyExists (Cloud.endpointId spec.resourceGroup spec.name)))
    else return (some (stateWritten resource.address spec), store.write spec)
  | .update address identifier before desired => do
    let spec ← updateSpec address identifier before desired
    agree address spec
    return (some (stateWritten address spec), store.write spec)
  | .delete address identifier => do
    let _ ← resourceType address
    let key ← keyOf address identifier
    return (none, store.erase key)
  | .importExisting address identifier => do
    let _ ← resourceType address
    let key ← keyOf address identifier
    let state ← stateImported address identifier ((store key).map (·.observed identifier))
    return (some state, store)

/-- The answer to a task and the store after it, which is the same when the task is refused. -/
def step (strict : Bool) (task : Task) (store : Store) : Answer × Store :=
  match task.effect strict store with
  | .error error => (.error error, store)
  | .ok (state, store) => (.ok state, store)

theorem step_of_ok {strict : Bool} {task : Task} {store after : Store} {state : Option State}
    (h : task.effect strict store = .ok (state, after)) :
    task.step strict store = (.ok state, after) := by
  simp only [step, h]

/-- A task that is refused changes nothing. -/
theorem step_of_error {strict : Bool} {task : Task} {store : Store} {error : Error}
    (h : task.effect strict store = .error error) :
    task.step strict store = (.error error, store) := by
  simp only [step, h]

/-- The answers to tasks that are done one after the other, and the store after them. -/
def stepAll (strict : Bool) : List Task → Store → List Answer × Store
  | [], store => ([], store)
  | task :: tasks, store =>
    let (answer, store) := task.step strict store
    let (answers, store) := stepAll strict tasks store
    (answer :: answers, store)

end Task

end Provider

end PrivateLink
