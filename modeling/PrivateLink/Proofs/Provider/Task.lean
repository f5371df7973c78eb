import PrivateLink.Provider

/-!
# Tasks of a provider

The operations of a provider as data, so that what holds of every operation is said once and runs of
several operations are lists.
-/

namespace PrivateLink.Provider

/-- An operation with its arguments. -/
inductive Task where
  | read (address : Address) (identifier : Option String)
  | create (resource : Resource)
  | update (address : Address) (identifier : String) (before : State) (desired : Resource)
  | delete (address : Address) (identifier : String)
  | importExisting (address : Address) (identifier : String)

/-- How a task ends: with an error or with a state, but that a deletion has no state to show. -/
abbrev Answer := Except Error (Option State)

namespace Task

variable {σ : Type}

/-- Do what the task says. -/
def run (task : Task) (provider : Provider σ) : StateM σ Answer := do
  match task with
  | .read address identifier => return (← provider.read address identifier).map some
  | .create resource => return (← provider.create resource).map some
  | .update address identifier before desired =>
    return (← provider.update address identifier before desired).map some
  | .delete address identifier => return (← provider.delete address identifier).map fun () => none
  | .importExisting address identifier =>
    return (← provider.importExisting address identifier).map some

/-- Do what the tasks say, one after the other. -/
def runAll (provider : Provider σ) : List Task → StateM σ (List Answer)
  | [] => return []
  | task :: tasks => do
    let answer ← task.run provider
    let answers ← runAll provider tasks
    return answer :: answers

/-- The task is answered without a word to the service. -/
def IsLocal (task : Task) (provider : Provider σ) : Prop :=
  ∃ answer, task.run provider = pure answer

/-! ### What a task comes to

A task is refused at once, or it is one piece of work on endpoints whose result is shown to the
caller.
-/

variable {provider : Provider σ} {address : Address} {identifier : String} {before : State}
  {resource desired : Resource} {spec : Endpoint.Spec} {error : Error}
  {found : Catalogue.ResourceType}

/-- The state of the resource at the address by what has become of its endpoint. -/
def stateFound (address : Address) : Option Endpoint.Observed → State
  | none => .absent address
  | some observed => stateOf address observed

/-- The error for importing what does not exist. -/
def nothingToImport (address : Address) (identifier : String) : Error where
  message := "Cannot import non-existent remote object " ++ Text.quoted identifier
  resource := some address

/-- The state of a resource that is imported, by what has become of its endpoint. -/
def stateImported (address : Address) (identifier : String) :
    Option Endpoint.Observed → Except Error State
  | none => .error (nothingToImport address identifier)
  | some observed => .ok (stateOf address observed)

theorem run_read_of_error {identifier : Option String} (h : resourceType address = .error error) :
    (Task.read address identifier).run provider = pure (.error error) := by
  simp only [run, Provider.read, h]
  rfl

theorem run_read_none (h : resourceType address = .ok found) :
    (Task.read address none).run provider = pure (.ok (some (.absent address))) := by
  simp only [run, Provider.read, h]
  rfl

theorem run_read (h : resourceType address = .ok found) :
    (Task.read address (some identifier)).run provider = do
      let result ← provider.run address fun scope =>
        Endpoint.read provider.client scope identifier
      return result.map fun read => some (stateFound address read) := by
  funext state
  simp only [run, Provider.read, h, bind, StateT.bind]
  rcases provider.run address _ state with ⟨error | read | read, after⟩ <;> rfl

theorem run_create_of_error (h : specOf resource = .error error) :
    (Task.create resource).run provider = pure (.error error) := by
  simp only [run, Provider.create, h]
  rfl

theorem run_create (h : specOf resource = .ok spec) :
    (Task.create resource).run provider = do
      let result ← provider.run resource.address fun scope =>
        Endpoint.apply provider.client scope spec (.create provider.settings.importProtection)
      return result.map fun observed => some (stateOf resource.address observed) := by
  funext state
  simp only [run, Provider.create, h, bind, StateT.bind]
  rcases provider.run resource.address _ state with ⟨error | observed, after⟩ <;> rfl

theorem run_update_of_error (h : updateSpec address identifier before desired = .error error) :
    (Task.update address identifier before desired).run provider = pure (.error error) := by
  simp only [run, Provider.update, h]
  rfl

theorem run_update (h : updateSpec address identifier before desired = .ok spec) :
    (Task.update address identifier before desired).run provider = do
      let result ← provider.run address fun scope =>
        Endpoint.apply provider.client scope spec .update
      return result.map fun observed => some (stateOf address observed) := by
  funext state
  simp only [run, Provider.update, h, bind, StateT.bind]
  rcases provider.run address _ state with ⟨error | observed, after⟩ <;> rfl

theorem run_delete_of_error (h : resourceType address = .error error) :
    (Task.delete address identifier).run provider = pure (.error error) := by
  simp only [run, Provider.delete, h]
  rfl

theorem run_delete (h : resourceType address = .ok found) :
    (Task.delete address identifier).run provider = do
      let result ← provider.run address fun scope =>
        Endpoint.remove provider.client scope identifier
      return result.map fun () => none := by
  simp only [run, Provider.delete, h]

theorem run_importExisting_of_error (h : resourceType address = .error error) :
    (Task.importExisting address identifier).run provider = pure (.error error) := by
  simp only [run, Provider.importExisting, Provider.read, h]
  rfl

theorem run_importExisting (h : resourceType address = .ok found) :
    (Task.importExisting address identifier).run provider = do
      let result ← provider.run address fun scope =>
        Endpoint.read provider.client scope identifier
      return (result.bind (stateImported address identifier)).map some := by
  funext state
  simp only [run, Provider.importExisting, Provider.read, h, bind, StateT.bind]
  rcases provider.run address _ state with ⟨error | read | read, after⟩ <;> rfl

end Task

end PrivateLink.Provider
