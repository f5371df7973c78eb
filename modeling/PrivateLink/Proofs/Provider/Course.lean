import PrivateLink.Proofs.Endpoint.Course
import PrivateLink.Proofs.Provider.Task

/-!
# How tasks go

A task is answered at once, or its calls and its answer are those of one piece of work on endpoints:
`Performs` has a rule for each. So what holds of all calls of a task, or of its answer, is found by
going through the rules.

* `told_performs`: every task goes by the rules, over any client;
* `Task.story`: what is told of a task, said of the calls that it makes.
-/

namespace PrivateLink.Provider

open Network

variable {σ α β : Type}

/-- The provider over the recorded client. -/
def recorded (provider : Provider σ) : Provider (σ × List Answered) where
  client := provider.client.recorded
  settings := provider.settings
  scope := provider.scope

/-- What is shown of the result of work on the endpoint of a resource. -/
def shown (address : Address) (result : Except Endpoint.Fault α) : Except Error α :=
  result.mapError fun fault => (Error.ofFault fault).forResource address

/-- The calls that a task makes, with the answers to them, and what it comes to. -/
inductive Performs (provider : Provider σ) : Task → List Answered → Answer → Prop
  | refused {task : Task} {answer : Answer} (hrun : task.run provider = pure answer) :
      Performs provider task [] answer
  | read {address : Address} {identifier : String} {made : List Answered}
      {result : Except Endpoint.Fault (Option Endpoint.Observed)}
      (hwork : Endpoint.Reads identifier made result) :
      Performs provider (.read address (some identifier)) made
        ((shown address result).map fun read => some (Task.stateFound address read))
  | create {resource : Resource} {spec : Endpoint.Spec} {made : List Answered}
      {result : Except Endpoint.Fault Endpoint.Observed} (hspec : specOf resource = .ok spec)
      (hwork : Endpoint.Applies spec (.create provider.settings.importProtection) made result) :
      Performs provider (.create resource) made
        ((shown resource.address result).map fun observed =>
          some (stateOf resource.address observed))
  | update {address : Address} {identifier : String} {before : State} {desired : Resource}
      {spec : Endpoint.Spec} {made : List Answered}
      {result : Except Endpoint.Fault Endpoint.Observed}
      (hspec : updateSpec address identifier before desired = .ok spec)
      (hwork : Endpoint.Applies spec .update made result) :
      Performs provider (.update address identifier before desired) made
        ((shown address result).map fun observed => some (stateOf address observed))
  | delete {address : Address} {identifier : String} {made : List Answered}
      {result : Except Endpoint.Fault Unit} (hwork : Endpoint.Removes identifier made result) :
      Performs provider (.delete address identifier) made
        ((shown address result).map fun () => none)
  | importExisting {address : Address} {identifier : String} {made : List Answered}
      {result : Except Endpoint.Fault (Option Endpoint.Observed)}
      (hwork : Endpoint.Reads identifier made result) :
      Performs provider (.importExisting address identifier) made
        (((shown address result).bind (Task.stateImported address identifier)).map some)

/-! ### Tasks go by the rules -/

variable {provider : Provider σ}

/-- Work on endpoints within the scope of an operation is told as the work itself. -/
theorem told_run {address : Address} {work : Stop.Scope → StateM σ (Except Endpoint.Fault α)}
    {work' : Stop.Scope → StateM (σ × List Answered) (Except Endpoint.Fault α)}
    {Story : List Answered → Except Endpoint.Fault α → Prop} {f : Except Error α → β}
    {Whole : List Answered → β → Prop} (hwork : ∀ scope, Told (work scope) (work' scope) Story)
    (hstory : ∀ made result, Story made result → Whole made (f (shown address result))) :
    Told (do return f (← provider.run address work))
      (do return f (← provider.recorded.run address work')) Whole := by
  intro state earlier
  -- Recording does not change the clock, so the scope of the operation is the same.
  let scope := provider.operationScope state
  obtain ⟨made, hmade, htold⟩ := hwork scope state earlier
  refine ⟨made, ?_, hstory made _ htold⟩
  change (f (shown address (work' scope (state, earlier)).1), (work' scope (state, earlier)).2) = _
  rw [hmade]
  rfl

/-- A task that is answered without a call has a story without calls. -/
theorem told_pure {task : Task} {answer : Answer} {Whole : List Answered → Answer → Prop}
    (hrun : ∀ {σ : Type} {provider : Provider σ}, task.run provider = pure answer)
    (h : Whole [] answer) : Told (task.run provider) (task.run provider.recorded) Whole := by
  rw [hrun, hrun]
  exact .pure h

/-- A task that is answered without a call. -/
theorem told_refused {task : Task} {answer : Answer}
    (hrun : ∀ {σ : Type} {provider : Provider σ}, task.run provider = pure answer) :
    Told (task.run provider) (task.run provider.recorded) (Performs provider task) :=
  told_pure hrun (.refused hrun)

/-- **Every task goes by the rules.** -/
theorem told_performs (provider : Provider σ) (task : Task) :
    Told (task.run provider) (task.run provider.recorded) (Performs provider task) := by
  cases task with
  | read address identifier =>
    cases htype : resourceType address with
    | error error => exact told_refused (Task.run_read_of_error htype)
    | ok found =>
      cases identifier with
      | none => exact told_refused (Task.run_read_none htype)
      | some identifier =>
        rw [Task.run_read htype, Task.run_read htype]
        exact told_run (fun scope => Endpoint.told_read provider.client scope identifier)
          fun _ _ => .read
  | create resource =>
    cases hspec : specOf resource with
    | error error => exact told_refused (Task.run_create_of_error hspec)
    | ok spec =>
      rw [Task.run_create hspec, Task.run_create hspec]
      exact told_run (fun scope => Endpoint.told_apply provider.client scope spec _)
        fun _ _ => .create hspec
  | update address identifier before desired =>
    cases hspec : updateSpec address identifier before desired with
    | error error => exact told_refused (Task.run_update_of_error hspec)
    | ok spec =>
      rw [Task.run_update hspec, Task.run_update hspec]
      exact told_run (fun scope => Endpoint.told_apply provider.client scope spec .update)
        fun _ _ => .update hspec
  | delete address identifier =>
    cases htype : resourceType address with
    | error error => exact told_refused (Task.run_delete_of_error htype)
    | ok found =>
      rw [Task.run_delete htype, Task.run_delete htype]
      exact told_run (fun scope => Endpoint.told_remove provider.client scope identifier)
        fun _ _ => .delete
  | importExisting address identifier =>
    cases htype : resourceType address with
    | error error => exact told_refused (Task.run_importExisting_of_error htype)
    | ok found =>
      rw [Task.run_importExisting htype, Task.run_importExisting htype]
      exact told_run (fun scope => Endpoint.told_read provider.client scope identifier)
        fun _ _ => .importExisting

/-! ### The calls of a task -/

/-- The calls that the task makes, with the answers to them. -/
def Task.calls (task : Task) (provider : Provider σ) (start : σ) : List Answered :=
  (task.run provider.recorded (start, [])).2.2

/-- What is told of a task is told of its calls. -/
theorem Task.story {task : Task} {provider : Provider σ} {Story : List Answered → Answer → Prop}
    (h : Told (task.run provider) (task.run provider.recorded) Story) (start : σ) :
    Story (task.calls provider start) (task.run provider start).1 := by
  obtain ⟨made, hmade, hstory⟩ := h start []
  have hcalls : task.calls provider start = made := by
    rw [Task.calls, hmade, List.nil_append]
  rw [hcalls]
  exact hstory

end PrivateLink.Provider
