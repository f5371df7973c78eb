import PrivateLink.Proofs.Cloud.Refinement
import PrivateLink.Proofs.Endpoint.Lifecycle
import PrivateLink.Proofs.Provider.Accepted

/-!
# The provider over a cloud keeps a store

The provider over the empty cloud answers every task as the abstract store does that holds specs
under their resource group and name, whatever tasks came before, and in the end the endpoints in the
cloud are those that the service makes of the specs in the store.

* `Task.follows`: one task, over any cloud that reflects a store;
* `Task.runAll_eq_stepAll`: all tasks, from the empty cloud on.
-/

namespace PrivateLink.Provider

open Cloud Endpoint
open Manager.Identifier (IsSegment)

/-- The provider over a cloud in memory. -/
def overCloud (settings : Settings) (scope : Stop.Scope) : Provider Cloud where
  client := Cloud.client
  settings
  scope

variable {settings : Settings} {scope : Stop.Scope} {clock : Clock} {store after : Store}

/-- An operation is the work that it does within its scope; its faults are told of the resource. -/
theorem yields_run {α : Type} (address : Address)
    {work : Stop.Scope → StateM Cloud (Except Fault α)} {result : Except Fault α}
    (hwork : Yields clock (work (scope.within clock settings.operationTimeout)) store result
      after) :
    Yields clock ((overCloud settings scope).run address work) store
      (result.mapError (faulty address)) after := by
  intro cloud hcloud
  obtain ⟨done, hdone, hafter⟩ := hwork cloud hcloud
  have hscope : (overCloud settings scope).operationScope cloud =
      scope.within clock settings.operationTimeout := by
    rw [← hcloud.clock]
    rfl
  refine ⟨done, ?_, hafter⟩
  show (let (result, done) := work ((overCloud settings scope).operationScope cloud) cloud
    (result.mapError (faulty address), done)) = _
  rw [hscope, hdone]

namespace Task

variable {task : Task}

/-- The provider does the task as the store does. -/
def Follows (settings : Settings) (scope : Stop.Scope) (clock : Clock) (store : Store)
    (task : Task) : Prop :=
  Yields clock (task.run (overCloud settings scope)) store
    (task.step settings.importProtection store).1 (task.step settings.importProtection store).2

/-- A task that is answered at once, in the way of the store. -/
theorem Follows.of_pure {answer : Answer}
    (hrun : task.run (overCloud settings scope) = pure answer)
    (hstep : task.step settings.importProtection store = (answer, store)) :
    task.Follows settings scope clock store := by
  rw [Follows, hstep]
  exact .of_eq_pure hrun

/-- A task that is work on endpoints, whose result is shown in the way of the store. -/
theorem Follows.of_run {α : Type} {address : Address}
    {work : Stop.Scope → StateM Cloud (Except Fault α)} {shown : Except Error α → Answer}
    {result : Except Fault α}
    (hrun : task.run (overCloud settings scope) = do
      let result ← (overCloud settings scope).run address work
      return shown result)
    (hwork : Yields clock (work (scope.within clock settings.operationTimeout)) store result
      after)
    (hstep : task.step settings.importProtection store =
      (shown (result.mapError (faulty address)), after)) :
    task.Follows settings scope clock store := by
  rw [Follows, hrun, hstep]
  exact (yields_run address hwork).bind (.pure _)

theorem follows_read
    (hlive : (scope.within clock settings.operationTimeout).interruption? clock = none)
    (store : Store) (address : Address) (identifier : Option String) :
    (Task.read address identifier).Follows settings scope clock store := by
  cases htype : resourceType address with
  | error error =>
    refine .of_pure (run_read_of_error htype) (step_of_error ?_)
    simp only [effect, htype]
    rfl
  | ok found =>
    cases identifier with
    | none =>
      refine .of_pure (run_read_none htype) (step_of_ok ?_)
      simp only [effect, htype]
      rfl
    | some identifier =>
      cases hid : parseId identifier with
      | error fault =>
        refine .of_run (run_read htype) (.of_eq_pure (read_of_invalid _ _ hid)) (step_of_error ?_)
        simp only [effect, htype, bind, Except.bind, keyOf_of_error hid]
      | ok key =>
        refine .of_run (run_read htype) (yields_read hlive store hid) (step_of_ok ?_)
        simp only [effect, htype, bind, Except.bind, keyOf_of_ok hid]
        rfl

theorem follows_create
    (hlive : (scope.within clock settings.operationTimeout).interruption? clock = none)
    (store : Store) {resource : Resource}
    (hname : ∀ name, resource.attributes.lookup "name" = some (.string name) →
      '/' ∉ name.toList) :
    (Task.create resource).Follows settings scope clock store := by
  cases hspec : specOf resource with
  | error error =>
    refine .of_pure (run_create_of_error hspec) (step_of_error ?_)
    simp only [effect, hspec]
    rfl
  | ok spec =>
    cases hagree : spec.checkAgreement with
    | error fault =>
      refine .of_run (run_create hspec) (.of_eq_pure (apply_of_disagreeing _ _ _ hagree))
        (step_of_error ?_)
      simp only [effect, hspec, bind, Except.bind, agree_of_error hagree]
    | ok =>
      have hgroup : IsSegment spec.resourceGroup := isSegment_group_of_specOf hspec
      have hsegment : IsSegment spec.name :=
        ⟨name_ne_empty_of_specOf hspec,
          hname _ (lookup_of_ofAttributes (accepted_of_specOf hspec).2).1⟩
      by_cases hoccupied : (settings.importProtection && (store spec.key).isSome) = true
      · have hwork := yields_apply_occupied hlive (.create settings.importProtection) hagree
          hoccupied
        refine .of_run (run_create hspec) hwork (step_of_error ?_)
        simp only [effect, hspec, bind, Except.bind, agree_of_ok hagree, if_pos hoccupied]
      · have hwork := yields_apply hlive store (.create settings.importProtection) hagree hgroup
          hsegment hoccupied
        refine .of_run (run_create hspec) hwork (step_of_ok ?_)
        simp only [effect, hspec, bind, Except.bind, agree_of_ok hagree, if_neg hoccupied]
        rfl

theorem follows_update
    (hlive : (scope.within clock settings.operationTimeout).interruption? clock = none)
    (store : Store) (address : Address) (identifier : String) (before : State)
    (desired : Resource) :
    (Task.update address identifier before desired).Follows settings scope clock store := by
  cases hspec : updateSpec address identifier before desired with
  | error error =>
    refine .of_pure (run_update_of_error hspec) (step_of_error ?_)
    simp only [effect, hspec]
    rfl
  | ok spec =>
    cases hagree : spec.checkAgreement with
    | error fault =>
      refine .of_run (run_update hspec) (.of_eq_pure (apply_of_disagreeing _ _ _ hagree))
        (step_of_error ?_)
      simp only [effect, hspec, bind, Except.bind, agree_of_error hagree]
    | ok =>
      -- The name needs no condition here: it is the one that the identifier gave.
      obtain ⟨hdesired, group, hid⟩ := accepted_of_updateSpec hspec
      have hgroup : IsSegment spec.resourceGroup := isSegment_group_of_specOf hdesired
      have hname : IsSegment spec.name := (isSegment_of_parseId hid).2
      have hwork := yields_apply hlive store .update hagree hgroup hname Bool.false_ne_true
      refine .of_run (run_update hspec) hwork (step_of_ok ?_)
      simp only [effect, hspec, bind, Except.bind, agree_of_ok hagree]
      rfl

theorem follows_delete
    (hlive : (scope.within clock settings.operationTimeout).interruption? clock = none)
    (store : Store) (address : Address) (identifier : String) :
    (Task.delete address identifier).Follows settings scope clock store := by
  cases htype : resourceType address with
  | error error =>
    refine .of_pure (run_delete_of_error htype) (step_of_error ?_)
    simp only [effect, htype]
    rfl
  | ok found =>
    cases hid : parseId identifier with
    | error fault =>
      refine .of_run (run_delete htype) (.of_eq_pure (remove_of_invalid _ _ hid)) (step_of_error ?_)
      simp only [effect, htype, bind, Except.bind, keyOf_of_error hid]
    | ok key =>
      refine .of_run (run_delete htype) (yields_remove hlive store hid) (step_of_ok ?_)
      simp only [effect, htype, bind, Except.bind, keyOf_of_ok hid]
      rfl

theorem follows_importExisting
    (hlive : (scope.within clock settings.operationTimeout).interruption? clock = none)
    (store : Store) (address : Address) (identifier : String) :
    (Task.importExisting address identifier).Follows settings scope clock store := by
  cases htype : resourceType address with
  | error error =>
    refine .of_pure (run_importExisting_of_error htype) (step_of_error ?_)
    simp only [effect, htype]
    rfl
  | ok found =>
    cases hid : parseId identifier with
    | error fault =>
      refine .of_run (run_importExisting htype) (.of_eq_pure (read_of_invalid _ _ hid))
        (step_of_error ?_)
      simp only [effect, htype, bind, Except.bind, keyOf_of_error hid]
    | ok key =>
      obtain ⟨group, name⟩ := key
      have hwork := yields_read hlive store hid
      -- Whether the import is refused depends on what is held.
      cases hheld : store (group, name) with
      | none =>
        rw [hheld] at hwork
        refine .of_run (run_importExisting htype) hwork (step_of_error ?_)
        simp only [effect, htype, bind, Except.bind, keyOf_of_ok hid, hheld]
        rfl
      | some spec =>
        rw [hheld] at hwork
        refine .of_run (run_importExisting htype) hwork (step_of_ok ?_)
        simp only [effect, htype, bind, Except.bind, keyOf_of_ok hid, hheld]
        rfl

/-- The name that a task gives to a new endpoint has no slash in it. -/
def NamesSegment : Task → Prop
  | .create resource => ∀ name, resource.attributes.lookup "name" = some (.string name) →
    '/' ∉ name.toList
  | _ => True

/-- **The provider does every task as the store does.** -/
theorem follows
    (hlive : (scope.within clock settings.operationTimeout).interruption? clock = none)
    (store : Store) {task : Task} (hname : task.NamesSegment) :
    task.Follows settings scope clock store := by
  cases task with
  | read address identifier => exact follows_read hlive store address identifier
  | create resource => exact follows_create hlive store hname
  | update address identifier before desired =>
    exact follows_update hlive store address identifier before desired
  | delete address identifier => exact follows_delete hlive store address identifier
  | importExisting address identifier =>
    exact follows_importExisting hlive store address identifier

/-- The tasks are done one after the other as the store does them. -/
theorem yields_runAll
    (hlive : (scope.within clock settings.operationTimeout).interruption? clock = none)
    (store : Store) {tasks : List Task} (hnames : ∀ task ∈ tasks, task.NamesSegment) :
    Yields clock (runAll (overCloud settings scope) tasks) store
      (stepAll settings.importProtection tasks store).1
      (stepAll settings.importProtection tasks store).2 := by
  induction tasks generalizing store with
  | nil => exact .pure _
  | cons task tasks ih =>
    have hfirst := follows hlive store (hnames task List.mem_cons_self)
    have hrest := ih (task.step settings.importProtection store).2 fun other hmem =>
      hnames other (List.mem_cons_of_mem task hmem)
    exact hfirst.bind (hrest.bind (.pure _))

/-- **The provider over the empty cloud is the abstract store.** When nothing stops operations and no
endpoint is to be created under a name with a slash, which no identifier could hold, the answers to
tasks are those of the store, one after the other, and what lies in the cloud in the end is what the
service makes of the specs in the store. -/
theorem runAll_eq_stepAll (settings : Settings) (scope : Stop.Scope) (clock : Clock)
    (tasks : List Task)
    (hlive : (scope.within clock settings.operationTimeout).interruption? clock = none)
    (hnames : ∀ resource, .create resource ∈ tasks →
      ∀ name, resource.attributes.lookup "name" = some (.string name) → '/' ∉ name.toList) :
    let done := runAll { client := Cloud.client, settings, scope } tasks { clock }
    let expected := stepAll settings.importProtection tasks Store.empty
    done.1 = expected.1 ∧
      ∀ group name, done.2.endpoints.get? group name =
        (expected.2 (group, name)).map Cloud.recordOf := by
  intro done expected
  have hsegments : ∀ task ∈ tasks, task.NamesSegment := by
    intro task hmem
    cases task with
    | create resource => exact hnames resource hmem
    | read | update | delete | importExisting => trivial
  obtain ⟨final, hdone, hfinal⟩ :=
    yields_runAll hlive Store.empty hsegments { clock } (.empty clock)
  have heq : done = (expected.1, final) := hdone
  rw [heq]
  exact ⟨rfl, hfinal.endpoints⟩

/-- An endpoint is created, not created again, read back and deleted. -/
theorem runAll_create_twice :
    let address : Address := { type := "private_link_endpoint", name := "r" }
    let resource : Resource :=
      { address
        attributes :=
          [("name", .string "e"), ("location", .string "West Europe"),
           ("resource_group_name", .string "g"), ("subnet_id", .string "n")] }
    let spec : Spec :=
      { name := "e", location := "West Europe", resourceGroup := "g", subnetId := "n" }
    let id := endpointId "g" "e"
    let provider : Provider Cloud :=
      { client := Cloud.client
        settings := { subscription := "s", importProtection := true } }
    let tasks : List Task :=
      [.create resource, .create resource, .read address (some id), .delete address id,
       .importExisting address id]
    (runAll provider tasks {}).1 =
      [.ok (some (stateWritten address spec)), .error (faulty address (.alreadyExists id)),
       .ok (some (stateWritten address spec)), .ok none,
       .error (nothingToImport address id)] := by
  intro address resource spec id provider tasks
  have hspec : specOf resource = .ok spec := rfl
  have hid : parseId id = .ok ("g", "e") := parseId_endpointId (by decide) (by decide)
  have hnames : ∀ resource, .create resource ∈ tasks →
      ∀ name, resource.attributes.lookup "name" = some (.string name) → '/' ∉ name.toList := by
    intro created hmem name hname
    simp only [tasks, List.mem_cons, create.injEq, reduceCtorEq, List.not_mem_nil, or_false,
      or_self] at hmem
    rw [hmem] at hname
    cases hname
    decide
  have hstore := runAll_eq_stepAll provider.settings provider.scope {} tasks rfl hnames
  refine hstore.1.trans ?_
  obtain ⟨found, htype⟩ : ∃ found, resourceType address = .ok found := ⟨_, rfl⟩
  have hagreed : agree address spec = .ok () := rfl
  have hkey : keyOf address id = .ok ("g", "e") := keyOf_of_ok hid
  have hfree : effect true (.create resource) Store.empty =
      .ok (some (stateWritten address spec), Store.empty.write spec) := by
    simp only [effect, hspec, bind, Except.bind, resource, hagreed]
    rfl
  have hheld : Store.empty.write spec ("g", "e") = some spec.normal := rfl
  have hoccupied : effect true (.create resource) (Store.empty.write spec) =
      .error (faulty address (.alreadyExists id)) := by
    simp only [effect, hspec, bind, Except.bind, resource, hagreed]
    rfl
  have hread : effect true (.read address (some id)) (Store.empty.write spec) =
      .ok (some (stateWritten address spec), Store.empty.write spec) := by
    simp only [effect, htype, bind, Except.bind, hkey, hheld]
    rfl
  have hdelete : effect true (.delete address id) (Store.empty.write spec) =
      .ok (none, (Store.empty.write spec).erase ("g", "e")) := by
    simp only [effect, htype, bind, Except.bind, hkey]
    rfl
  have himport : effect true (.importExisting address id)
      ((Store.empty.write spec).erase ("g", "e")) = .error (nothingToImport address id) := by
    simp only [effect, htype, bind, Except.bind, hkey]
    rfl
  simp only [tasks, stepAll, step, provider, hfree, hoccupied, hread, hdelete, himport]

end Task

end PrivateLink.Provider
