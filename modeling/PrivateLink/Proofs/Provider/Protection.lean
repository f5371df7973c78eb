import PrivateLink.Proofs.Cloud.Unsteady
import PrivateLink.Proofs.Endpoint.Lifecycle
import PrivateLink.Proofs.Provider.Accepted
import PrivateLink.Proofs.Provider.Task

/-!
# Endpoints that exist are protected

With import protection on, a provider asks whether there is an endpoint before it sends one. Over a
cloud in unsteady conditions, which may fail at any call and be stopped between any two, this keeps
every endpoint that the cloud holds from being overwritten, as long as the question is not answered
"not found" for an endpoint that is there.

* `Endpoint.apply_of_holds`: an endpoint that is held is not created;
* `create_protected`: in any history of creations, by the provider and by others.
-/

namespace PrivateLink

open Network Cloud

namespace Endpoint

variable (scope : Stop.Scope) {spec : Spec} {record : Wire.Endpoint} {state : Unsteady}

/-- The check for an endpoint that is held fails, and tells of the endpoint when it was found. -/
theorem checkAbsent_of_holds (h : state.Holds spec.resourceGroup spec.name record) :
    ∃ fault after,
      checkAbsent Unsteady.client scope spec (.create true) state = (.error fault, after) ∧
        after.Holds spec.resourceGroup spec.name record ∧
        (scope.interruption? (state.ahead 0).clock = none → (state.ahead 0).failGet = none →
          fault = .alreadyExists (record.id.getD spec.name)) := by
  have hafter := (Unsteady.readsPreserve_holds spec.resourceGroup spec.name record).getEndpoint
    scope spec.resourceGroup spec.name state h
  have hanswer := Unsteady.getEndpoint_of_holds h scope
  rcases hcall : Unsteady.client.getEndpoint scope spec.resourceGroup spec.name state with
    ⟨failure | found, after⟩
  · rw [hcall] at hafter hanswer
    -- The failure is not taken for the answer that there is no endpoint.
    have hfailure := Unsteady.isNotFound_of_heldAnswer h.candid hanswer.symm
    refine ⟨.request .checkExisting spec.name spec.resourceGroup failure, after, ?_, hafter, ?_⟩
    · simp only [checkAbsent, bind, StateT.bind, hcall, hfailure, Bool.false_eq_true, if_false]
      rfl
    · intro hlive hget
      simp [Unsteady.heldAnswer, hlive, hget] at hanswer
  · rw [hcall] at hafter hanswer
    cases Unsteady.eq_of_heldAnswer hanswer.symm
    refine ⟨_, after, ?_, hafter, fun _ _ => rfl⟩
    simp only [checkAbsent, bind, StateT.bind, hcall]
    rfl

/-- **An endpoint that is held is not created**: it stays as it is, and the fault tells of it when
it was found. -/
theorem apply_of_holds (h : state.Holds spec.resourceGroup spec.name record) :
    ∃ fault after,
      apply Unsteady.client scope spec (.create true) state = (.error fault, after) ∧
        after.Holds spec.resourceGroup spec.name record ∧
        (spec.checkAgreement = .ok () → scope.interruption? (state.ahead 0).clock = none →
          (state.ahead 0).failGet = none → fault = .alreadyExists (record.id.getD spec.name)) := by
  cases hagree : spec.checkAgreement with
  | error fault =>
    refine ⟨fault, state, ?_, h, nofun⟩
    rw [apply_of_disagreeing _ _ _ hagree]
    rfl
  | ok _ =>
    obtain ⟨fault, after, hcheck, hafter, hfault⟩ := checkAbsent_of_holds scope h
    refine ⟨fault, after, ?_, hafter, fun _ => hfault⟩
    simp only [apply, hagree, bind, StateT.bind, hcheck]
    rfl

/-- Creating an endpoint leaves every endpoint alone that is held. -/
theorem preserves_create (group name : String) (record : Wire.Endpoint) (spec : Spec) :
    Preserves (Unsteady.Holds group name record)
      (apply Unsteady.client scope spec (.create true)) := by
  -- Under its own name the endpoint is never sent, and under another it is not overwritten.
  by_cases hkey : (group, name) = (spec.resourceGroup, spec.name)
  · cases hkey
    intro state h
    obtain ⟨fault, after, happly, hafter, -⟩ := apply_of_holds scope h
    rw [happly]
    exact hafter
  · exact preserves_apply (Unsteady.readsPreserve_holds group name record) _
      (Unsteady.preserves_beginPut scope _ hkey)

end Endpoint

namespace Provider

/-- The provider over clouds in unsteady conditions. -/
def unsteady (settings : Settings) (scope : Stop.Scope) : Provider Unsteady where
  client := Unsteady.client
  settings
  scope

/-- Something by which endpoints come about. -/
inductive Creation where
  /-- The provider is asked to create a resource. -/
  | byProvider (resource : Resource)
  /-- Someone else puts an endpoint into the cloud, or replaces the one that is there. -/
  | byOthers (group name : String) (record : Wire.Endpoint)

namespace Creation

/-- What comes of the creation. -/
def run (provider : Provider Unsteady) (state : Unsteady) : Creation → Unsteady
  | .byProvider resource => ((Task.create resource).run provider state).2
  | .byOthers group name record =>
    { state with
      cloud :=
        { state.cloud with endpoints := state.cloud.endpoints.put group name record } }

/-- What comes of creations, one after the other. -/
def runAll (provider : Provider Unsteady) (creations : List Creation) (state : Unsteady) :
    Unsteady :=
  creations.foldl (run provider) state

/-- Someone else puts an endpoint under the resource group and name. -/
def IsByOthersAt (group name : String) : Creation → Prop
  | .byProvider _ => False
  | .byOthers otherGroup other _ => (group, name) = (otherGroup, other)

end Creation

variable {σ α : Type} {settings : Settings} {scope : Stop.Scope} {group name : String}
  {record : Wire.Endpoint} {state : Unsteady}

/-- An operation preserves what its work preserves. -/
theorem preserves_run {provider : Provider σ} {Inv : σ → Prop} (address : Address)
    {work : Stop.Scope → StateM σ (Except Endpoint.Fault α)}
    (hwork : ∀ scope, Preserves Inv (work scope)) : Preserves Inv (provider.run address work) :=
  fun state h => hwork (provider.operationScope state) state h

/-- What creating a resource does to the state, the work on its endpoint does. -/
theorem preserves_create {provider : Provider σ} {Inv : σ → Prop} (resource : Resource)
    (hwork : ∀ scope spec, Preserves Inv
      (Endpoint.apply provider.client scope spec (.create provider.settings.importProtection))) :
    Preserves Inv ((Task.create resource).run provider) := by
  cases hspec : specOf resource with
  | error error =>
    rw [Task.run_create_of_error hspec]
    exact .pure _
  | ok spec =>
    rw [Task.run_create hspec]
    exact (preserves_run resource.address fun scope => hwork scope spec).bind fun _ => .pure _

/-- A creation of another endpoint leaves the endpoint alone that is held. -/
theorem Creation.holds_run (himport : settings.importProtection = true) {creation : Creation}
    (hothers : ¬ creation.IsByOthersAt group name) (h : state.Holds group name record) :
    (creation.run (unsteady settings scope) state).Holds group name record := by
  cases creation with
  | byProvider resource =>
    refine Provider.preserves_create resource (fun scope spec => ?_) state h
    change Preserves _
      (Endpoint.apply Unsteady.client scope spec (.create settings.importProtection))
    rw [himport]
    exact Endpoint.preserves_create scope group name record spec
  | byOthers otherGroup other _ =>
    exact ⟨(Shelf.get?_put ..).trans ((if_neg hothers).trans h.held), h.candid⟩

theorem Creation.holds_runAll (himport : settings.importProtection = true)
    {creations : List Creation}
    (hothers : ∀ creation ∈ creations, ¬ creation.IsByOthersAt group name)
    (h : state.Holds group name record) :
    (runAll (unsteady settings scope) creations state).Holds group name record := by
  induction creations generalizing state with
  | nil => exact h
  | cons creation creations ih =>
    obtain ⟨hfirst, hrest⟩ := List.forall_mem_cons.1 hothers
    exact ih hrest (holds_run himport hfirst h)

theorem Creation.candid_run (creation : Creation) (h : state.Candid) :
    (creation.run (unsteady settings scope) state).Candid := by
  cases creation with
  | byProvider resource =>
    refine Provider.preserves_create resource (fun scope spec => ?_) state h
    have hput := Unsteady.preserves_candid
      (Cloud.client.beginPut scope spec.resourceGroup spec.name spec.parameters)
    exact Endpoint.preserves_apply Unsteady.readsPreserve_candid _ hput
  | byOthers => exact h

theorem Creation.candid_runAll (creations : List Creation) (h : state.Candid) :
    (runAll (unsteady settings scope) creations state).Candid := by
  induction creations generalizing state with
  | nil => exact h
  | cons creation creations ih => exact ih (creation.candid_run h)

/-- The error for what exists already names it. -/
theorem message_alreadyExists (type id : String) : ∃ before after,
    (Error.alreadyExists type id).message = before ++ Text.quoted id ++ after := by
  have regroup : ∀ a q b c d t e : String,
      a ++ q ++ b ++ c ++ d ++ t ++ e = a ++ q ++ (b ++ c ++ d ++ t ++ e) := by
    intros
    simp only [String.append_assoc]
  unfold Error.alreadyExists
  exact ⟨"A resource with the ID ", _, regroup ..⟩

/-- **A resource whose endpoint is held is not created.** -/
theorem create_of_holds (himport : settings.importProtection = true) {resource : Resource}
    (hgroup : resource.attributes.lookup "resource_group_name" = some (.string group))
    (hname : resource.attributes.lookup "name" = some (.string name))
    (h : state.Holds group name record) :
    ∃ error, ((Task.create resource).run (unsteady settings scope) state).1 = .error error ∧
      ∀ spec, specOf resource = .ok spec → spec.checkAgreement = .ok () →
        ((unsteady settings scope).operationScope state).interruption? (state.ahead 0).clock =
          none →
        (state.ahead 0).failGet = none →
        error = (Error.alreadyExists Error.ofFault.endpointType (record.id.getD name)).forResource
          resource.address := by
  cases hspec : specOf resource with
  | error error =>
    exact ⟨error, by rw [Task.run_create_of_error hspec]; rfl, nofun⟩
  | ok spec =>
    obtain ⟨hspecName, hspecGroup⟩ := Endpoint.lookup_of_ofAttributes (accepted_of_specOf hspec).2
    -- The endpoint that is worked on is the one that the attributes name.
    cases hname.symm.trans hspecName
    cases hgroup.symm.trans hspecGroup
    let operation := (unsteady settings scope).operationScope state
    obtain ⟨fault, after, happly, -, hfault⟩ := Endpoint.apply_of_holds operation h
    refine ⟨(Error.ofFault fault).forResource resource.address, ?_, ?_⟩
    · rw [Task.run_create hspec]
      change (Except.mapError _ (Endpoint.apply Unsteady.client operation spec
        (.create settings.importProtection) state).1).map _ = _
      rw [himport, happly]
      rfl
    · rintro _ hsame hagree hlive hget
      cases hsame
      rw [hfault hagree hlive hget]
      rfl

/-- **Endpoints that exist are protected.** Whatever has come about before in a cloud in unsteady
conditions that is candid about endpoints: an endpoint that is held by now is never changed or
removed by creations, except where others replace it themselves. To create a resource under its
resource group and name is an error; and when the resource is accepted, its settings agree, the
operation is not over and asking for the endpoint is not made to fail, the error is of the kind
"already exists" and names the endpoint. -/
theorem create_protected (settings : Settings) (himport : settings.importProtection = true)
    (scope : Stop.Scope) {start : Unsteady} (hcandid : start.Candid)
    (earlier later : List Creation) :
    let provider := unsteady settings scope
    let here := Creation.runAll provider earlier start
    ∀ group name record, here.cloud.endpoints.get? group name = some record →
      ((∀ creation ∈ later, ¬ creation.IsByOthersAt group name) →
        (Creation.runAll provider later here).cloud.endpoints.get? group name = some record) ∧
      ∀ resource : Resource,
        resource.attributes.lookup "resource_group_name" = some (.string group) →
        resource.attributes.lookup "name" = some (.string name) →
        ∃ error, ((Task.create resource).run provider here).1 = .error error ∧
          ∀ spec, specOf resource = .ok spec → spec.checkAgreement = .ok () →
            (provider.operationScope here).interruption? (here.ahead 0).clock = none →
            (here.ahead 0).failGet = none →
            error.kind = .alreadyExists ∧ ∃ before after,
              error.message = before ++ Text.quoted (record.id.getD name) ++ after := by
  intro provider here group name record hheld
  have hholds : here.Holds group name record := ⟨hheld, Creation.candid_runAll earlier hcandid⟩
  refine ⟨fun hothers => (Creation.holds_runAll himport hothers hholds).held, ?_⟩
  intro resource hgroup hname
  obtain ⟨error, hrun, herror⟩ := create_of_holds himport hgroup hname hholds
  refine ⟨error, hrun, fun spec hspec hagree hlive hget => ?_⟩
  rw [herror spec hspec hagree hlive hget]
  exact ⟨rfl, message_alreadyExists Error.ofFault.endpointType (record.id.getD name)⟩

/-- An endpoint that others have put into the cloud, without an identifier, is not overwritten. -/
theorem create_of_others :
    let record : Wire.Endpoint := { location := some "theirs" }
    let resource : Resource :=
      { address := { type := "private_link_endpoint", name := "main" }
        attributes :=
          [("name", .string "e"), ("location", .string "ours"),
           ("resource_group_name", .string "g"), ("subnet_id", .string "n")] }
    let settings : Settings := { subscription := "s", importProtection := true }
    let provider := unsteady settings .background
    let start : Unsteady := { cloud := {} }
    let here := Creation.runAll provider [.byOthers "g" "e" record] start
    start.Candid ∧ here.cloud.endpoints.get? "g" "e" = some record ∧
      (Creation.runAll provider [.byProvider resource] here).cloud.endpoints.get? "g" "e" =
        some record ∧
      ∃ error, ((Task.create resource).run provider here).1 = .error error ∧
        error.kind = .alreadyExists ∧ ∃ before after,
          error.message = before ++ Text.quoted "e" ++ after := by
  intro record resource settings provider start here
  have hcandid : start.Candid := nofun
  have hheld : here.cloud.endpoints.get? "g" "e" = some record := rfl
  obtain ⟨hkept, hcreate⟩ := create_protected settings rfl .background hcandid
    [.byOthers "g" "e" record] [.byProvider resource] "g" "e" record hheld
  obtain ⟨error, herror, hnamed⟩ := hcreate resource rfl rfl
  have hothers : ∀ creation ∈ [Creation.byProvider resource], ¬ creation.IsByOthersAt "g" "e" := by
    intro creation hmem
    rw [List.mem_singleton.1 hmem]
    exact id
  have hspec : specOf resource =
      .ok { name := "e", location := "ours", resourceGroup := "g", subnetId := "n" } := rfl
  have hlive : (provider.operationScope here).interruption? (here.ahead 0).clock = none := by
    decide +kernel
  have hnames : error.kind = .alreadyExists ∧ ∃ before after,
      error.message = before ++ Text.quoted "e" ++ after := hnamed _ hspec rfl hlive rfl
  -- The states are the same as they stand, and are not to be worked out.
  with_reducible exact ⟨hcandid, hheld, hkept hothers, error, herror, hnames⟩

end Provider

end PrivateLink
