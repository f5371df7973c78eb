import PrivateLink.Proofs.Cloud.Calls

/-!
# Clouds in unsteady conditions

Between any two calls, whoever runs a cloud may let time pass or give the stop signal, and may
choose which calls fail from then on. `Unsteady` is a cloud with all that is still to come of this,
and `Unsteady.client` makes each call under the conditions of its moment.

* `Unsteady.readsPreserve_holds`, `Unsteady.preserves_beginPut`: calls that leave an endpoint alone;
* `Unsteady.getEndpoint_of_holds`: the answer when an endpoint that is held is asked for.
-/

namespace PrivateLink.Cloud

open Network

/-- What may change around a cloud from one call to the next. -/
structure Conditions where
  clock : Clock := {}
  failGet : Option Injected := none
  failBegin : Option Injected := none
  failWait : Option Injected := none
  failInterface : Option Injected := none
  attachInterfaces : Bool := true
  emptyIds : Bool := false

/-- The cloud under other conditions, with all that it holds. -/
def under (conditions : Conditions) (cloud : Cloud) : Cloud :=
  { cloud with
    clock := conditions.clock
    failGet := conditions.failGet
    failBegin := conditions.failBegin
    failWait := conditions.failWait
    failInterface := conditions.failInterface
    attachInterfaces := conditions.attachInterfaces
    emptyIds := conditions.emptyIds }

/-- A cloud, as it is now, and the conditions of the calls to come. -/
structure Unsteady where
  cloud : Cloud
  ahead : Nat → Conditions := fun _ => {}

namespace Unsteady

variable {α : Type}

/-- The call, made under the conditions of its moment. -/
def call (made : Call Cloud α) : Call Unsteady α := fun state =>
  let (answer, cloud) := made (state.cloud.under (state.ahead 0))
  (answer, { cloud, ahead := fun later => state.ahead (later + 1) })

/-- The client of clouds in unsteady conditions. -/
def client : Client Unsteady where
  clock state := state.cloud.clock
  getEndpoint scope group name := call (Cloud.client.getEndpoint scope group name)
  beginPut scope group name parameters := call (Cloud.client.beginPut scope group name parameters)
  beginDelete scope group name := call (Cloud.client.beginDelete scope group name)
  wait scope operation := call (Cloud.client.wait scope operation)
  getInterface scope group name := call (Cloud.client.getInterface scope group name)

/-- No call for an endpoint is made to fail as if the endpoint did not exist. -/
def Candid (state : Unsteady) : Prop :=
  ∀ moment injected, (state.ahead moment).failGet = some injected →
    injected.failure.isNotFound = false

/-- The record is held under the resource group and name. -/
structure Holds (group name : String) (record : Wire.Endpoint) (state : Unsteady) : Prop where
  held : state.cloud.endpoints.get? group name = some record
  candid : state.Candid

variable {group name : String} {record : Wire.Endpoint} {state : Unsteady}

/-! ### Calls that leave an endpoint alone -/

/-- A call that leaves alone what lies under the key preserves it, whatever the conditions. -/
theorem preserves_call {made : Call Cloud α}
    (h : ∀ cloud, (made cloud).2.endpoints.get? group name = cloud.endpoints.get? group name) :
    Preserves (Holds group name record) (call made) :=
  fun _ hholds => ⟨(h _).trans hholds.held, fun moment => hholds.candid (moment + 1)⟩

/-- What is still to come is no less candid for a call that is made. -/
theorem preserves_candid (made : Call Cloud α) : Preserves Candid (call made) :=
  fun _ hcandid moment => hcandid (moment + 1)

theorem readsPreserve_candid : client.ReadsPreserve Candid where
  getEndpoint _ _ _ := preserves_candid _
  getInterface _ _ _ := preserves_candid _
  wait _ _ := preserves_candid _

theorem preserves_of_looks {made : Call Cloud α} (h : Looks made) :
    Preserves (Holds group name record) (call made) :=
  preserves_call fun cloud => by rw [(holds_of_unrecorded (h cloud).2).1]

/-- Only putting and deleting endpoints change what is held. -/
theorem readsPreserve_holds (group name : String) (record : Wire.Endpoint) :
    client.ReadsPreserve (Holds group name record) where
  getEndpoint _ _ _ := preserves_of_looks (readsLook.getEndpoint _ _ _)
  getInterface _ _ _ := preserves_of_looks (readsLook.getInterface _ _ _)
  wait _ _ := preserves_of_looks (readsLook.wait _ _)

/-- Putting an endpoint leaves all others alone. -/
theorem get?_store (cloud : Cloud) {otherGroup other : String} {parameters : Wire.Endpoint}
    (hne : (group, name) ≠ (otherGroup, other)) :
    (cloud.store otherGroup other parameters).endpoints.get? group name =
      cloud.endpoints.get? group name := by
  rw [store_eq_attach]
  exact (Shelf.get?_put ..).trans (if_neg hne)

theorem preserves_beginPut {otherGroup other : String} (scope : Stop.Scope)
    (parameters : Wire.Endpoint) (hne : (group, name) ≠ (otherGroup, other)) :
    Preserves (Holds group name record) (client.beginPut scope otherGroup other parameters) := by
  refine preserves_call fun cloud => ?_
  change (Cloud.client.beginPut scope otherGroup other parameters cloud).2.endpoints.get? _ _ = _
  rw [beginPut_eq]
  dsimp only
  split
  next => rfl
  next => rfl
  next => exact get?_store (cloud.record _) hne

/-! ### Asking for an endpoint that is held -/

/-- What is answered when an endpoint that is held is asked for. -/
def heldAnswer (scope : Stop.Scope) (conditions : Conditions) (record : Wire.Endpoint) :
    Except Failure Wire.Endpoint :=
  match scope.interruption? conditions.clock, conditions.failGet with
  | some interruption, _ => .error (.interrupted interruption)
  | none, some injected => .error injected.failure
  | none, none => .ok record

theorem getEndpoint_of_holds (h : Holds group name record state) (scope : Stop.Scope) :
    (client.getEndpoint scope group name state).1 =
      heldAnswer scope (state.ahead 0) record := by
  have hclock : (state.cloud.under (state.ahead 0)).clock = (state.ahead 0).clock := rfl
  -- The call is recorded before it is answered, which changes neither what fails nor what is held.
  have hfail : ∀ call, ((state.cloud.under (state.ahead 0)).record call).failGet =
      (state.ahead 0).failGet := fun _ => rfl
  have hheld : ∀ call, ((state.cloud.under (state.ahead 0)).record call).endpoints.get? group name =
      some record := fun _ => h.held
  change (guarded _ _ _ _).1 = _
  unfold guarded heldAnswer
  rw [hclock]
  cases scope.interruption? (state.ahead 0).clock with
  | some interruption => rfl
  | none =>
    dsimp only
    rw [hfail]
    cases (state.ahead 0).failGet with
    | some injected => rfl
    | none => simp only [look, hheld]

/-- What is found is the endpoint that is held. -/
theorem eq_of_heldAnswer {scope : Stop.Scope} {conditions : Conditions} {found : Wire.Endpoint}
    (h : heldAnswer scope conditions record = .ok found) : found = record := by
  unfold heldAnswer at h
  split at h
  next => cases h
  next => cases h
  next => exact (Except.ok.inj h).symm

/-- An endpoint that is held is never found not to exist. -/
theorem isNotFound_of_heldAnswer (h : state.Candid) {scope : Stop.Scope} {failure : Failure}
    (hfailure : heldAnswer scope (state.ahead 0) record = .error failure) :
    failure.isNotFound = false := by
  unfold heldAnswer at hfailure
  split at hfailure
  next =>
    cases hfailure
    rfl
  next injected _ hinjected =>
    cases hfailure
    exact h 0 injected hinjected
  next => cases hfailure

end Unsteady

end PrivateLink.Cloud
