import PrivateLink.Proofs.Cloud.Shelf
import PrivateLink.Proofs.Endpoint.Preservation

/-!
# The calls of a cloud

Every call of a cloud goes on record, and nobody looks at the record. Most calls only look at the
cloud (`Looks`): their answers do not depend on the record, and they change nothing else. So it is
with all work that is made of such calls. A call that puts an endpoint stores it on the shelf of
endpoints, and its interface on that of interfaces.

* `readsLook`, `composes_looks`: calls that only look, and work made of them;
* `store_eq_attach`, `beginPut_eq`: what is stored when an endpoint is put.
-/

namespace PrivateLink.Cloud

open Network

variable {α β : Type} {scope : Stop.Scope} {cloud : Cloud}

/-- The cloud without its record of calls. -/
def unrecorded (cloud : Cloud) : Cloud :=
  { cloud with calls := [] }

/-- Clouds that are the same but for the calls on record hold the same. -/
theorem holds_of_unrecorded {other : Cloud} (h : other.unrecorded = cloud.unrecorded) :
    other.endpoints = cloud.endpoints ∧ other.interfaces = cloud.interfaces := by
  obtain ⟨-, hendpoints, hinterfaces, -⟩ := Cloud.mk.inj h
  exact ⟨hendpoints, hinterfaces⟩

/-! ### Work that only looks -/

/-- The work only looks at the cloud: it changes nothing but the record of calls, on which its
result does not depend. -/
def Looks (work : StateM Cloud α) : Prop :=
  ∀ cloud, (work cloud).1 = (work cloud.unrecorded).1 ∧
    (work cloud).2.unrecorded = cloud.unrecorded

theorem Looks.pure (result : α) : Looks (Pure.pure result) :=
  fun _ => ⟨rfl, rfl⟩

/-- The result is the same over clouds that are the same but for the calls on record. -/
theorem Looks.result_eq {work : StateM Cloud α} (h : Looks work) {other : Cloud}
    (hsame : other.unrecorded = cloud.unrecorded) : (work other).1 = (work cloud).1 := by
  rw [(h other).1, (h cloud).1, hsame]

theorem Looks.kept {work : StateM Cloud α} (h : Looks work) {result : α} {done : Cloud}
    (hdone : work cloud = (result, done)) : done.unrecorded = cloud.unrecorded := by
  have hkept := (h cloud).2
  rwa [hdone] at hkept

/-- Work that only looks leaves the cloud as it was, whatever it comes to. -/
theorem Looks.exists_done {work : StateM Cloud α} (h : Looks work) {result : α}
    (hresult : (work cloud).1 = result) :
    ∃ done, work cloud = (result, done) ∧ done.unrecorded = cloud.unrecorded :=
  ⟨(work cloud).2, Prod.ext hresult rfl, (h cloud).2⟩

theorem Looks.again {work : StateM Cloud α} (h : Looks work) {result : α} {done other : Cloud}
    (hdone : work cloud = (result, done)) (hsame : other.unrecorded = cloud.unrecorded) :
    ∃ after, work other = (result, after) ∧ after.unrecorded = other.unrecorded := by
  have hresult := h.result_eq hsame
  rw [hdone] at hresult
  exact h.exists_done hresult

theorem Looks.bind {first : StateM Cloud α} {rest : α → StateM Cloud β} (hfirst : Looks first)
    (hrest : ∀ found, Looks (rest found)) : Looks (first >>= rest) := by
  intro cloud
  change (rest (first cloud).1 (first cloud).2).1 =
      (rest (first cloud.unrecorded).1 (first cloud.unrecorded).2).1 ∧
    (rest (first cloud).1 (first cloud).2).2.unrecorded = _
  have hkept := (hfirst cloud).2
  have hsame : (first cloud).2.unrecorded = (first cloud.unrecorded).2.unrecorded :=
    hkept.trans (hfirst cloud.unrecorded).2.symm
  rw [← (hfirst cloud).1]
  exact ⟨(hrest _).result_eq hsame, ((hrest _ _).2).trans hkept⟩

theorem composes_looks : Composes Looks where
  pure := .pure
  bind := .bind

theorem looks_guarded (call : String) {view : Cloud → Except Failure α}
    (hview : ∀ cloud, view cloud = view cloud.unrecorded) :
    Looks (guarded scope call fun cloud => (view cloud, cloud)) := by
  intro cloud
  have hclock : cloud.unrecorded.clock = cloud.clock := rfl
  unfold guarded
  rw [hclock]
  cases scope.interruption? cloud.clock with
  | some interruption => exact ⟨rfl, rfl⟩
  | none =>
    have hsame := (hview (cloud.record call)).trans (hview (cloud.unrecorded.record call)).symm
    exact ⟨hsame, rfl⟩

/-- What is answered to whoever waits, at the clock and with the failure that waits are to show. -/
def waitAnswer (scope : Stop.Scope) (clock : Clock) (injected : Option Injected) :
    Except Failure Unit :=
  match scope.interruption? clock, injected with
  | some interruption, _ => .error (.interrupted interruption)
  | none, some injected => .error injected.failure
  | none, none => .ok ()

theorem waitAnswer_eq_ok_iff {clock : Clock} {injected : Option Injected} :
    waitAnswer scope clock injected = .ok () ↔
      scope.interruption? clock = none ∧ injected = none := by
  unfold waitAnswer
  split <;> simp_all

/-- What is recorded of a wait depends on its target, what is answered does not. -/
theorem wait_eq_waitAnswer (scope : Stop.Scope) (operation : Operation) (cloud : Cloud) :
    (client.wait scope operation cloud).1 = waitAnswer scope cloud.clock cloud.failWait := by
  change (Cloud.wait scope operation cloud).1 = _
  unfold Cloud.wait waitAnswer
  cases operation.target <;> dsimp only [record] <;>
    cases scope.interruption? cloud.clock <;> cases cloud.failWait <;> rfl

theorem unrecorded_wait (scope : Stop.Scope) (operation : Operation) (cloud : Cloud) :
    (client.wait scope operation cloud).2.unrecorded = cloud.unrecorded := by
  change (Cloud.wait scope operation cloud).2.unrecorded = _
  unfold Cloud.wait
  cases operation.target <;> dsimp only <;> split <;> first | rfl | (split <;> rfl)

/-- Only putting and deleting endpoints change a cloud. -/
theorem readsLook : client.ReadsHave Looks where
  getEndpoint _ _ _ := looks_guarded _ fun _ => rfl
  getInterface _ _ _ := looks_guarded _ fun _ => rfl
  wait scope operation cloud := by
    refine ⟨?_, unrecorded_wait scope operation cloud⟩
    rw [wait_eq_waitAnswer, wait_eq_waitAnswer]
    rfl

/-! ### Putting an endpoint -/

/-- The interfaces after an endpoint was put: its own is there if endpoints get one. -/
def attach (attaches : Bool) (group name : String) (interfaces : Shelf Wire.Interface) :
    Shelf Wire.Interface :=
  let attached := attachedName name
  if attaches ∧ interfaces.get? group attached = none then
    interfaces.put group attached (interfaceWith (interfaceId group attached) attachedAddresses)
  else interfaces

/-- The record of an endpoint that was put. -/
def storedRecord (cloud : Cloud) (group name : String) (parameters : Wire.Endpoint) :
    Wire.Endpoint :=
  provision group name cloud.emptyIds
    (if cloud.attachInterfaces then some (interfaceId group (attachedName name)) else none)
    parameters

/-- Putting an endpoint changes the endpoints and the interfaces only. -/
theorem store_eq_attach (cloud : Cloud) (group name : String) (parameters : Wire.Endpoint) :
    cloud.store group name parameters =
      { cloud with
        interfaces := attach cloud.attachInterfaces group name cloud.interfaces
        endpoints :=
          cloud.endpoints.put group name (cloud.storedRecord group name parameters) } := by
  unfold store attach storedRecord
  cases hattach : cloud.attachInterfaces with
  | false => simp [hattach]
  | true =>
    cases hfound : cloud.interfaces.get? group (attachedName name) <;>
      simp [withAttached, hattach, hfound]

theorem unrecorded_store (cloud : Cloud) (group name : String) (parameters : Wire.Endpoint) :
    (cloud.store group name parameters).unrecorded =
      cloud.unrecorded.store group name parameters := by
  simp only [store_eq_attach, unrecorded, storedRecord]

/-- What is put into a cloud is stored, unless the scope is over or the cloud is to fail. -/
theorem beginPut_eq (scope : Stop.Scope) (group name : String) (parameters : Wire.Endpoint)
    (cloud : Cloud) :
    client.beginPut scope group name parameters cloud =
      let recorded := cloud.record (callText "begin_create_or_update_private_endpoint" group name)
      match scope.interruption? cloud.clock, cloud.failBegin with
      | some interruption, _ => (.error (.interrupted interruption), cloud)
      | none, some injected => (.error injected.failure, recorded)
      | none, none =>
        (.ok { target := .statusMonitor ("mock://operations/put/" ++ name), retryAfter := none },
          recorded.store group name parameters) := by
  change beginPut scope group name parameters cloud = _
  unfold beginPut guarded
  cases scope.interruption? cloud.clock with
  | some interruption => rfl
  | none =>
    dsimp only [record]
    cases cloud.failBegin <;> rfl

/-- An endpoint that is found when it is asked for lies in the cloud. -/
theorem get?_of_getEndpoint {group name : String} {record : Wire.Endpoint}
    (h : (client.getEndpoint scope group name cloud).1 = .ok record) :
    cloud.endpoints.get? group name = some record := by
  change (guarded _ _ _ _).1 = _ at h
  unfold guarded at h
  split at h
  next => cases h
  next =>
    dsimp only [look, Cloud.record] at h
    split at h
    next => cases h
    next =>
      split at h
      next hfound =>
        cases h
        exact hfound
      next => cases h

end PrivateLink.Cloud
