import PrivateLink.Proofs.Cloud.Calls
import PrivateLink.Proofs.Cloud.Store
import PrivateLink.Proofs.Endpoint.Identifier
import PrivateLink.Proofs.Endpoint.Success

/-!
# Endpoints that are applied again

An endpoint that is put into a cloud for a second time is there already as it would be put, and so
is its interface. Whatever else is done when it is applied only looks at the cloud, and the calls on
record are not looked at by anyone. So applying an endpoint again comes to the same result as before
and changes nothing in the cloud but that record, and it makes no difference if the location is
written in another way that has the same normal form.

* `exists_of_apply`, `observe_of_apply`: what an application leaves behind and what it comes to;
* `apply_again`: a second application.
-/

namespace PrivateLink

open Network

/-- Specs with the same normal form are applied in the same way, over any client. -/
theorem Endpoint.apply_of_normal_eq {σ : Type} {spec other : Spec}
    (h : other.normal = spec.normal) (client : Client σ) (scope : Stop.Scope) (mode : Mode) :
    apply client scope other mode = apply client scope spec mode := by
  obtain ⟨name, location, group, subnet, connections, tags⟩ := spec
  obtain ⟨name', location', group', subnet', connections', tags'⟩ := other
  obtain ⟨rfl, hlocation, rfl, rfl, rfl, rfl⟩ := Spec.mk.inj h
  -- Only the record that is sent holds the location, and there it is in normal form.
  have hput : put client scope ⟨name', location', group', subnet', connections', tags'⟩ =
      put client scope ⟨name', location, group', subnet', connections', tags'⟩ := by
    simp only [put, Spec.parameters, hlocation]
  unfold apply
  rw [hput]
  rfl

namespace Cloud

open Endpoint
open Manager.Identifier (IsSegment)

variable {scope : Stop.Scope} {spec : Spec} {mode : Mode} {cloud created : Cloud}
  {observed : Observed}

/-! ### Putting an endpoint again -/

/-- An interface that is there is not attached again. -/
theorem attach_attach (attaches : Bool) (group name : String)
    (interfaces : Shelf Wire.Interface) :
    attach attaches group name (attach attaches group name interfaces) =
      attach attaches group name interfaces := by
  unfold attach
  dsimp only
  split
  next => rw [Shelf.get?_put, if_pos rfl, if_neg (by simp)]
  next => rfl

/-- **An endpoint that is put again** is there already as it would be put. -/
theorem store_store (cloud : Cloud) (group name : String) (parameters : Wire.Endpoint) :
    (cloud.store group name parameters).store group name parameters =
      cloud.store group name parameters := by
  simp only [store_eq_attach, storedRecord, attach_attach, Shelf.put_put]

/-- The cloud takes endpoints that are put within the scope, and lets them take effect. -/
structure TakesPut (scope : Stop.Scope) (cloud : Cloud) : Prop where
  live : scope.interruption? cloud.clock = none
  failBegin : cloud.failBegin = none
  failWait : cloud.failWait = none

/-- An endpoint that was sent was taken. -/
theorem takesPut_of_put {sent : Cloud} (h : put client scope spec cloud = (.ok (), sent)) :
    TakesPut scope cloud := by
  obtain ⟨operation, begun, hbegin, h⟩ := exists_of_steps h fun _ _ => by nofun
  obtain ⟨_, waited, hwait, -⟩ := exists_of_steps h fun _ _ => by nofun
  have hanswer : waitAnswer scope begun.clock begun.failWait = .ok () := by
    rw [← wait_eq_waitAnswer scope operation, hwait]
  rw [beginPut_eq] at hbegin
  dsimp only at hbegin
  split at hbegin
  next => cases hbegin
  next => cases hbegin
  next hlive hfail =>
    cases hbegin
    rw [store_eq_attach] at hanswer
    exact ⟨hlive, hfail, (waitAnswer_eq_ok_iff.1 hanswer).2⟩

/-- What is sent to a cloud that takes it is stored. -/
theorem put_of_takesPut (h : TakesPut scope cloud) (spec : Spec) :
    ∃ sent, put client scope spec cloud = (.ok (), sent) ∧
      sent.unrecorded =
        (cloud.store spec.resourceGroup spec.name spec.parameters).unrecorded := by
  have hbegin := beginPut_eq scope spec.resourceGroup spec.name spec.parameters cloud
  rw [h.live, h.failBegin] at hbegin
  dsimp only at hbegin
  generalize hbegun : Cloud.store _ _ _ _ = begun at hbegin
  generalize Operation.mk _ _ = operation at hbegin
  have hanswer : (client.wait scope operation begun).1 = .ok () := by
    rw [wait_eq_waitAnswer, waitAnswer_eq_ok_iff, ← hbegun, store_eq_attach]
    exact ⟨h.live, h.failWait⟩
  have hkept := unrecorded_wait scope operation begun
  obtain ⟨waited, hwait⟩ : ∃ waited, client.wait scope operation begun = (.ok (), waited) :=
    ⟨_, Prod.ext hanswer rfl⟩
  refine ⟨waited, ?_, ?_⟩
  · simp only [put, bind, StateT.bind, hbegin, hwait]
    rfl
  · rw [hwait, ← hbegun, unrecorded_store] at hkept
    rw [hkept, unrecorded_store]
    rfl

theorem TakesPut.of_unrecorded (h : TakesPut scope cloud) {other : Cloud}
    (hsame : other.unrecorded = cloud.unrecorded) : TakesPut scope other :=
  ⟨(congrArg (fun cloud => scope.interruption? cloud.clock) hsame).trans h.live,
    (congrArg Cloud.failBegin hsame).trans h.failBegin,
    (congrArg Cloud.failWait hsame).trans h.failWait⟩

theorem TakesPut.store (h : TakesPut scope cloud) (group name : String)
    (parameters : Wire.Endpoint) : TakesPut scope (cloud.store group name parameters) := by
  rw [store_eq_attach]
  exact ⟨h.live, h.failBegin, h.failWait⟩

/-! ### Applying an endpoint -/

/-- An application that succeeded put the endpoint into a cloud that took it, and from then on only
looked at what was stored. -/
theorem exists_of_apply (h : apply client scope spec mode cloud = (.ok observed, created)) :
    let stored := cloud.store spec.resourceGroup spec.name spec.parameters
    spec.checkAgreement = .ok () ∧ TakesPut scope cloud ∧
      ∃ sent named id, sent.unrecorded = stored.unrecorded ∧
        appliedId client scope spec sent = (.ok id, named) ∧
        named.unrecorded = stored.unrecorded ∧
        Endpoint.read client scope id named = (.ok (some observed), created) ∧
        created.unrecorded = stored.unrecorded := by
  obtain ⟨hagree, checked, sent, named, id, hcheck, hput, hid, hread⟩ := apply_eq_ok_iff.1 h
  have hchecked := (composes_looks.checkAbsent readsLook scope spec mode).kept hcheck
  have hnamed := (composes_looks.appliedId readsLook scope spec).kept hid
  have hcreated := (composes_looks.read readsLook scope id).kept hread
  have htakes := takesPut_of_put hput
  obtain ⟨_, hput', hsent⟩ := put_of_takesPut htakes spec
  cases hput.symm.trans hput'
  rw [unrecorded_store, hchecked, ← unrecorded_store] at hsent
  exact ⟨hagree, htakes.of_unrecorded hchecked.symm, sent, named, id, hsent, hid,
    hnamed.trans hsent, hread, hcreated.trans (hnamed.trans hsent)⟩

/-- No time goes by in a cloud. -/
theorem clock_of_apply (h : apply client scope spec mode cloud = (.ok observed, created)) :
    created.clock = cloud.clock := by
  obtain ⟨-, -, _, _, _, -, -, -, -, hsame⟩ := exists_of_apply h
  rw [store_eq_attach] at hsame
  have hclock := congrArg Cloud.clock hsame
  exact hclock

/-- **A second application** comes to the same result, and it changes nothing. -/
theorem apply_again (h : apply client scope spec mode cloud = (.ok observed, created)) :
    ∃ done, apply client scope spec .update created = (.ok observed, done) ∧
      done.unrecorded = created.unrecorded := by
  obtain ⟨hagree, htakes, sent, named, id, hsent, hid, hnamed, hread, hcreated⟩ :=
    exists_of_apply h
  have htakes' : TakesPut scope created := (htakes.store ..).of_unrecorded hcreated
  obtain ⟨resent, hput, hresent⟩ := put_of_takesPut htakes' spec
  -- What is put again is there already, so the steps that follow look at the same cloud.
  have hstored : (created.store spec.resourceGroup spec.name spec.parameters).unrecorded =
      (cloud.store spec.resourceGroup spec.name spec.parameters).unrecorded := by
    rw [unrecorded_store, hcreated, ← unrecorded_store, store_store]
  have hsame := hresent.trans hstored
  obtain ⟨renamed, hid', hrenamed⟩ :=
    (composes_looks.appliedId readsLook scope spec).again hid (hsame.trans hsent.symm)
  have hsame' := hrenamed.trans hsame
  obtain ⟨done, hread', hdone⟩ :=
    (composes_looks.read readsLook scope id).again hread (hsame'.trans hnamed.symm)
  refine ⟨done, ?_, (hdone.trans hsame').trans hcreated.symm⟩
  exact apply_eq_ok_iff.2 ⟨hagree, created, resent, renamed, id, rfl, hput, hid', hread'⟩

/-- An endpoint that was stored lies in the cloud with the record that was stored. -/
theorem get?_of_stored {group name : String} {parameters : Wire.Endpoint} {later : Cloud}
    (hlater : later.unrecorded = (cloud.store group name parameters).unrecorded) :
    later.endpoints.get? group name = some (cloud.storedRecord group name parameters) := by
  rw [store_eq_attach] at hlater
  have hshelf : later.endpoints =
      cloud.endpoints.put group name (cloud.storedRecord group name parameters) :=
    congrArg (fun cloud : Cloud => cloud.endpoints) hlater
  rw [hshelf, Shelf.get?_put, if_pos rfl]

/-- It is found with this record. -/
theorem eq_storedRecord_of_getEndpoint {group name : String} {parameters record : Wire.Endpoint}
    {later : Cloud}
    (hlater : later.unrecorded = (cloud.store group name parameters).unrecorded)
    (h : (client.getEndpoint scope group name later).1 = .ok record) :
    record = cloud.storedRecord group name parameters :=
  Option.some.inj ((get?_of_getEndpoint h).symm.trans (get?_of_stored hlater))

/-- The identifier that is found out after an endpoint was stored is the one that the service gives.
-/
theorem eq_endpointId_of_appliedId {later named : Cloud} {id : String}
    (hlater : later.unrecorded =
      (cloud.store spec.resourceGroup spec.name spec.parameters).unrecorded)
    (h : appliedId client scope spec later = (.ok id, named)) :
    id = endpointId spec.resourceGroup spec.name := by
  obtain ⟨record, hrecord, hgiven⟩ := exists_of_appliedId h
  rw [eq_storedRecord_of_getEndpoint hlater hrecord] at hgiven
  obtain ⟨hsome, hne⟩ := Option.filter_eq_some_iff.1 hgiven
  have hchoice : (if cloud.emptyIds then "" else endpointId spec.resourceGroup spec.name) = id :=
    Option.some.inj hsome
  split at hchoice
  · exact absurd hchoice.symm (of_decide_eq_true hne)
  · exact hchoice.symm

/-- **What an application comes to** is what is observed of the record that was stored. -/
theorem observe_of_apply (h : apply client scope spec mode cloud = (.ok observed, created))
    (hgroup : IsSegment spec.resourceGroup) (hname : IsSegment spec.name) :
    ∃ address, observed =
      observe (endpointId spec.resourceGroup spec.name) spec.resourceGroup spec.name
        (cloud.storedRecord spec.resourceGroup spec.name spec.parameters) address := by
  obtain ⟨-, -, sent, named, id, hsent, hid, hnamed, hread, -⟩ := exists_of_apply h
  obtain rfl := eq_endpointId_of_appliedId hsent hid
  obtain ⟨reread, address, hreread, hobserved⟩ :=
    exists_of_read (parseId_endpointId hgroup hname) hread
  rw [eq_storedRecord_of_getEndpoint hnamed hreread] at hobserved
  exact ⟨address, hobserved⟩

end Cloud

end PrivateLink
