import PrivateLink.Proofs.Cloud.Repetition

/-!
# Clouds that show no failures

A cloud that is told to show no failures, within a scope that is not over, takes every endpoint that
is put and answers every question by what it holds (`Steady`). So an endpoint that may be created is
always stored, and whether its creation succeeds is a matter of reading it back: that goes well when
the identifier that the service gives is one that can be read.

* `apply_of_steady`: an endpoint that may be put is put;
* `exists_apply_eq_ok`: and found again under a name that is a segment.
-/

namespace PrivateLink.Cloud

open Endpoint Network
open Manager.Identifier (IsSegment)

/-- The cloud takes what is put within the scope and answers questions by what it holds. -/
structure Steady (scope : Stop.Scope) (cloud : Cloud) : Prop extends TakesPut scope cloud where
  failGet : cloud.failGet = none
  failInterface : cloud.failInterface = none
  emptyIds : cloud.emptyIds = false

variable {scope : Stop.Scope} {spec : Spec} {mode : Mode} {cloud later : Cloud}

theorem Steady.of_unrecorded (h : Steady scope cloud) {other : Cloud}
    (hsame : other.unrecorded = cloud.unrecorded) : Steady scope other where
  toTakesPut := h.toTakesPut.of_unrecorded hsame
  failGet := (congrArg Cloud.failGet hsame).trans h.failGet
  failInterface := (congrArg Cloud.failInterface hsame).trans h.failInterface
  emptyIds := (congrArg Cloud.emptyIds hsame).trans h.emptyIds

theorem Steady.store (h : Steady scope cloud) (group name : String) (parameters : Wire.Endpoint) :
    Steady scope (cloud.store group name parameters) := by
  have htakes := h.toTakesPut.store group name parameters
  rw [store_eq_attach] at htakes ⊢
  exact ⟨htakes, h.failGet, h.failInterface, h.emptyIds⟩

/-- The interface that is attached to an endpoint is there afterwards. -/
theorem exists_get?_attach (group name : String) (interfaces : Shelf Wire.Interface) :
    ∃ interface,
      (attach true group name interfaces).get? group (attachedName name) = some interface := by
  unfold attach
  dsimp only
  split
  next => exact ⟨_, (Shelf.get?_put ..).trans (if_pos rfl)⟩
  next hfound => exact Option.ne_none_iff_exists'.1 (by simpa using hfound)

/-! ### Questions -/

theorem guarded_of_live {α : Type} (hlive : scope.interruption? cloud.clock = none) (call : String)
    (view : Cloud → Except Failure α) :
    (guarded scope call (fun cloud => (view cloud, cloud)) cloud).1 = view (cloud.record call) := by
  simp only [guarded, hlive]

/-- A question for an endpoint is answered by the shelf of endpoints. -/
theorem getEndpoint_of_steady (h : Steady scope cloud) (group name : String) :
    ∃ fetched, client.getEndpoint scope group name cloud =
        (look none cloud.endpoints group name, fetched) ∧
      fetched.unrecorded = cloud.unrecorded :=
  (readsLook.getEndpoint scope group name).exists_done <|
    (guarded_of_live h.live _ fun cloud => look cloud.failGet cloud.endpoints group name).trans
      (congrArg (look · cloud.endpoints group name) h.failGet)

/-- A question for an interface is answered by the shelf of interfaces. -/
theorem getInterface_of_steady (h : Steady scope cloud) (group name : String) :
    ∃ fetched, client.getInterface scope group name cloud =
        (look none cloud.interfaces group name, fetched) ∧
      fetched.unrecorded = cloud.unrecorded :=
  (readsLook.getInterface scope group name).exists_done <|
    (guarded_of_live h.live _ fun cloud =>
      look cloud.failInterface cloud.interfaces group name).trans
      (congrArg (look · cloud.interfaces group name) h.failInterface)

/-- What lies on a shelf is found there. -/
theorem look_of_get? {α : Type} {shelf : Shelf α} {group name : String} {value : α}
    (h : shelf.get? group name = some value) : look none shelf group name = .ok value := by
  unfold look
  rw [h]

/-- The check for an endpoint passes unless one is there. -/
theorem checkAbsent_of_steady (h : Steady scope cloud)
    (hfree : mode.isStrict = true → cloud.endpoints.get? spec.resourceGroup spec.name = none) :
    ∃ checked, checkAbsent client scope spec mode cloud = (.ok (), checked) ∧
      checked.unrecorded = cloud.unrecorded := by
  cases mode with
  | update => exact ⟨cloud, rfl, rfl⟩
  | create requiresImport =>
    cases requiresImport with
    | false => exact ⟨cloud, rfl, rfl⟩
    | true =>
      obtain ⟨checked, hget, hchecked⟩ :=
        getEndpoint_of_steady h spec.resourceGroup spec.name
      simp only [look, hfree rfl] at hget
      refine ⟨checked, ?_, hchecked⟩
      simp only [checkAbsent, bind, StateT.bind, hget]
      rfl

/-! ### Reading back what was stored -/

section Stored

variable (h : Steady scope cloud)
  (hlater : later.unrecorded =
    (cloud.store spec.resourceGroup spec.name spec.parameters).unrecorded)

include h hlater

theorem getEndpoint_of_stored :
    ∃ fetched, client.getEndpoint scope spec.resourceGroup spec.name later =
        (.ok (cloud.storedRecord spec.resourceGroup spec.name spec.parameters), fetched) ∧
      fetched.unrecorded = later.unrecorded := by
  have hsteady := (h.store spec.resourceGroup spec.name spec.parameters).of_unrecorded hlater
  have hfound := look_of_get? (get?_of_stored hlater)
  obtain ⟨fetched, hget, hfetched⟩ := getEndpoint_of_steady hsteady spec.resourceGroup spec.name
  exact ⟨fetched, hfound ▸ hget, hfetched⟩

/-- The service gives an identifier to an endpoint that was stored. -/
theorem appliedId_of_stored :
    ∃ named, appliedId client scope spec later =
        (.ok (endpointId spec.resourceGroup spec.name), named) ∧
      named.unrecorded = later.unrecorded := by
  have hgiven : nonEmpty (cloud.storedRecord spec.resourceGroup spec.name spec.parameters).id =
      some (endpointId spec.resourceGroup spec.name) := by
    have hne := endpointId_ne_empty spec.resourceGroup spec.name
    simp [storedRecord, provision, nonEmpty, h.emptyIds, hne]
  obtain ⟨named, hget, hnamed⟩ := getEndpoint_of_stored h hlater
  refine ⟨named, ?_, hnamed⟩
  simp only [appliedId, bind, StateT.bind, hget, hgiven]
  rfl

/-- The interface that was attached is found, whatever has become of it. -/
theorem resolveAddress_of_stored (hattach : cloud.attachInterfaces = true)
    (hgroup : IsSegment spec.resourceGroup) (hname : IsSegment spec.name) :
    ∃ address done, resolveAddress client scope spec.resourceGroup
      (interfaceId spec.resourceGroup (attachedName spec.name)) later = (.ok address, done) := by
  obtain ⟨identifier, hid⟩ := nameIn_interfaceId hgroup (isSegment_attachedName hname)
  have hsteady := (h.store spec.resourceGroup spec.name spec.parameters).of_unrecorded hlater
  obtain ⟨interface, hinterface⟩ : ∃ interface,
      later.interfaces.get? spec.resourceGroup (attachedName spec.name) = some interface := by
    rw [(holds_of_unrecorded hlater).2, store_eq_attach, hattach]
    exact exists_get?_attach ..
  obtain ⟨done, hget, -⟩ :=
    getInterface_of_steady hsteady spec.resourceGroup (attachedName spec.name)
  rw [look_of_get? hinterface] at hget
  refine ⟨interface.firstAddress?, done, ?_⟩
  simp only [resolveAddress, hid, bind, StateT.bind, hget]
  rfl

/-- **An endpoint that was stored is found** when its identifier can be read. -/
theorem read_of_stored (hgroup : IsSegment spec.resourceGroup) (hname : IsSegment spec.name) :
    ∃ observed done, Endpoint.read client scope (endpointId spec.resourceGroup spec.name) later =
      (.ok (some observed), done) := by
  obtain ⟨fetched, hget, hfetched⟩ := getEndpoint_of_stored h hlater
  have hid := parseId_endpointId hgroup hname
  have hfirst :
      firstInterfaceId? (cloud.storedRecord spec.resourceGroup spec.name spec.parameters) =
        if cloud.attachInterfaces then
          some (interfaceId spec.resourceGroup (attachedName spec.name))
        else none := by
    cases hattach : cloud.attachInterfaces <;>
      simp [firstInterfaceId?, storedRecord, provision, hattach]
  generalize cloud.storedRecord spec.resourceGroup spec.name spec.parameters = record at hget hfirst
  generalize endpointId spec.resourceGroup spec.name = id at hid ⊢
  cases hattach : cloud.attachInterfaces with
  | false =>
    rw [hattach] at hfirst
    refine ⟨observe id spec.resourceGroup spec.name record none, fetched, ?_⟩
    simp only [Endpoint.read, hid, bind, StateT.bind, hget, hfirst]
    rfl
  | true =>
    rw [hattach] at hfirst
    obtain ⟨address, done, hresolve⟩ :=
      resolveAddress_of_stored h (hfetched.trans hlater) hattach hgroup hname
    refine ⟨observe id spec.resourceGroup spec.name record address, done, ?_⟩
    simp only [Endpoint.read, hid, bind, StateT.bind, hget, hfirst, if_true, hresolve]
    rfl

end Stored

/-! ### Applying an endpoint -/

/-- **An endpoint that may be put is put**, and all that follows is that it is read back. -/
theorem apply_of_steady (h : Steady scope cloud) (hagree : spec.checkAgreement = .ok ())
    (hfree : mode.isStrict = true → cloud.endpoints.get? spec.resourceGroup spec.name = none) :
    ∃ sent, apply client scope spec mode cloud = readBack client scope spec sent ∧
      sent.unrecorded =
        (cloud.store spec.resourceGroup spec.name spec.parameters).unrecorded := by
  obtain ⟨checked, hcheck, hchecked⟩ := checkAbsent_of_steady h hfree
  obtain ⟨sent, hput, hsent⟩ := put_of_takesPut (h.toTakesPut.of_unrecorded hchecked) spec
  refine ⟨sent, apply_of_put hagree hcheck hput, ?_⟩
  rw [hsent, unrecorded_store, hchecked, ← unrecorded_store]

/-- Whatever comes of it, the endpoint lies in the cloud then. -/
theorem unrecorded_apply_of_steady (h : Steady scope cloud) (hagree : spec.checkAgreement = .ok ())
    (hfree : mode.isStrict = true → cloud.endpoints.get? spec.resourceGroup spec.name = none) :
    (apply client scope spec mode cloud).2.unrecorded =
      (cloud.store spec.resourceGroup spec.name spec.parameters).unrecorded := by
  obtain ⟨sent, happly, hsent⟩ := apply_of_steady h hagree hfree
  rw [happly, ((composes_looks.readBack readsLook scope spec) sent).2, hsent]

/-- **An endpoint is applied and found again** under a name that is a segment. -/
theorem exists_apply_eq_ok (h : Steady scope cloud) (hagree : spec.checkAgreement = .ok ())
    (hfree : mode.isStrict = true → cloud.endpoints.get? spec.resourceGroup spec.name = none)
    (hgroup : IsSegment spec.resourceGroup) (hname : IsSegment spec.name) :
    ∃ observed done, apply client scope spec mode cloud = (.ok observed, done) := by
  obtain ⟨sent, happly, hsent⟩ := apply_of_steady h hagree hfree
  obtain ⟨named, hid, hnamed⟩ := appliedId_of_stored h hsent
  obtain ⟨observed, done, hread⟩ := read_of_stored h (hnamed.trans hsent) hgroup hname
  refine ⟨observed, done, ?_⟩
  rw [happly]
  simp only [readBack, bind, StateT.bind, hid, hread]
  rfl

end PrivateLink.Cloud
