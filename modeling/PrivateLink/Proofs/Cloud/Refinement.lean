import PrivateLink.Proofs.Cloud.Calls
import PrivateLink.Proofs.Cloud.Store
import PrivateLink.Proofs.Endpoint.Identifier

/-!
# Work over a cloud keeps a store

Over a cloud that shows no failures and gives endpoints an identifier and an interface, work on
endpoints does what the abstract store does: what lies in the cloud is what the service makes of the
specs in the store (`Reflects`), and every call and every piece of work keeps it so (`Yields`).

* `yields_read`, `yields_apply`, `yields_remove`: the work on endpoints.
-/

namespace PrivateLink.Cloud

open Endpoint Manager Network
open Manager.Identifier (IsSegment)

/-! ### What the cloud makes of a spec -/

/-- The record of the endpoint that a spec has brought about. -/
def recordOf (spec : Spec) : Wire.Endpoint :=
  provision spec.resourceGroup spec.name false
    (some (interfaceId spec.resourceGroup (attachedName spec.name))) spec.parameters

/-- The interface that is attached to the endpoint under a resource group and name. -/
def attachedTo (group name : String) : Wire.Interface :=
  interfaceWith (interfaceId group (attachedName name)) attachedAddresses

/-- The form in which a location is written makes no difference to the record. -/
theorem recordOf_normal (spec : Spec) : recordOf spec.normal = recordOf spec := by
  simp only [recordOf, Spec.normal, Spec.parameters, Location.normalize_normalize]

/-- A connection that the service has answered is observed as provisioned. -/
theorem observeConnection_provisionConnection (status : String) (connection : Connection) :
    observeConnection connection.isManual (some givenAddress)
        (provisionConnection status connection.parameters) =
      connection.provisioned status := by
  simp [observeConnection, provisionConnection, Connection.parameters, Connection.provisioned,
    Connection.echo, nonEmpty_eq]

/-- The answered records of one side give back the connections of that side in their order. -/
theorem observe_provisionConnections (manual : Bool) (status : String)
    (connections : List Connection) :
    ((connectionParameters connections manual).map (provisionConnection status)).map
        (observeConnection manual (some givenAddress)) =
      (connections.filter (·.isManual == manual)).map (Connection.provisioned status) := by
  rw [connectionParameters, List.map_map, List.map_map]
  refine List.map_congr_left fun connection hmem => ?_
  have hside : connection.isManual = manual := by simpa using (List.mem_filter.1 hmem).2
  rw [Function.comp_apply, Function.comp_apply, ← hside, observeConnection_provisionConnection]

/-- What is observed of the record of a spec whose location is normal. -/
theorem observe_recordOf (id : String) {spec : Spec}
    (hlocation : Location.normalize spec.location = spec.location) :
    observe id spec.resourceGroup spec.name (recordOf spec) (some givenAddress) =
      spec.observed id := by
  have hconnections : observeConnections
      (some ((connectionParameters spec.connections false).map (provisionConnection "Approved")))
      (some ((connectionParameters spec.connections true).map (provisionConnection "Pending")))
      (some givenAddress) = provisionedConnections spec.connections := by
    simp only [observeConnections, Option.getD_some, observe_provisionConnections, beq_false,
      beq_true, provisionedConnections]
  simp only [observe, recordOf, provision, Spec.parameters, Option.getD_some, Option.map_some,
    Option.bind_some, hlocation, hconnections, Spec.observed,
    interfaceIds, List.filterMap_cons, List.filterMap_nil]

/-! ### What lies in the cloud -/

/-- The cloud at the clock holds what the service makes of the specs in the store. -/
structure Reflects (clock : Clock) (cloud : Cloud) (store : Store) : Prop where
  clock : cloud.clock = clock
  endpoints : ∀ group name, cloud.endpoints.get? group name = (store (group, name)).map recordOf
  attached : ∀ group name, store (group, name) ≠ none →
    cloud.interfaces.get? group (attachedName name) = some (attachedTo group name)
  /-- Every interface is one that has been attached to an endpoint, which may be gone. -/
  interfaces : ∀ group name interface,
    cloud.interfaces.get? group name = some interface →
      interface = interfaceWith (interfaceId group name) attachedAddresses
  /-- A spec lies under its own key, which can be written as an identifier. -/
  keys : ∀ key spec, store key = some spec →
    key = spec.key ∧ IsSegment spec.resourceGroup ∧ IsSegment spec.name
  locations : ∀ key spec, store key = some spec →
    Location.normalize spec.location = spec.location
  noFailures : cloud.failGet = none ∧ cloud.failBegin = none ∧ cloud.failWait = none ∧
    cloud.failInterface = none
  attachInterfaces : cloud.attachInterfaces = true
  emptyIds : cloud.emptyIds = false

variable {clock : Clock} {cloud : Cloud} {store : Store} {scope : Stop.Scope}

/-- The empty cloud holds nothing. -/
theorem Reflects.empty (clock : Clock) : Reflects clock { clock } Store.empty where
  clock := rfl
  endpoints _ _ := rfl
  attached _ _ h := absurd rfl h
  interfaces _ _ _ h := nomatch h
  keys _ _ h := nomatch h
  locations _ _ h := nomatch h
  noFailures := ⟨rfl, rfl, rfl, rfl⟩
  attachInterfaces := rfl
  emptyIds := rfl

/-- A call on record makes no difference. -/
theorem Reflects.record (h : Reflects clock cloud store) (call : String) :
    Reflects clock (cloud.record call) store :=
  ⟨h.clock, h.endpoints, h.attached, h.interfaces, h.keys, h.locations, h.noFailures,
    h.attachInterfaces, h.emptyIds⟩

/-- Taking an endpoint away erases it from the store; its interface stays behind. -/
theorem Reflects.erase (h : Reflects clock cloud store) (group name : String) :
    Reflects clock { cloud with endpoints := cloud.endpoints.erase group name }
      (store.erase (group, name)) := by
  refine ⟨h.clock, ?endpoints, ?attached, h.interfaces, ?keys, ?locations, h.noFailures,
    h.attachInterfaces, h.emptyIds⟩
  case endpoints =>
    intro otherGroup other
    rw [Shelf.get?_erase, h.endpoints, Store.erase]
    split <;> rfl
  case attached =>
    intro otherGroup other hheld
    obtain ⟨spec, hspec⟩ := Option.ne_none_iff_exists'.1 hheld
    exact h.attached otherGroup other (by simp [Store.of_erase hspec])
  case keys => exact fun key spec hspec => h.keys key spec (Store.of_erase hspec)
  case locations => exact fun key spec hspec => h.locations key spec (Store.of_erase hspec)

/-- After an interface is attached it is there, and all others are as they were. -/
theorem get?_attach (h : Reflects clock cloud store) (group name otherGroup other : String) :
    (attach true group name cloud.interfaces).get? otherGroup other =
      if (otherGroup, other) = (group, attachedName name) then some (attachedTo group name)
      else cloud.interfaces.get? otherGroup other := by
  unfold attach
  dsimp only
  split
  next => exact Shelf.get?_put ..
  next hfound =>
    split
    next hkey =>
      cases hkey
      obtain ⟨interface, hinterface⟩ := Option.ne_none_iff_exists'.1 (by simpa using hfound)
      rw [hinterface, h.interfaces _ _ _ hinterface]
      rfl
    next => rfl

/-- The cloud after an endpoint was put, when endpoints get an interface and an identifier. -/
theorem store_eq (h : Reflects clock cloud store) (spec : Spec) :
    cloud.store spec.resourceGroup spec.name spec.parameters =
      { cloud with
        interfaces := attach true spec.resourceGroup spec.name cloud.interfaces
        endpoints := cloud.endpoints.put spec.resourceGroup spec.name (recordOf spec) } := by
  rw [store_eq_attach, storedRecord, h.attachInterfaces, h.emptyIds]
  rfl

/-- Putting an endpoint writes its spec to the store. -/
theorem Reflects.put (h : Reflects clock cloud store) {spec : Spec}
    (hgroup : IsSegment spec.resourceGroup) (hname : IsSegment spec.name) :
    Reflects clock (cloud.store spec.resourceGroup spec.name spec.parameters)
      (store.write spec) := by
  rw [store_eq h]
  refine ⟨h.clock, ?endpoints, ?attached, ?interfaces, ?keys, ?locations, h.noFailures,
    h.attachInterfaces, h.emptyIds⟩
  case endpoints =>
    intro group name
    dsimp only
    rw [Shelf.get?_put, h.endpoints, Store.write, Spec.key]
    split
    · rw [Option.map_some, recordOf_normal]
    · rfl
  case attached =>
    intro group name hheld
    dsimp only
    rw [get?_attach h]
    split
    next hkey =>
      obtain ⟨hsame, hattached⟩ := Prod.mk.inj hkey
      rw [attachedTo, attachedTo, hsame, hattached]
    next hkey =>
      -- Another name has another interface, so this endpoint was held before.
      have hother : (group, name) ≠ spec.key := by
        intro heq
        cases heq
        exact hkey rfl
      rw [Store.write, if_neg hother] at hheld
      exact h.attached group name hheld
  case interfaces =>
    intro group name interface hfound
    dsimp only at hfound
    rw [get?_attach h] at hfound
    split at hfound
    next hkey =>
      cases hkey
      cases hfound
      rfl
    next => exact h.interfaces group name interface hfound
  case keys =>
    intro key held hheld
    obtain ⟨hkey, rfl⟩ | hheld := Store.of_write hheld
    · exact ⟨hkey, hgroup, hname⟩
    · exact h.keys key held hheld
  case locations =>
    intro key held hheld
    obtain ⟨-, rfl⟩ | hheld := Store.of_write hheld
    · exact Location.normalize_normalize spec.location
    · exact h.locations key held hheld

/-! ### Calls -/

/-- Over every cloud that reflects the store the work gives the result, and the cloud then reflects
the store `after`. -/
def Yields {α : Type} (clock : Clock) (work : StateM Cloud α) (store : Store) (result : α)
    (after : Store) : Prop :=
  ∀ cloud, Reflects clock cloud store → ∃ done, work cloud = (result, done) ∧
    Reflects clock done after

variable {α β : Type} {middle after : Store}

theorem Yields.pure (result : α) : Yields clock (Pure.pure result) store result store :=
  fun cloud h => ⟨cloud, rfl, h⟩

/-- Work that asks nothing of the service changes nothing. -/
theorem Yields.of_eq_pure {work : StateM Cloud α} {result : α} (h : work = Pure.pure result) :
    Yields clock work store result store := by
  rw [h]
  exact .pure result

/-- Work is done part by part. -/
theorem Yields.bind {first : StateM Cloud α} {rest : α → StateM Cloud β} {found : α} {result : β}
    (hfirst : Yields clock first store found middle)
    (hrest : Yields clock (rest found) middle result after) :
    Yields clock (first >>= rest) store result after := by
  intro cloud h
  obtain ⟨between, hfound, hmiddle⟩ := hfirst cloud h
  obtain ⟨done, hresult, hafter⟩ := hrest between hmiddle
  refine ⟨done, ?_, hafter⟩
  simp only [Bind.bind, StateT.bind, hfound]
  exact hresult

/-- The scope lets work start at the clock. -/
theorem guarded_eq (hlive : scope.interruption? clock = none) (h : Reflects clock cloud store)
    (call : String) (answer : Cloud → Except Failure α × Cloud) :
    guarded scope call answer cloud = answer (cloud.record call) := by
  simp only [guarded, h.clock, hlive]

/-- What is found when an endpoint is asked for. -/
def found (store : Store) (group name : String) : Except Failure Wire.Endpoint :=
  match store (group, name) with
  | some spec => .ok (recordOf spec)
  | none => .error (.notFound (name ++ " not found"))

theorem look_endpoints (h : Reflects clock cloud store) (group name : String) :
    look none cloud.endpoints group name = found store group name := by
  unfold look found
  dsimp only
  rw [h.endpoints]
  cases store (group, name) <;> rfl

theorem yields_getEndpoint (hlive : scope.interruption? clock = none) (store : Store)
    (group name : String) :
    Yields clock (client.getEndpoint scope group name) store (found store group name) store := by
  intro cloud h
  have hrecord := h.record (callText "get_private_endpoint" group name)
  refine ⟨_, (guarded_eq hlive h _ _).trans ?_, hrecord⟩
  rw [hrecord.noFailures.1, look_endpoints hrecord]

theorem yields_getInterface (hlive : scope.interruption? clock = none) {group name : String}
    (hheld : store (group, name) ≠ none) :
    Yields clock (client.getInterface scope group (attachedName name)) store
      (.ok (attachedTo group name)) store := by
  intro cloud h
  have hrecord := h.record (callText "get_network_interface" group (attachedName name))
  refine ⟨_, (guarded_eq hlive h _ _).trans ?_, hrecord⟩
  rw [hrecord.noFailures.2.2.2, look, hrecord.attached group name hheld]

theorem yields_beginPut (hlive : scope.interruption? clock = none) (store : Store) {spec : Spec}
    (hgroup : IsSegment spec.resourceGroup) (hname : IsSegment spec.name) :
    ∃ operation, Yields clock
      (client.beginPut scope spec.resourceGroup spec.name spec.parameters) store
      (.ok operation) (store.write spec) := by
  refine ⟨⟨.statusMonitor ("mock://operations/put/" ++ spec.name), none⟩, fun cloud h => ?_⟩
  have hrecord := h.record
    (callText "begin_create_or_update_private_endpoint" spec.resourceGroup spec.name)
  refine ⟨_, ?_, hrecord.put hgroup hname⟩
  show beginPut scope spec.resourceGroup spec.name spec.parameters cloud = _
  rw [beginPut, guarded_eq hlive h, hrecord.noFailures.2.1]

/-- A wait ends at once. -/
theorem yields_wait (hlive : scope.interruption? clock = none) (store : Store)
    (operation : Operation) :
    Yields clock (client.wait scope operation) store (.ok ()) store := by
  intro cloud h
  show ∃ done, Cloud.wait scope operation cloud = (.ok (), done) ∧ Reflects clock done store
  unfold Cloud.wait
  -- Only waits for an address that is asked for are on record.
  cases operation.target with
  | statusMonitor url | location url =>
    have hrecord := h.record ("wait_for_completion " ++ url)
    refine ⟨_, ?_, hrecord⟩
    simp only [hrecord.clock, hlive, hrecord.noFailures.2.2.1]
  | completed | provisioningState url | resourceGone url =>
    refine ⟨_, ?_, h⟩
    simp only [h.clock, hlive, h.noFailures.2.2.1]

/-- Deleting an endpoint that is held takes it away. -/
theorem yields_beginDelete (hlive : scope.interruption? clock = none) {group name : String}
    {spec : Spec} (hheld : store (group, name) = some spec) :
    ∃ operation, Yields clock (client.beginDelete scope group name) store (.ok operation)
      (store.erase (group, name)) := by
  refine ⟨⟨.location ("mock://operations/delete/" ++ name), none⟩, fun cloud h => ?_⟩
  have hrecord := h.record (callText "begin_delete_private_endpoint" group name)
  refine ⟨_, ?_, hrecord.erase group name⟩
  show beginDelete scope group name cloud = _
  rw [beginDelete, guarded_eq hlive h, hrecord.noFailures.2.1, look_endpoints hrecord, found, hheld]

/-- Deleting an endpoint that is not held changes nothing, not even the store. -/
theorem yields_beginDelete_absent (hlive : scope.interruption? clock = none)
    {group name : String} (habsent : store (group, name) = none) :
    Yields clock (client.beginDelete scope group name) store
      (.error (.notFound (name ++ " not found"))) (store.erase (group, name)) := by
  rw [Store.erase_of_absent habsent]
  intro cloud h
  have hrecord := h.record (callText "begin_delete_private_endpoint" group name)
  refine ⟨_, ?_, hrecord⟩
  show beginDelete scope group name cloud = _
  rw [beginDelete, guarded_eq hlive h, hrecord.noFailures.2.1, look_endpoints hrecord, found,
    habsent]

/-! ### Work on endpoints -/

/-- What is known of the store may be used to say what work yields. -/
theorem Yields.of_reflects {work : StateM Cloud α} {result : α}
    (h : ∀ cloud, Reflects clock cloud store → Yields clock work store result after) :
    Yields clock work store result after :=
  fun cloud hcloud => h cloud hcloud cloud hcloud

/-- The attached interface of an endpoint that is held gives the private address. -/
theorem yields_resolveAddress (hlive : scope.interruption? clock = none) {group name : String}
    (hgroup : IsSegment group) (hname : IsSegment name) (hheld : store (group, name) ≠ none) :
    Yields clock
      (resolveAddress client scope group (interfaceId group (attachedName name))) store
      (.ok (some givenAddress)) store := by
  obtain ⟨identifier, hid⟩ := nameIn_interfaceId hgroup (isSegment_attachedName hname)
  unfold resolveAddress
  rw [hid]
  exact (yields_getInterface hlive hheld).bind (.pure _)

/-- **Finding out what has become of an endpoint** looks up what is held. -/
theorem yields_read (hlive : scope.interruption? clock = none) (store : Store)
    {id group name : String} (hid : parseId id = .ok (group, name)) :
    Yields clock (Endpoint.read client scope id) store
      (.ok ((store (group, name)).map (·.observed id))) store := by
  refine Yields.of_reflects fun cloud h => ?_
  unfold Endpoint.read
  rw [hid]
  refine (yields_getEndpoint hlive store group name).bind ?_
  cases hheld : store (group, name) with
  | none =>
    rw [found, hheld]
    exact .pure _
  | some spec =>
    -- What is held lies under its own key, so its interface is found under its own name.
    obtain ⟨hkey, hgroup, hname⟩ := h.keys _ _ hheld
    obtain ⟨rfl, rfl⟩ := Prod.mk.inj hkey
    rw [found, hheld, Option.map_some, ← observe_recordOf id (h.locations _ _ hheld)]
    exact (yields_resolveAddress hlive hgroup hname (by simp [hheld])).bind (.pure _)

/-- The check for an endpoint says whether one is held. -/
theorem yields_checkAbsent (hlive : scope.interruption? clock = none) (store : Store)
    (spec : Spec) (mode : Mode) :
    Yields clock (checkAbsent client scope spec mode) store
      (if mode.isStrict && (store spec.key).isSome then
        .error (.alreadyExists (endpointId spec.resourceGroup spec.name))
      else .ok ()) store := by
  refine Yields.of_reflects fun cloud h => ?_
  cases mode with
  | update => exact .pure _
  | create requiresImport =>
    cases requiresImport with
    | false => exact .pure _
    | true =>
      refine (yields_getEndpoint hlive store spec.resourceGroup spec.name).bind ?_
      rw [found, Spec.key]
      cases hheld : store (spec.resourceGroup, spec.name) with
      | none => exact .pure _
      | some held =>
        obtain ⟨hkey, -, -⟩ := h.keys _ _ hheld
        obtain ⟨hgroup, hname⟩ := Prod.mk.inj hkey
        rw [hgroup, hname]
        exact .pure _

/-- Sending an endpoint writes it. -/
theorem yields_put (hlive : scope.interruption? clock = none) (store : Store) {spec : Spec}
    (hgroup : IsSegment spec.resourceGroup) (hname : IsSegment spec.name) :
    Yields clock (put client scope spec) store (.ok ()) (store.write spec) := by
  obtain ⟨operation, hbegin⟩ := yields_beginPut hlive store hgroup hname
  exact hbegin.bind ((yields_wait hlive _ operation).bind (.pure _))

/-- An endpoint that was written has the identifier that the service gives. -/
theorem yields_appliedId (hlive : scope.interruption? clock = none) (store : Store)
    (spec : Spec) :
    Yields clock (appliedId client scope spec) (store.write spec)
      (.ok (endpointId spec.resourceGroup spec.name)) (store.write spec) := by
  refine (yields_getEndpoint hlive _ spec.resourceGroup spec.name).bind ?_
  have hheld : store.write spec (spec.resourceGroup, spec.name) = some spec.normal := if_pos rfl
  have hid : nonEmpty (recordOf spec.normal).id =
      some (endpointId spec.resourceGroup spec.name) := by
    have hne := endpointId_ne_empty spec.resourceGroup spec.name
    simp [recordOf, provision, Spec.normal, nonEmpty, hne]
  rw [found, hheld]
  dsimp only
  rw [hid]
  exact .pure _

/-- An endpoint that must not be there yet is not touched when it is. -/
theorem yields_apply_occupied (hlive : scope.interruption? clock = none) {spec : Spec}
    (mode : Mode) (hagree : spec.checkAgreement = .ok ())
    (hoccupied : mode.isStrict && (store spec.key).isSome) :
    Yields clock (Endpoint.apply client scope spec mode) store
      (.error (.alreadyExists (endpointId spec.resourceGroup spec.name))) store := by
  have habsent := yields_checkAbsent hlive store spec mode
  rw [if_pos hoccupied] at habsent
  unfold Endpoint.apply
  rw [hagree]
  exact habsent.bind (.pure _)

/-- **Creating or changing an endpoint** writes it, unless it must not be there yet and is. -/
theorem yields_apply (hlive : scope.interruption? clock = none) (store : Store) {spec : Spec}
    (mode : Mode) (hagree : spec.checkAgreement = .ok ()) (hgroup : IsSegment spec.resourceGroup)
    (hname : IsSegment spec.name) (hfree : ¬ (mode.isStrict && (store spec.key).isSome)) :
    Yields clock (Endpoint.apply client scope spec mode) store
      (.ok (spec.normal.observed (endpointId spec.resourceGroup spec.name)))
      (store.write spec) := by
  have habsent := yields_checkAbsent hlive store spec mode
  -- The identifier that is read back gives the key that was written.
  have hread := yields_read hlive (store.write spec) (parseId_endpointId hgroup hname)
  have hheld : store.write spec (spec.resourceGroup, spec.name) = some spec.normal := if_pos rfl
  rw [if_neg hfree] at habsent
  rw [hheld] at hread
  unfold Endpoint.apply
  rw [hagree]
  refine habsent.bind ((yields_put hlive store hgroup hname).bind ?_)
  exact (yields_appliedId hlive store spec).bind (hread.bind (.pure _))

/-- **Deleting an endpoint** erases it, also when it is not held. -/
theorem yields_remove (hlive : scope.interruption? clock = none) (store : Store)
    {id group name : String} (hid : parseId id = .ok (group, name)) :
    Yields clock (Endpoint.remove client scope id) store (.ok ()) (store.erase (group, name)) := by
  unfold Endpoint.remove
  rw [hid]
  cases hheld : store (group, name) with
  | none => exact (yields_beginDelete_absent hlive hheld).bind (.pure _)
  | some spec =>
    obtain ⟨operation, hbegin⟩ := yields_beginDelete hlive hheld
    exact hbegin.bind ((yields_wait hlive _ operation).bind (.pure _))

end PrivateLink.Cloud
