import PrivateLink.Proofs.Endpoint.Interfaces
import PrivateLink.Proofs.Endpoint.Lifecycle
import PrivateLink.Proofs.Provider.Course
import PrivateLink.Script

/-!
# What is found out about an endpoint

An endpoint is found out about by asking for it once and, if its record begins with an interface
that has an identifier, by asking once for this interface. The status 404 means something else each
time: the endpoint is not there, which is no fault, or an interface of a living endpoint is missing,
which is one. So of each way in which reading can end it is said here which answers lead to it.

* `Finding`: the ways in which reading ends, and the answers that lead to each;
* `read_finding`: reading ends so over any client, and what the provider makes of it.
-/

namespace PrivateLink

open Network

/-- The service answered with the status 404. -/
def Network.Failure.Says404 (failure : Failure) : Prop :=
  ∃ code message, failure = .refused 404 code message

theorem Network.Failure.isNotFound_iff {failure : Failure} :
    failure.isNotFound = true ↔ failure.Says404 := by
  constructor
  · intro h
    cases failure with
    | refused status code message => exact ⟨code, message, by rw [eq_of_beq h]⟩
    | _ => cases h
  · rintro ⟨code, message, rfl⟩
    rfl

theorem Network.Failure.isNotFound_eq_false_iff {failure : Failure} :
    failure.isNotFound = false ↔ ¬ failure.Says404 := by
  rw [← isNotFound_iff, Bool.not_eq_true]

namespace Endpoint

/-- The calls that find out about the endpoint with an identifier, with the answers to them, and
what comes of them. -/
structure Finding (id : String) (made : List Answered) (result : Except Fault (Option Observed)) :
    Prop where
  /-- An identifier that cannot be read is refused without a call. -/
  malformed : ∀ fault, parseId id = .error fault →
    made = [] ∧ result = .error fault ∧ ∃ reason, fault = .invalidId id reason
  /-- The endpoint is asked for once, and then at most one interface in its resource group: the one
  that its record begins with, unless the identifier of that one cannot be read. -/
  calls : ∀ group name, parseId id = .ok (group, name) →
    (∃ answer, made = [.getEndpoint group name answer] ∧
        ∀ record, answer = .ok record → ∀ interfaceId, record.LeadsWith interfaceId →
          ∃ reason, nameIn "networkInterfaces" interfaceId =
            .error (.invalidId interfaceId reason)) ∨
      ∃ record interfaceId identifier interface answer, record.LeadsWith interfaceId ∧
        nameIn "networkInterfaces" interfaceId = .ok (identifier, interface) ∧
        made = [.getEndpoint group name (.ok record), .getInterface group interface answer]
  absent_iff : result = .ok none ↔ ∃ group name failure, parseId id = .ok (group, name) ∧
    made = [.getEndpoint group name (.error failure)] ∧ failure.Says404
  /-- An endpoint whose record was fetched is not taken for absent. -/
  living : ∀ group name record, .getEndpoint group name (.ok record) ∈ made → result ≠ .ok none
  request_iff : ∀ step name group failure, result = .error (.request step name group failure) ↔
    step = .read ∧ parseId id = .ok (group, name) ∧
      made = [.getEndpoint group name (.error failure)] ∧ ¬ failure.Says404
  invalidId_iff : ∀ text reason, result = .error (.invalidId text reason) ↔
    parseId id = .error (.invalidId text reason) ∨
      ∃ group name record, parseId id = .ok (group, name) ∧
        made = [.getEndpoint group name (.ok record)] ∧ record.LeadsWith text ∧
        nameIn "networkInterfaces" text = .error (.invalidId text reason)
  interfaceNotFound_iff : ∀ interface group,
    result = .error (.interfaceNotFound interface group) ↔
      ∃ name record failure, parseId id = .ok (group, name) ∧
        made = [.getEndpoint group name (.ok record),
          .getInterface group interface (.error failure)] ∧ failure.Says404
  interface_iff : ∀ interface group failure,
    result = .error (.interface interface group failure) ↔
      ∃ name record, parseId id = .ok (group, name) ∧
        made = [.getEndpoint group name (.ok record),
          .getInterface group interface (.error failure)] ∧ ¬ failure.Says404
  found_iff : (∃ observed, result = .ok (some observed)) ↔
    ∃ group name record, parseId id = .ok (group, name) ∧
      ((made = [.getEndpoint group name (.ok record)] ∧ ∀ first, ¬ record.LeadsWith first) ∨
        ∃ interface found, made =
          [.getEndpoint group name (.ok record), .getInterface group interface (.ok found)])
  /-- Every connection has the first address of the interface that was fetched, if there is one. -/
  addresses : ∀ observed, result = .ok (some observed) →
    ∀ connection ∈ observed.spec.connections, ∀ address,
      connection.privateAddress = some address ↔ ∃ group name interface,
        .getInterface group name (.ok interface) ∈ made ∧ interface.HasFirstAddress address

variable {id group name interfaceId : String} {made : List Answered}
  {resolved : Except Fault (Option String)} {result : Except Fault (Option Observed)}

/-! ### The ways in which reading ends -/

theorem Reads.malformed (h : Reads id made result) {fault : Fault}
    (hid : parseId id = .error fault) : made = [] ∧ result = .error fault := by
  cases h with
  | invalid hfault => exact ⟨rfl, congrArg Except.error (Except.error.inj (hfault.symm.trans hid))⟩
  | absent hok | failed hok | detached hok | unresolved hok | attached hok =>
    cases hid.symm.trans hok

/-- An interface is looked up by one call, or not at all if its identifier cannot be read. -/
theorem Resolves.made_eq (h : Resolves group interfaceId made resolved) :
    (made = [] ∧
        ∃ reason, nameIn "networkInterfaces" interfaceId = .error (.invalidId interfaceId reason)) ∨
      ∃ identifier interface answer,
        nameIn "networkInterfaces" interfaceId = .ok (identifier, interface) ∧
          made = [.getInterface group interface answer] := by
  cases h with
  | invalid hname =>
    obtain ⟨reason, rfl⟩ := invalidId_of_nameIn hname
    exact .inl ⟨rfl, reason, hname⟩
  | missing hname | failed hname | found hname => exact .inr ⟨_, _, _, hname, rfl⟩

theorem Reads.made_eq (h : Reads id made result) (hid : parseId id = .ok (group, name)) :
    (∃ answer, made = [.getEndpoint group name answer] ∧
        ∀ record, answer = .ok record → ∀ interfaceId, record.LeadsWith interfaceId →
          ∃ reason, nameIn "networkInterfaces" interfaceId =
            .error (.invalidId interfaceId reason)) ∨
      ∃ record interfaceId identifier interface answer, record.LeadsWith interfaceId ∧
        nameIn "networkInterfaces" interfaceId = .ok (identifier, interface) ∧
        made = [.getEndpoint group name (.ok record), .getInterface group interface answer] := by
  cases h with
  | invalid hfault => cases hid.symm.trans hfault
  | absent hsame | failed hsame =>
    cases hid.symm.trans hsame
    exact .inl ⟨_, rfl, fun record hanswer => by cases hanswer⟩
  | detached hsame hnone =>
    cases hid.symm.trans hsame
    refine .inl ⟨_, rfl, ?_⟩
    rintro record ⟨⟩ interfaceId hlead
    cases hnone.symm.trans (firstInterfaceId?_eq_some_iff.2 hlead)
  | @unresolved _ _ first record _ _ hsame hfirst hresolve
  | @attached _ _ first record _ _ hsame hfirst hresolve =>
    cases hid.symm.trans hsame
    obtain ⟨rfl, hunread⟩ | ⟨identifier, interface, answer, hname, rfl⟩ := hresolve.made_eq
    · refine .inl ⟨_, rfl, ?_⟩
      rintro record ⟨⟩ interfaceId hlead
      cases hfirst.symm.trans (firstInterfaceId?_eq_some_iff.2 hlead)
      exact hunread
    · exact .inr ⟨record, first, identifier, interface, answer,
        firstInterfaceId?_eq_some_iff.1 hfirst, hname, rfl⟩

theorem Reads.absent_iff (h : Reads id made result) :
    result = .ok none ↔ ∃ group name failure, parseId id = .ok (group, name) ∧
      made = [.getEndpoint group name (.error failure)] ∧ failure.Says404 := by
  constructor
  · rintro rfl
    cases h with
    | absent hid hfailure => exact ⟨_, _, _, hid, rfl, Failure.isNotFound_iff.1 hfailure⟩
  · rintro ⟨group, name, failure, hid, rfl, hfailure⟩
    cases h with
    | absent => rfl
    | failed _ hother => exact absurd hfailure (Failure.isNotFound_eq_false_iff.1 hother)

theorem Reads.request_iff (h : Reads id made result) {step : Step} {name group : String}
    {failure : Failure} :
    result = .error (.request step name group failure) ↔
      step = .read ∧ parseId id = .ok (group, name) ∧
        made = [.getEndpoint group name (.error failure)] ∧ ¬ failure.Says404 := by
  constructor
  · rintro rfl
    cases h with
    | invalid hid => obtain ⟨_, ⟨⟩⟩ := invalidId_of_parseId hid
    | failed hid hfailure => exact ⟨rfl, hid, rfl, Failure.isNotFound_eq_false_iff.1 hfailure⟩
    | unresolved _ _ hresolve =>
      cases hresolve with
      | invalid hname => obtain ⟨_, ⟨⟩⟩ := invalidId_of_nameIn hname
  · rintro ⟨rfl, hid, rfl, hfailure⟩
    cases h with
    | absent _ hother => exact absurd (Failure.isNotFound_iff.1 hother) hfailure
    | failed => rfl

theorem Reads.invalidId_iff (h : Reads id made result) {text reason : String} :
    result = .error (.invalidId text reason) ↔
      parseId id = .error (.invalidId text reason) ∨
        ∃ group name record, parseId id = .ok (group, name) ∧
          made = [.getEndpoint group name (.ok record)] ∧ record.LeadsWith text ∧
          nameIn "networkInterfaces" text = .error (.invalidId text reason) := by
  constructor
  · rintro rfl
    cases h with
    | invalid hid => exact .inl hid
    | @unresolved group name interfaceId record _ _ hid hfirst hresolve =>
      cases hresolve with
      | invalid hname =>
        -- The fault is about the identifier of the interface.
        obtain ⟨found, hfault⟩ := invalidId_of_nameIn hname
        obtain ⟨rfl, rfl⟩ := Fault.invalidId.inj hfault
        exact .inr ⟨group, name, record, hid, rfl, firstInterfaceId?_eq_some_iff.1 hfirst, hname⟩
  · rintro (hid | ⟨group, name, record, hid, rfl, hlead, hname⟩)
    · exact (h.malformed hid).2
    · have hfirst := firstInterfaceId?_eq_some_iff.2 hlead
      cases h with
      | detached _ hnone => cases hfirst.symm.trans hnone
      | unresolved _ hother hresolve =>
        cases hfirst.symm.trans hother
        cases hresolve with
        | invalid hfault => exact congrArg Except.error (Except.error.inj (hfault.symm.trans hname))
      | attached _ _ hresolve => cases hresolve

theorem Reads.interfaceNotFound_iff (h : Reads id made result) {interface group : String} :
    result = .error (.interfaceNotFound interface group) ↔
      ∃ name record failure, parseId id = .ok (group, name) ∧
        made = [.getEndpoint group name (.ok record),
          .getInterface group interface (.error failure)] ∧ failure.Says404 := by
  constructor
  · rintro rfl
    cases h with
    | invalid hid => obtain ⟨_, ⟨⟩⟩ := invalidId_of_parseId hid
    | unresolved hid _ hresolve =>
      cases hresolve with
      | invalid hname => obtain ⟨_, ⟨⟩⟩ := invalidId_of_nameIn hname
      | missing _ hfailure => exact ⟨_, _, _, hid, rfl, Failure.isNotFound_iff.1 hfailure⟩
  · rintro ⟨name, record, failure, hid, rfl, hfailure⟩
    cases h with
    | unresolved _ _ hresolve =>
      cases hresolve with
      | missing => rfl
      | failed _ hother => exact absurd hfailure (Failure.isNotFound_eq_false_iff.1 hother)
    | attached _ _ hresolve => cases hresolve

theorem Reads.interface_iff (h : Reads id made result) {interface group : String}
    {failure : Failure} :
    result = .error (.interface interface group failure) ↔
      ∃ name record, parseId id = .ok (group, name) ∧
        made = [.getEndpoint group name (.ok record),
          .getInterface group interface (.error failure)] ∧ ¬ failure.Says404 := by
  constructor
  · rintro rfl
    cases h with
    | invalid hid => obtain ⟨_, ⟨⟩⟩ := invalidId_of_parseId hid
    | unresolved hid _ hresolve =>
      cases hresolve with
      | invalid hname => obtain ⟨_, ⟨⟩⟩ := invalidId_of_nameIn hname
      | failed _ hfailure => exact ⟨_, _, hid, rfl, Failure.isNotFound_eq_false_iff.1 hfailure⟩
  · rintro ⟨name, record, hid, rfl, hfailure⟩
    cases h with
    | unresolved _ _ hresolve =>
      cases hresolve with
      | missing _ hother => exact absurd (Failure.isNotFound_iff.1 hother) hfailure
      | failed => rfl
    | attached _ _ hresolve => cases hresolve

theorem Reads.found_iff (h : Reads id made result) :
    (∃ observed, result = .ok (some observed)) ↔
      ∃ group name record, parseId id = .ok (group, name) ∧
        ((made = [.getEndpoint group name (.ok record)] ∧ ∀ first, ¬ record.LeadsWith first) ∨
          ∃ interface found, made =
            [.getEndpoint group name (.ok record), .getInterface group interface (.ok found)]) := by
  constructor
  · rintro ⟨observed, rfl⟩
    cases h with
    | detached hid hnone =>
      refine ⟨_, _, _, hid, .inl ⟨rfl, fun first hlead => ?_⟩⟩
      cases hnone.symm.trans (firstInterfaceId?_eq_some_iff.2 hlead)
    | attached hid _ hresolve =>
      cases hresolve with
      | found => exact ⟨_, _, _, hid, .inr ⟨_, _, rfl⟩⟩
  · rintro ⟨group, name, record, hid, ⟨rfl, hnone⟩ | ⟨interface, found, rfl⟩⟩
    · cases h with
      | detached => exact ⟨_, rfl⟩
      | unresolved _ hfirst => exact absurd (firstInterfaceId?_eq_some_iff.1 hfirst) (hnone _)
      | attached => exact ⟨_, rfl⟩
    · cases h with
      | unresolved _ _ hresolve => cases hresolve
      | attached => exact ⟨_, rfl⟩

/-- The address of a connection is that of the interface that was fetched. -/
theorem Reads.privateAddress_iff {observed : Observed} (h : Reads id made (.ok (some observed)))
    {connection : Connection} (hconnection : connection ∈ observed.spec.connections)
    {address : String} :
    connection.privateAddress = some address ↔ ∃ group name interface,
      .getInterface group name (.ok interface) ∈ made ∧ interface.HasFirstAddress address := by
  cases h with
  | detached =>
    rw [privateAddress_of_mem_observe hconnection]
    constructor
    · rintro ⟨⟩
    · rintro ⟨group, name, interface, hmem, -⟩
      cases List.mem_singleton.1 hmem
  | attached _ _ hresolve =>
    rw [privateAddress_of_mem_observe hconnection]
    cases hresolve with
    | @found identifier found interface hname =>
      rw [Wire.Interface.firstAddress?_eq_some_iff]
      constructor
      · exact fun haddress => ⟨_, found, interface, List.mem_cons_of_mem _ (.head _), haddress⟩
      · rintro ⟨group, name, fetched, hmem, haddress⟩
        obtain ⟨-, -, rfl⟩ : _ ∧ _ ∧ fetched = interface := by simpa using hmem
        exact haddress

/-- **Reading ends as its answers say.** -/
theorem Reads.finding (h : Reads id made result) : Finding id made result where
  malformed fault hid :=
    ⟨(h.malformed hid).1, (h.malformed hid).2, invalidId_of_parseId hid⟩
  calls _ _ := h.made_eq
  absent_iff := h.absent_iff
  living group name record hmem habsent := by
    obtain ⟨_, _, failure, _, rfl, _⟩ := h.absent_iff.1 habsent
    cases List.mem_singleton.1 hmem
  request_iff _ _ _ _ := h.request_iff
  invalidId_iff _ _ := h.invalidId_iff
  interfaceNotFound_iff _ _ := h.interfaceNotFound_iff
  interface_iff _ _ _ := h.interface_iff
  found_iff := h.found_iff
  addresses observed hresult connection hconnection address := by
    subst hresult
    exact h.privateAddress_iff hconnection

end Endpoint

namespace Provider

open Endpoint

variable {σ : Type}

/-- What is found out about an endpoint is shown as the state of its resource. -/
theorem read_some {provider : Provider σ} {address : Address} {id : String}
    {type : Catalogue.ResourceType} (htype : resourceType address = .ok type) :
    provider.read address (some id) = do
      let result ← provider.run address fun scope => Endpoint.read provider.client scope id
      return result.map (Task.stateFound address) := by
  funext state
  simp only [Provider.read, htype, bind, StateT.bind]
  rcases provider.run address _ state with ⟨error | read | read, after⟩ <;> rfl

/-- A resource is shown as absent just when nothing was found. -/
theorem read_eq_absent_iff {provider : Provider σ} {address : Address} {id : String} {state : σ}
    {type : Catalogue.ResourceType} (htype : resourceType address = .ok type) :
    (provider.read address (some id) state).1 = .ok (.absent address) ↔
      (Endpoint.read provider.client (provider.operationScope state) id state).1 = .ok none := by
  have hshown : (provider.read address (some id) state).1 =
      (shown address
        (Endpoint.read provider.client (provider.operationScope state) id state).1).map
          (Task.stateFound address) := by
    rw [read_some htype]
    rfl
  rw [hshown]
  rcases (Endpoint.read provider.client _ id state).1 with fault | _ | observed
  · exact iff_of_false (fun h => by cases h) (fun h => by cases h)
  · exact iff_of_true rfl rfl
  · -- A state of an endpoint that was found says so.
    refine iff_of_false (fun habsent => ?_) (fun h => by cases h)
    cases congrArg State.found (Except.ok.inj habsent)

/-- **What is found out about an endpoint** follows from the answers of the service in one way,
whatever the provider talks to. Nothing is found just when the identifier can be read and asking for
the endpoint was answered with the status 404, and only then is a resource shown as absent. -/
theorem read_finding (provider : Provider σ) (scope : Stop.Scope) (id : String) (state : σ)
    (earlier : List Answered) :
    (∃ made, Endpoint.read provider.client.recorded scope id (state, earlier) =
        ((Endpoint.read provider.client scope id state).1,
          (Endpoint.read provider.client scope id state).2, earlier ++ made) ∧
      Finding id made (Endpoint.read provider.client scope id state).1) ∧
    ∀ address type, resourceType address = .ok type →
      ((provider.read address (some id) state).1 = .ok (.absent address) ↔
        (Endpoint.read provider.client (provider.operationScope state) id state).1 = .ok none) := by
  obtain ⟨made, hmade, hreads⟩ := told_read provider.client scope id state earlier
  exact ⟨⟨made, hmade, hreads.finding⟩, fun _ _ htype => read_eq_absent_iff htype⟩

/-- A missing interface is told of, and the resource is not shown as absent. -/
theorem read_finding_of_missing_interface :
    let id := "/subscriptions/s/resourceGroups/g/privateEndpoints/e"
    let record : Wire.Endpoint :=
      { properties := some
          { interfaces := some
              [{ id := some "/subscriptions/s/resourceGroups/g/networkInterfaces/n" }] } }
    let missing := Failure.notFound "no such interface"
    let script : Script :=
      { replies := [{ endpoint := some record }, { failure := some missing }] }
    let provider : Provider Script :=
      { client := Script.client, settings := { subscription := "s" } }
    let address : Address := { type := "private_link_endpoint", name := "main" }
    Finding id [.getEndpoint "g" "e" (.ok record), .getInterface "g" "n" (.error missing)]
        (.error (.interfaceNotFound "n" "g")) ∧
      (provider.read address (some id) script).1 ≠ .ok (.absent address) := by
  intro id record missing script provider address
  have hresult : ∀ scope ∈ [Stop.Scope.background, provider.operationScope script],
      (Endpoint.read provider.client scope id script).1 = .error (.interfaceNotFound "n" "g") := by
    decide +kernel
  have hcalls : (Endpoint.read provider.client.recorded .background id (script, [])).2.2 =
      [.getEndpoint "g" "e" (.ok record), .getInterface "g" "n" (.error missing)] := by
    decide +kernel
  obtain ⟨⟨made, hmade, hfinding⟩, hshown⟩ := read_finding provider .background id script []
  obtain ⟨type, htype⟩ : ∃ type, resourceType address = .ok type := ⟨_, rfl⟩
  rw [hmade] at hcalls
  rw [hresult _ (by simp)] at hfinding
  rw [Ne, hshown address type htype, hresult _ (by simp)]
  exact ⟨hcalls ▸ hfinding, fun h => by cases h⟩

end Provider

end PrivateLink
