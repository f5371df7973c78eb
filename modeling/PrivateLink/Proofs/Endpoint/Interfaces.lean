import PrivateLink.Proofs.Endpoint.Course
import PrivateLink.Script

/-!
# The interface that gives the private address

When an endpoint is found, the interface that its record lists first is looked up by its identifier,
and the first address of this interface becomes the address of every connection. An interface
without an identifier is not looked up, and it is left out of the identifiers that are shown. So if
it is the first one in the record, then the identifiers that are shown begin with an interface that
nobody has looked up, and the connections have no address.

* `firstInterfaceId?_eq_some_iff`, `firstAddress?_eq_some_iff`: which interface is looked up, and
  which address it gives;
* `read_first_interface`: when the address is that of the interface shown first;
* `read_skips_shown_interface`: that it need not be.
-/

namespace PrivateLink

open Network

namespace Wire

/-- The first address configuration of the interface has the private address. -/
def Interface.HasFirstAddress (interface : Interface) (address : String) : Prop :=
  ∃ properties first others given, interface.properties = some properties ∧
    properties.addressConfigurations = some (first :: others) ∧
    first.properties = some given ∧ given.privateAddress = some address

/-- The interfaces that the record of an endpoint lists. -/
def Endpoint.interfaces (record : Endpoint) : List Interface :=
  (record.properties.bind (·.interfaces)).getD []

/-- The interface that the record lists first has the identifier. -/
def Endpoint.LeadsWith (record : Endpoint) (id : String) : Prop :=
  ∃ interface others, record.interfaces = interface :: others ∧ interface.id = some id

/-- The address that an interface gives is that of its first address configuration. -/
theorem Interface.firstAddress?_eq_some_iff {interface : Interface} {address : String} :
    interface.firstAddress? = some address ↔ interface.HasFirstAddress address := by
  constructor
  · intro h
    obtain ⟨properties, hproperties, h⟩ := Option.bind_eq_some_iff.1 h
    obtain ⟨configurations, hconfigurations, h⟩ := Option.bind_eq_some_iff.1 h
    obtain ⟨first, hfirst, h⟩ := Option.bind_eq_some_iff.1 h
    obtain ⟨given, hgiven, haddress⟩ := Option.bind_eq_some_iff.1 h
    obtain ⟨others, rfl⟩ := List.head?_eq_some_iff.1 hfirst
    exact ⟨properties, first, others, given, hproperties, hconfigurations, hgiven, haddress⟩
  · rintro ⟨properties, first, others, given, hproperties, hconfigurations, hgiven, haddress⟩
    simp [firstAddress?, hproperties, hconfigurations, hgiven, haddress]

end Wire

namespace Endpoint

variable {σ : Type} {id group name interfaceId : String} {record : Wire.Endpoint}
  {address : Option String} {made : List Answered} {observed : Observed}

/-! ### Interfaces of a record -/

theorem firstInterfaceId?_eq (record : Wire.Endpoint) :
    firstInterfaceId? record = record.interfaces.head?.bind (·.id) := by
  unfold firstInterfaceId? Wire.Endpoint.interfaces
  rcases hproperties : record.properties with _ | ⟨_, _ | interfaces, _, _, _⟩ <;> rfl

/-- The identifier that is looked up is that of the interface listed first. -/
theorem firstInterfaceId?_eq_some_iff :
    firstInterfaceId? record = some interfaceId ↔ record.LeadsWith interfaceId := by
  rw [firstInterfaceId?_eq, Option.bind_eq_some_iff]
  constructor
  · rintro ⟨interface, hhead, hid⟩
    obtain ⟨others, hlisted⟩ := List.head?_eq_some_iff.1 hhead
    exact ⟨interface, others, hlisted, hid⟩
  · rintro ⟨interface, others, hlisted, hid⟩
    exact ⟨interface, List.head?_eq_some_iff.2 ⟨others, hlisted⟩, hid⟩

/-- An interface that is listed first with an identifier is shown first. -/
theorem head?_of_leadsWith (h : record.LeadsWith interfaceId) :
    (record.interfaces.filterMap (·.id)).head? = some interfaceId := by
  obtain ⟨interface, others, hlisted, hid⟩ := h
  rw [hlisted, List.filterMap_cons_some hid, List.head?_cons]

/-! ### Connections of an endpoint -/

@[simp]
theorem privateAddress_observeConnection (manual : Bool) (address : Option String)
    (record : Wire.Connection) :
    (observeConnection manual address record).privateAddress = address := by
  unfold observeConnection
  split <;> rfl

/-- All connections of an endpoint have the same private address. -/
theorem privateAddress_of_mem_observe {connection : Connection}
    (h : connection ∈ (observe id group name record address).spec.connections) :
    connection.privateAddress = address := by
  simp only [observe] at h
  split at h
  next properties _ =>
    obtain hmem | hmem := List.mem_append.1 h
    all_goals
      obtain ⟨sent, -, rfl⟩ := List.mem_map.1 hmem
      exact privateAddress_observeConnection ..
  next => cases h

/-! ### The address of the interface that is shown first -/

/-- The interface with the identifier was looked up in the resource group, by the name that the
identifier gives, and every connection has the first address of this interface. -/
def ResolvedFrom (group interfaceId : String) (made : List Answered) (observed : Observed) : Prop :=
  ∃ identifier name interface,
    nameIn "networkInterfaces" interfaceId = .ok (identifier, name) ∧
    made = [.getInterface group name (.ok interface)] ∧
    ∀ connection ∈ observed.spec.connections, ∀ address,
      connection.privateAddress = some address ↔ interface.HasFirstAddress address

theorem Resolves.resolvedFrom (h : Resolves group interfaceId made (.ok address)) :
    ResolvedFrom group interfaceId made (observe id group name record address) := by
  cases h with
  | @found identifier found interface hid =>
    refine ⟨identifier, found, interface, hid, rfl, fun connection hconnection given => ?_⟩
    rw [privateAddress_of_mem_observe hconnection, Wire.Interface.firstAddress?_eq_some_iff]

/-- What was read of an endpoint: its record, and the interface that is listed first if that has an
identifier. -/
theorem Reads.exists_interfaces (h : Reads id made (.ok (some observed))) :
    ∃ group name record rest, made = .getEndpoint group name (.ok record) :: rest ∧
      parseId id = .ok (group, name) ∧
      observed.interfaceIds = record.interfaces.filterMap (·.id) ∧
      (∀ first, record.LeadsWith first → ResolvedFrom group first rest observed) ∧
      ((∀ first, ¬ record.LeadsWith first) →
        rest = [] ∧ ∀ connection ∈ observed.spec.connections, connection.privateAddress = none) := by
  cases h with
  | @detached group name record hid hfirst =>
    have hnone : ∀ first, ¬ record.LeadsWith first := by
      intro first hlead
      rw [firstInterfaceId?_eq_some_iff.2 hlead] at hfirst
      cases hfirst
    exact ⟨group, name, record, [], rfl, hid, rfl, fun first hlead => absurd hlead (hnone first),
      fun _ => ⟨rfl, fun _ => privateAddress_of_mem_observe⟩⟩
  | @attached group name interfaceId record rest address hid hfirst hresolve =>
    refine ⟨group, name, record, rest, rfl, hid, rfl, fun first hlead => ?_, fun hnone => ?_⟩
    · have hsame : some interfaceId = some first :=
        hfirst.symm.trans (firstInterfaceId?_eq_some_iff.2 hlead)
      exact Option.some.inj hsame ▸ hresolve.resolvedFrom
    · exact absurd (firstInterfaceId?_eq_some_iff.1 hfirst) (hnone interfaceId)

/-- **The address is that of the interface listed first.** When an endpoint is found, over any
client, the first call has fetched its record. If the interface that the record lists first has an
identifier, then this is the first identifier that is shown, and otherwise no interface is looked up
and no connection has an address. So the address comes from the interface that is shown first just
when that one is also the first in the record. -/
theorem read_first_interface (client : Client σ) (scope : Stop.Scope) (id : String) (state : σ)
    (earlier : List Answered) {observed : Observed}
    (h : (read client scope id state).1 = .ok (some observed)) :
    ∃ group name record made,
      read client.recorded scope id (state, earlier) =
        (.ok (some observed), (read client scope id state).2,
          earlier ++ .getEndpoint group name (.ok record) :: made) ∧
      parseId id = .ok (group, name) ∧
      observed.interfaceIds = record.interfaces.filterMap (·.id) ∧
      (∀ first, record.LeadsWith first → observed.interfaceIds.head? = some first) ∧
      (∀ first others, observed.interfaceIds = first :: others →
        (ResolvedFrom group first made observed ↔ record.LeadsWith first)) ∧
      ((∀ first, ¬ record.LeadsWith first) →
        made = [] ∧ ∀ connection ∈ observed.spec.connections, connection.privateAddress = none) := by
  obtain ⟨all, hall, hreads⟩ := told_read client scope id state earlier
  rw [h] at hall hreads
  obtain ⟨group, name, record, made, rfl, hid, hids, hresolved, hunresolved⟩ :=
    hreads.exists_interfaces
  have hshown : ∀ first, record.LeadsWith first → observed.interfaceIds.head? = some first :=
    fun first hlead => hids ▸ head?_of_leadsWith hlead
  refine ⟨group, name, record, made, hall, hid, hids, hshown, fun first others hfirst => ?_,
    hunresolved⟩
  constructor
  · rintro ⟨_, _, _, _, hmade, _⟩
    by_cases hlead : ∃ leading, record.LeadsWith leading
    · -- The record begins with an identifier, and that is the one which is shown first.
      obtain ⟨leading, hleading⟩ := hlead
      have hhead := hshown leading hleading
      rw [hfirst, List.head?_cons] at hhead
      exact Option.some.inj hhead ▸ hleading
    · have hnone : made = [] := (hunresolved (not_exists.1 hlead)).1
      exact absurd (hmade.symm.trans hnone) (List.cons_ne_nil _ _)
  · exact hresolved first

/-- Of two interfaces with identifiers the first one is looked up, and its first address counts. -/
theorem read_first_of_two_interfaces :
    let id := "/subscriptions/s/resourceGroups/g/privateEndpoints/e"
    let first := "/subscriptions/s/resourceGroups/g/networkInterfaces/m"
    let second := "/subscriptions/s/resourceGroups/g/networkInterfaces/n"
    let addressed (address : String) : Wire.AddressConfiguration :=
      { properties := some { privateAddress := some address } }
    let record : Wire.Endpoint :=
      { properties := some
          { interfaces := some [{ id := some first }, { id := some second }]
            manualConnections := some [{ name := some "c" }] } }
    let interface : Wire.Interface :=
      { properties := some
          { addressConfigurations := some [addressed "10.0.0.4", addressed "10.0.0.5"] } }
    let script : Script :=
      { replies := [{ endpoint := some record }, { interface := some interface }] }
    let observed := observe id "g" "e" record (some "10.0.0.4")
    (read Script.client .background id script).1 = .ok (some observed) ∧
      observed.interfaceIds = [first, second] ∧ record.LeadsWith first ∧
      ResolvedFrom "g" first [.getInterface "g" "m" (.ok interface)] observed := by
  intro id first second addressed record interface script observed
  have hread : (read Script.client .background id script).1 = .ok (some observed) := by
    decide +kernel
  have hcalls : (read Script.client.recorded .background id (script, [])).2.2 =
      [.getEndpoint "g" "e" (.ok record), .getInterface "g" "m" (.ok interface)] := by
    decide +kernel
  have hlead : record.LeadsWith first := ⟨_, _, rfl, rfl⟩
  obtain ⟨group, name, found, made, hmade, -, -, -, hresolved, -⟩ :=
    read_first_interface Script.client .background id script [] hread
  rw [hmade] at hcalls
  cases hcalls
  exact ⟨hread, rfl, hlead, (hresolved first _ rfl).2 hlead⟩

/-- The interface that the record lists first has no identifier, so the one with the identifier that
is shown is not looked up, although the service would give its address. -/
theorem read_skips_shown_interface :
    let id := "/subscriptions/s/resourceGroups/g/privateEndpoints/e"
    let interfaceId := "/subscriptions/s/resourceGroups/g/networkInterfaces/n"
    let record : Wire.Endpoint :=
      { properties := some
          { interfaces := some [{ name := some "m" }, { id := some interfaceId }]
            automaticConnections := some [{ name := some "c" }] } }
    let interface : Wire.Interface :=
      { properties := some
          { addressConfigurations := some
              [{ properties := some { privateAddress := some "10.0.0.4" } }] } }
    let script : Script :=
      { replies := [{ endpoint := some record }, { interface := some interface }] }
    let ended := read Script.client.recorded .background id (script, [])
    ∃ observed, ended.1 = .ok (some observed) ∧ observed.interfaceIds = [interfaceId] ∧
      ended.2.2 = [.getEndpoint "g" "e" (.ok record)] ∧
      observed.spec.connections.map (·.privateAddress) = [none] ∧
      ¬ ResolvedFrom "g" interfaceId [] observed := by
  intro id interfaceId record interface script ended
  refine ⟨observe id "g" "e" record none, by decide +kernel, rfl, by decide +kernel, rfl, ?_⟩
  rintro ⟨_, _, _, _, hmade, _⟩
  cases hmade

end Endpoint

end PrivateLink
