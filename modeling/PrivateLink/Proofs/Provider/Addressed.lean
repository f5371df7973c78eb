import Mathlib.Control.Monad.Basic
import PrivateLink.Proofs.Manager.Address
import PrivateLink.Proofs.Manager.Requests
import PrivateLink.Proofs.Provider.Task

/-!
# Which endpoint is asked for

Reading and deleting take the resource group and the name from an identifier, and the subscription
from the client. The subscription in the identifier is not looked at.

* `run_addressed`: every request for an endpoint is about the one with the group and the name of the
  identifier in the subscription of the client;
* `delete_other_subscription`: also when the identifier is one of another subscription.
-/

namespace PrivateLink

open Manager Network

namespace Endpoint

variable (client : Manager.Client) (scope : Stop.Scope) {server : Server} {id group name : String}

theorem sends_resolveAddress (group interfaceId : String) :
    Sends (resolveAddress client.network scope group interfaceId) server fun request =>
      ∃ interface, Directed .get (client.interfaceUrl group interface) request := by
  unfold resolveAddress
  split
  next => exact .pure _
  next _ interface hid =>
    refine ((client.sends_fetch scope (client.interfaceUrl group interface)).mono
      fun _ h => ⟨interface, h⟩).bind ?_
    split
    next => exact .pure _
    next => split <;> exact .pure _

/-- Reading asks for the endpoint and for an interface in its resource group. -/
theorem sends_read (hid : parseId id = .ok (group, name)) :
    Sends (read client.network scope id) server fun request =>
      Directed .get (client.endpointUrl group name) request ∨
        ∃ interface, Directed .get (client.interfaceUrl group interface) request := by
  unfold read
  rw [hid]
  refine ((client.sends_fetch scope (client.endpointUrl group name)).mono fun _ => .inl).bind ?_
  split
  next => split <;> exact .pure _
  next =>
    split
    next => exact .pure _
    next interfaceId _ =>
      refine ((sends_resolveAddress client scope group interfaceId).mono fun _ => .inr).bind ?_
      split <;> exact .pure _

/-- Deleting asks for the endpoint, and further where a reply of the server says. -/
theorem sends_remove (hid : parseId id = .ok (group, name)) :
    Sends (remove client.network scope id) server fun request =>
      Directed .delete (client.endpointUrl group name) request ∨
      Directed .get (client.endpointUrl group name) request ∨
      ∃ reply address, .reply reply ∈ server.turns ∧
        (reply.header? "azure-asyncoperation" = some address ∨
          reply.header? "location" = some address) ∧ Directed .get address request := by
  unfold remove
  rw [hid]
  refine ((client.sends_begin scope .delete (client.endpointUrl group name) none).mono
    fun _ => .inl).bind ?_
  split
  next => split <;> exact .pure _
  next operation hbegun =>
    obtain ⟨reply, hreply, rfl⟩ := client.mem_turns_of_begin_ok scope hbegun
    refine ((client.sends_wait scope _).mono ?_).bind ?_
    · rintro request ⟨address, haddress, hdirected⟩
      rw [Client.operationBegun_target] at haddress
      obtain hmonitor | hlocation | rfl := Client.address_of_targetOf haddress
      · exact .inr (.inr ⟨reply, address, hreply, .inl hmonitor, hdirected⟩)
      · exact .inr (.inr ⟨reply, address, hreply, .inr hlocation, hdirected⟩)
      · exact .inr (.inl hdirected)
    · split
      next => exact .pure _
      next => split <;> exact .pure _

end Endpoint

namespace Provider

variable {client : Manager.Client} {server : Server} {α : Type}

/-- An operation sends what its work sends. -/
theorem sends_run {provider : Provider Server} {Allowed : Manager.Request → Prop}
    (address : Address) {work : Stop.Scope → StateM Server (Except Endpoint.Fault α)}
    (hwork : ∀ scope, Sends (work scope) server Allowed) :
    Sends (provider.run address work) server Allowed :=
  (hwork (provider.operationScope server)).bind (.pure _)

/-- **Which endpoint is asked for.** Reading sends requests for the endpoint at the address made of
the subscription of the client and the resource group and the name in the identifier, and for
interfaces in the group. Deleting sends requests to the same address, and to addresses that the
server names in replies. If the parts of the address stand for themselves, a request to it is about
the endpoint with this subscription, group and name. -/
theorem run_addressed (client : Manager.Client) (settings : Settings) (scope : Stop.Scope)
    (address : Address) (server : Server) {id group name : String}
    (hid : Endpoint.parseId id = .ok (group, name)) :
    let provider : Provider Server := { client := client.network, settings, scope }
    let url := client.endpointUrl group name
    Sends ((Task.read address (some id)).run provider) server (fun request =>
      Directed .get url request ∨
      ∃ interface, Directed .get (client.interfaceUrl group interface) request) ∧
    Sends ((Task.delete address id).run provider) server (fun request =>
      Directed .delete url request ∨ Directed .get url request ∨
      ∃ reply address, .reply reply ∈ server.turns ∧
        (reply.header? "azure-asyncoperation" = some address ∨
          reply.header? "location" = some address) ∧ Directed .get address request) ∧
    ∀ method request, Directed method url request →
      Url.IsServerAddress client.manager → Url.IsPlain client.subscription →
      Url.IsPlain group → Url.IsPlain name →
      request.resource? =
        some { subscription := client.subscription, group, kind := "privateEndpoints", name } := by
  intro provider url
  refine ⟨?_, ?_, ?_⟩
  · cases htype : resourceType address with
    | error error =>
      rw [Task.run_read_of_error htype]
      exact .pure _
    | ok found =>
      rw [Task.run_read htype]
      exact (sends_run address fun scope => Endpoint.sends_read client scope hid).bind (.pure _)
  · cases htype : resourceType address with
    | error error =>
      rw [Task.run_delete_of_error htype]
      exact .pure _
    | ok found =>
      rw [Task.run_delete htype]
      exact (sends_run address fun scope => Endpoint.sends_remove client scope hid).bind (.pure _)
  · intro method request hdirected hmanager hsubscription hgroup hname
    exact resource?_of_resourceUrl hmanager hsubscription hgroup (by decide) hname hdirected.2

/-- What is deleted by an identifier in the subscription "s" is about the endpoint in it. -/
theorem delete_addressed :
    let client := Manager.Client.forSubscription "https://management.azure.com" "s" 1000
    let provider : Provider Server :=
      { client := client.network, settings := { subscription := "s" } }
    let id := "/subscriptions/s/resourceGroups/g/providers/Microsoft.Network/privateEndpoints/e"
    let address : Address := { type := "private_link_endpoint", name := "main" }
    let server : Server := { token := .ok "t", turns := [.reply { status := 204 }] }
    Endpoint.parseId id = .ok ("g", "e") ∧
      ∀ request ∈ ((Task.delete address id).run provider server).2.requests,
        request.resource? =
          some { subscription := "s", group := "g", kind := "privateEndpoints", name := "e" } := by
  intro client provider id address server
  have hid : Endpoint.parseId id = .ok ("g", "e") := by decide +kernel
  refine ⟨hid, fun request hmem => ?_⟩
  obtain ⟨-, ⟨sent, hsent, hallowed⟩, habout⟩ :=
    run_addressed client { subscription := "s" } .background address server hid
  have hmanager : Url.IsServerAddress client.manager :=
    ⟨"https", "management.azure.com", "", by decide +kernel, .inr rfl, by decide,
      Url.forall_mem_of_all (by decide), .inl rfl, nofun⟩
  have hdirected : ∀ method, Directed method (client.endpointUrl "g" "e") request →
      request.resource? = _ := fun method h =>
    habout method request h hmanager (by decide) (by decide) (by decide)
  rw [hsent] at hmem
  obtain h | h | ⟨reply, asked, hreply, hheader, -⟩ := hallowed request hmem
  · exact hdirected .delete h
  · exact hdirected .get h
  · cases hreply with
    | head => obtain h | h := hheader <;> cases h
    | tail _ h => cases h

/-- What is deleted by an identifier in the subscription "other" is an endpoint in "mine". -/
theorem delete_other_subscription :
    let client := Manager.Client.forSubscription "http://h" "mine" 1000
    let provider : Provider Server :=
      { client := client.network, settings := { subscription := "mine" } }
    let id := "/subscriptions/other/resourceGroups/g/providers/Microsoft.Network/privateEndpoints/e"
    let address : Address := { type := "private_link_endpoint", name := "main" }
    let server : Server := { token := .ok "t", turns := [.reply { status := 204 }] }
    let ended := (Task.delete address id).run provider server
    (Identifier.parse id).map (·.subscription) = .ok "other" ∧
      Endpoint.parseId id = .ok ("g", "e") ∧
      ended.1 = .ok none ∧
      ended.2.requests =
        [.authorized "t" .delete ("/subscriptions/mine/resourceGroups/g/providers/" ++
          "Microsoft.Network/privateEndpoints/e?api-version=2019-06-01") none] := by
  intro client provider id address server ended
  decide +kernel

end Provider

end PrivateLink
