import PrivateLink.Proofs.Manager.Written
import PrivateLink.Proofs.Provider.Addressed
import PrivateLink.Proofs.Provider.Named

/-!
# Names that addresses can hold

An endpoint is fetched, put and deleted at one address, which the client makes of the resource group
and the name without changing either. The rule for names of resource groups lets only characters
through that stand for themselves in an address, but a name of an endpoint may be any text that is
not blank. So it depends on the name whether the address is that of the endpoint.

* `Catalogue.isPlain_of_checkGroupName`: groups stand for themselves in addresses;
* `accepted_located`: which endpoint the address of an accepted resource is that of.
-/

namespace PrivateLink

open Manager
open Manager.Url

/-- The name of a resource group stands for itself in an address. -/
theorem Catalogue.isPlain_of_checkGroupName {name : String} (h : checkGroupName name = .ok ()) :
    IsPlain name := by
  obtain ⟨-, hlast, hall⟩ := characters_of_checkGroupName h
  have hparting : ∀ c ∈ '%' :: parting, isGroupCharacter c = false :=
    forall_mem_of_all (by decide +kernel)
  refine ⟨fun c hc hmem => ?_, ?_, ?_⟩
  · exact Bool.false_ne_true ((hparting c hmem).symm.trans (hall c hc))
  · rintro rfl
    exact hlast rfl
  · rintro rfl
    exact hlast rfl

namespace Provider

open Network

theorem isPlain_group_of_specOf {resource : Resource} {spec : Endpoint.Spec}
    (h : specOf resource = .ok spec) : IsPlain spec.resourceGroup :=
  Catalogue.isPlain_of_checkGroupName (isDesired_of_specOf h).resourceGroup

/-- **Which endpoint an address is that of.** Let the address of the manager have no question mark
and no number sign, and the subscription no slash either. The endpoint of an accepted resource is
fetched, put and deleted at one address, which has the path and the query that it should have just
when there is no slash, no question mark and no number sign in the name of the endpoint. Two accepted
resources share a path just when they have one group and their names agree up to the first question
mark or number sign; so those that can be written as one segment share it only when they have one
group and one name. If the name and the subscription stand for themselves, a request to the address
is about the endpoint. -/
theorem accepted_located (client : Manager.Client)
    (hmanager : ∀ c ∈ client.manager.toList, endsPath c = false)
    (hsubscription : IsOneSegment client.subscription) {resource : Resource} {spec : Endpoint.Spec}
    (hspec : specOf resource = .ok spec) :
    let url := client.endpointUrl spec.resourceGroup spec.name
    (∀ (scope : Stop.Scope) (server : Server),
      Sends (client.network.getEndpoint scope spec.resourceGroup spec.name) server
          (Directed .get url) ∧
        Sends (client.network.beginPut scope spec.resourceGroup spec.name spec.parameters) server
          (Directed .put url) ∧
        Sends (client.network.beginDelete scope spec.resourceGroup spec.name) server
          (Directed .delete url)) ∧
    (Locates client spec.resourceGroup spec.name url ↔ IsOneSegment spec.name) ∧
    (∀ (other : Resource) (others : Endpoint.Spec), specOf other = .ok others →
      let path := writtenPath (client.endpointUrl others.resourceGroup others.name)
      (writtenPath url = path ↔ spec.resourceGroup = others.resourceGroup ∧
        writtenPath spec.name = writtenPath others.name) ∧
      (IsOneSegment spec.name → IsOneSegment others.name → writtenPath url = path →
        spec.resourceGroup = others.resourceGroup ∧ spec.name = others.name)) ∧
    (IsServerAddress client.manager → IsPlain client.subscription → IsPlain spec.name →
      ∀ method request, Directed method url request →
        request.resource? = some
          { subscription := client.subscription, group := spec.resourceGroup,
            kind := "privateEndpoints", name := spec.name }) := by
  intro url
  have hgroup := isPlain_group_of_specOf hspec
  refine ⟨fun scope server => ⟨?_, ?_, ?_⟩, ?_, fun other others hothers => ?_, ?_⟩
  · exact client.sends_fetch scope url
  · exact client.sends_begin scope .put url _
  · exact client.sends_begin scope .delete url none
  · exact locates_endpointUrl_iff hmanager hsubscription hgroup.isOneSegment
  · intro path
    have hshared : writtenPath url = path ↔ spec.resourceGroup = others.resourceGroup ∧
        writtenPath spec.name = writtenPath others.name :=
      writtenPath_endpointUrl_eq_iff hmanager hsubscription hgroup.isOneSegment
        (isPlain_group_of_specOf hothers).isOneSegment
    refine ⟨hshared, fun hname hname' heq => ?_⟩
    obtain ⟨hgroups, hnames⟩ := hshared.1 heq
    rw [writtenPath_eq_toList_iff.2 hname.endsPath_eq_false,
      writtenPath_eq_toList_iff.2 hname'.endsPath_eq_false] at hnames
    exact ⟨hgroups, String.toList_inj.1 hnames⟩
  · intro haddress hplain hname method request hdirected
    exact resource?_of_resourceUrl haddress hplain hgroup (by decide) hname hdirected.2

/-- Two endpoints of one group are apart, and the one with the name "e" is where it is deleted. -/
theorem accepted_located_apart :
    let client := Manager.Client.forSubscription "http://h" "s" 1000
    let url (name : String) := client.endpointUrl "g" name
    let server : Server := { token := .ok "t", turns := [.reply { status := 204 }] }
    Locates client "g" "e" (url "e") ∧ writtenPath (url "e") ≠ writtenPath (url "f") ∧
      ∀ request ∈ (client.network.beginDelete .background "g" "e" server).2.requests,
        request.resource? =
          some { subscription := "s", group := "g", kind := "privateEndpoints", name := "e" } := by
  intro client url server
  let resource (name : String) : Resource :=
    { address := { type := "private_link_endpoint", name := "main" }
      attributes := plainAttributes name }
  let spec (name : String) : Endpoint.Spec :=
    { name, location := "westeurope", resourceGroup := "g", subnetId := "n" }
  have hspec : specOf (resource "e") = .ok (spec "e") := by decide +kernel
  have hother : specOf (resource "f") = .ok (spec "f") := by decide +kernel
  have hmanager : ∀ c ∈ client.manager.toList, endsPath c = false :=
    forall_mem_of_all (by decide +kernel)
  have haddress : IsServerAddress client.manager :=
    ⟨"http", "h", "", by decide +kernel, .inl rfl, by decide,
      forall_mem_of_all (by decide), .inl rfl, nofun⟩
  obtain ⟨hsends, hlocates, happart, habout⟩ :=
    accepted_located client hmanager (by decide) hspec
  have hone : IsOneSegment "e" := by decide
  refine ⟨hlocates.2 hone, fun heq => ?_, fun request hmem => ?_⟩
  · obtain ⟨-, hname⟩ := (happart (resource "f") (spec "f") hother).2 hone (by decide) heq
    exact absurd hname (by decide)
  · obtain ⟨-, -, sent, hsent, hdirected⟩ := hsends .background server
    rw [hsent] at hmem
    exact habout haddress (by decide) (by decide) .delete request (hdirected request hmem)

/-- The schema lets names through with which the address is that of another endpoint: a number sign
ends the path and hides the query, and dot segments lead to another subscription. -/
theorem accepted_elsewhere :
    let client := Manager.Client.forSubscription "http://h" "s" 1000
    let url (name : String) := client.endpointUrl "g" name
    let resource (name : String) : Resource :=
      { address := { type := "private_link_endpoint", name := "main" }
        attributes := plainAttributes name }
    let group := "/resourceGroups/g/providers/Microsoft.Network/privateEndpoints/"
    let foreign := "../../../../../../other" ++ group ++ "e"
    (∀ name ∈ ["e", "e#x", foreign], (resource name).problem? = none) ∧
      ¬ Locates client "g" "e#x" (url "e#x") ∧
      writtenPath (url "e#x") = writtenPath (url "e") ∧ writtenQuery (url "e#x") = [] ∧
      requestTarget? (url "e#x") = some ("/subscriptions/s" ++ group ++ "e") ∧
      requestTarget? (url foreign) =
        some ("/subscriptions/other" ++ group ++ "e?api-version=2019-06-01") := by
  intro client url resource group foreign
  have hmanager : ∀ c ∈ client.manager.toList, endsPath c = false :=
    forall_mem_of_all (by decide +kernel)
  refine ⟨?accepted, ?apart, ?path, ?query, ?hidden, ?subscription⟩
  case apart =>
    intro hlocates
    have hone := (locates_endpointUrl_iff hmanager (by decide) (by decide)).1 hlocates
    exact absurd hone (by decide)
  all_goals decide +kernel

end Provider

end PrivateLink
