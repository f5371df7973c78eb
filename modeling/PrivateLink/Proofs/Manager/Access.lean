import PrivateLink.Manager.Access
import PrivateLink.Proofs.Manager.Requests
import PrivateLink.Proofs.Settings.Outcome

/-!
# The address of the resource manager

The address that the variables give is checked first and loses the slashes at its end after that.
So it never ends with a slash, the client takes it as it is, and requests go to what is below it; but
of a scheme with nothing except slashes after it not even the slashes of the scheme are left.

* `isAddress_withoutFinalSlashes_iff`: which addresses are still addresses without final slashes;
* `manager_of_ofEnvironment`: what is known of the address that is used.
-/

namespace PrivateLink

/-! ### Slashes at the end -/

namespace Settings

variable {text : String}

/-- The text is a scheme with nothing but slashes after it. -/
def IsBareScheme (text : String) : Prop :=
  ∃ count, text.toList = "http:".toList ++ List.replicate count '/' ∨
    text.toList = "https:".toList ++ List.replicate count '/'

/-- Final slashes are dropped up to a character that is none, so what comes before such a character
stays. -/
theorem exists_withoutFinalSlashes {front rest : List Char} (h : text.toList = front ++ rest) :
    (∃ kept, (withoutFinalSlashes text).toList = front ++ kept) ∨
      ∃ count, rest = List.replicate count '/' := by
  obtain ⟨⟨count, hrest⟩, hlast⟩ := isTrimmed_withoutFinalSlashes (String.ofList rest)
  rw [String.toList_ofList] at hrest
  generalize (withoutFinalSlashes (String.ofList rest)).toList = kept at hrest hlast
  by_cases hkept : kept = []
  · rw [hkept] at hrest
    exact .inr ⟨count, hrest⟩
  · have htrimmed : IsTrimmed text (String.ofList (front ++ kept)) := by
      constructor
      · exact ⟨count, by rw [h, hrest, String.toList_ofList, List.append_assoc]⟩
      · rwa [String.toList_ofList, List.getLast?_append_of_ne_nil _ hkept]
    exact .inl ⟨kept, by rw [← htrimmed.eq, String.toList_ofList]⟩

theorem withoutFinalSlashes_of_isBareScheme (h : IsBareScheme text) :
    withoutFinalSlashes text = "http:" ∨ withoutFinalSlashes text = "https:" := by
  obtain ⟨count, htext | htext⟩ := h
  · have htrimmed : IsTrimmed text "http:" := ⟨⟨count, htext⟩, by decide⟩
    exact .inl htrimmed.eq.symm
  · have htrimmed : IsTrimmed text "https:" := ⟨⟨count, htext⟩, by decide⟩
    exact .inr htrimmed.eq.symm

/-- An address is still one without its final slashes unless it is a bare scheme. -/
theorem isAddress_withoutFinalSlashes_iff (h : IsAddress text) :
    IsAddress (withoutFinalSlashes text) ↔ ¬ IsBareScheme text := by
  constructor
  · intro haddress hbare
    rw [← isAddress_eq_true_iff] at haddress
    obtain hscheme | hscheme := withoutFinalSlashes_of_isBareScheme hbare
    · exact absurd (hscheme ▸ haddress) (by decide)
    · exact absurd (hscheme ▸ haddress) (by decide)
  · intro hmore
    obtain ⟨rest, htext | htext⟩ := h
    · obtain ⟨kept, hkept⟩ | ⟨count, rfl⟩ := exists_withoutFinalSlashes htext
      · exact ⟨kept, .inl hkept⟩
      · exact absurd ⟨count + 2, .inl htext⟩ hmore
    · obtain ⟨kept, hkept⟩ | ⟨count, rfl⟩ := exists_withoutFinalSlashes htext
      · exact ⟨kept, .inr hkept⟩
      · exact absurd ⟨count + 2, .inr htext⟩ hmore

/-- What the variables say about the address of the resource manager. -/
theorem Gives.manager_cases {environment : String → Option String} {settings : Settings}
    (h : Gives environment settings) :
    '/' ∉ settings.manager.toList.getLast? ∧
      (IsAddress settings.manager ↔
        ∀ value, Sets environment "ARM_RESOURCE_MANAGER_ENDPOINT" value → ¬ IsBareScheme value) ∧
      (¬ IsAddress settings.manager →
        settings.manager = "http:" ∨ settings.manager = "https:") := by
  by_cases hset : ∃ value, Sets environment "ARM_RESOURCE_MANAGER_ENDPOINT" value
  · obtain ⟨value, hvalue⟩ := hset
    obtain ⟨haddress, htrimmed⟩ := h.manager.1 value hvalue
    have hiff : IsAddress settings.manager ↔ ¬ IsBareScheme value := by
      rw [htrimmed.eq]
      exact isAddress_withoutFinalSlashes_iff haddress
    refine ⟨htrimmed.2, ?_, ?_⟩
    · rw [hiff]
      constructor
      · intro hmore other hother
        rwa [hother.unique hvalue]
      · exact fun hall => hall value hvalue
    · intro hnot
      rw [htrimmed.eq]
      exact withoutFinalSlashes_of_isBareScheme (not_not.1 (mt hiff.2 hnot))
  · have hunset : ∀ value, ¬ Sets environment "ARM_RESOURCE_MANAGER_ENDPOINT" value :=
      not_exists.1 hset
    have haddress : IsAddress settings.manager := by
      rw [h.manager.2 hunset, ← isAddress_eq_true_iff]
      decide
    refine ⟨by rw [h.manager.2 hunset]; decide, ?_, fun hnot => absurd haddress hnot⟩
    exact iff_of_true haddress fun value hvalue => absurd hvalue (hunset value)

end Settings

/-! ### Requests below the address -/

namespace Manager

open Network Settings

/-- The request goes to what is below the address of the resource manager. -/
def IsBelow (manager : String) (request : Request) : Prop :=
  ∃ rest, Url.requestTarget? (manager ++ "/subscriptions/" ++ rest) = some request.target

/-- The request goes to an address that one of the replies names. -/
def IsNamed (turns : List Turn) (request : Request) : Prop :=
  ∃ reply address, .reply reply ∈ turns ∧
    (reply.header? "azure-asyncoperation" = some address ∨
      reply.header? "location" = some address) ∧
    Url.requestTarget? address = some request.target

namespace Client

variable (client : Client) (scope : Stop.Scope) (group name : String) {server : Server}

theorem exists_resourceUrl_eq (kind : String) :
    ∃ rest, client.resourceUrl group kind name = client.manager ++ "/subscriptions/" ++ rest := by
  refine ⟨client.subscription ++ "/resourceGroups/" ++ group ++ "/providers/Microsoft.Network/" ++
    kind ++ "/" ++ name ++ "?api-version=" ++ apiVersion, ?_⟩
  unfold resourceUrl
  simp only [String.append_assoc]

theorem isBelow_of_directed {kind : String} {method : Method} {request : Request}
    (h : Directed method (client.resourceUrl group kind name) request) :
    IsBelow client.manager request := by
  obtain ⟨rest, hrest⟩ := client.exists_resourceUrl_eq group name kind
  exact ⟨rest, hrest ▸ h.2⟩

/-- Whatever is asked for by group and name is below the address of the resource manager. -/
theorem sends_below :
    Sends (client.network.getEndpoint scope group name) server (IsBelow client.manager) ∧
    Sends (client.network.getInterface scope group name) server (IsBelow client.manager) ∧
    (∀ parameters, Sends (client.network.beginPut scope group name parameters) server
      (IsBelow client.manager)) ∧
    Sends (client.network.beginDelete scope group name) server (IsBelow client.manager) := by
  have hbelow : ∀ kind method request,
      Directed method (client.resourceUrl group kind name) request →
        IsBelow client.manager request :=
    fun _ _ _ => client.isBelow_of_directed group name
  refine ⟨?_, ?_, fun parameters => ?_, ?_⟩
  · exact (client.sends_fetch scope _).mono (hbelow _ _)
  · exact (client.sends_fetch scope _).mono (hbelow _ _)
  · exact (client.sends_begin scope _ _ _).mono (hbelow _ _)
  · exact (client.sends_begin scope _ _ _).mono (hbelow _ _)

/-- An operation is followed where it began, or where the reply that began it says. -/
theorem sends_wait_of_begin {method : Method} {url : String} {body : Option String}
    {operation : Operation} (h : (client.begin scope method url body server).1 = .ok operation)
    (later : Server) :
    Sends (client.wait scope operation) later fun request =>
      Directed .get url request ∨ IsNamed server.turns request := by
  obtain ⟨reply, hreply, rfl⟩ := client.mem_turns_of_begin_ok scope h
  refine (client.sends_wait scope _).mono ?_
  rintro request ⟨address, haddress, hdirected⟩
  rw [operationBegun_target] at haddress
  obtain hmonitor | hlocation | rfl := address_of_targetOf haddress
  · exact .inr ⟨reply, address, hreply, .inl hmonitor, hdirected.2⟩
  · exact .inr ⟨reply, address, hreply, .inr hlocation, hdirected.2⟩
  · exact .inl hdirected

end Client

/-- **The address that is used.** It never ends with a slash, the client takes it as it is, and what
is asked for by group and name is asked for below it, as are operations that no reply sends
elsewhere. It is an address as long as the variable is not a bare scheme, of which no more than the
scheme is left. -/
theorem manager_of_ofEnvironment {environment : String → Option String} {settings : Settings}
    (h : ofEnvironment environment = .ok settings) :
    let client := Client.ofSettings settings
    '/' ∉ settings.manager.toList.getLast? ∧
    client.manager = settings.manager ∧
    (∀ group name kind, ∃ rest,
      client.resourceUrl group kind name = settings.manager ++ "/subscriptions/" ++ rest) ∧
    (∀ scope server group name,
      Sends (client.network.getEndpoint scope group name) server (IsBelow settings.manager) ∧
      Sends (client.network.getInterface scope group name) server (IsBelow settings.manager) ∧
      (∀ parameters, Sends (client.network.beginPut scope group name parameters) server
        (IsBelow settings.manager)) ∧
      Sends (client.network.beginDelete scope group name) server (IsBelow settings.manager)) ∧
    (∀ scope server later group name operation,
      ((∃ parameters, (client.network.beginPut scope group name parameters server).1 =
          .ok operation) ∨
        (client.network.beginDelete scope group name server).1 = .ok operation) →
      Sends (client.network.wait scope operation) later fun request =>
        IsBelow settings.manager request ∨ IsNamed server.turns request) ∧
    (IsAddress settings.manager ↔
      ∀ value, Sets environment "ARM_RESOURCE_MANAGER_ENDPOINT" value → ¬ IsBareScheme value) ∧
    (¬ IsAddress settings.manager → settings.manager = "http:" ∨ settings.manager = "https:") := by
  intro client
  obtain ⟨hlast, haddress, hscheme⟩ := (gives_of_ofEnvironment h).manager_cases
  have hmanager : client.manager = settings.manager := by
    have htrimmed : IsTrimmed settings.manager settings.manager :=
      ⟨⟨0, (List.append_nil _).symm⟩, hlast⟩
    exact htrimmed.eq.symm
  rw [← hmanager]
  refine ⟨hmanager ▸ hlast, rfl, ?_, ?_, ?_, hmanager ▸ haddress, hmanager ▸ hscheme⟩
  · exact client.exists_resourceUrl_eq
  · exact fun scope server group name => client.sends_below scope group name
  · intro scope server later group name operation hbegun
    obtain ⟨parameters, hbegun⟩ | hbegun := hbegun
    · refine (client.sends_wait_of_begin scope hbegun later).mono fun request hrequest => ?_
      exact hrequest.imp_left (client.isBelow_of_directed group name)
    · refine (client.sends_wait_of_begin scope hbegun later).mono fun request hrequest => ?_
      exact hrequest.imp_left (client.isBelow_of_directed group name)

/-- Slashes after a host are dropped without harm. -/
theorem manager_of_ofEnvironment_with_slashes :
    let environment : String → Option String := (List.lookup · [("ARM_SUBSCRIPTION_ID", "sub1"),
      ("ARM_RESOURCE_MANAGER_ENDPOINT", "https://arm.test//")])
    ∃ settings, ofEnvironment environment = .ok settings ∧
      (Client.ofSettings settings).manager = "https://arm.test" ∧
      ¬ IsBareScheme "https://arm.test//" := by
  intro environment
  obtain ⟨settings, hsettings, hmanager⟩ : ∃ settings, ofEnvironment environment = .ok settings ∧
      settings.manager = "https://arm.test" :=
    ⟨_, rfl, by decide +kernel⟩
  obtain ⟨-, hclient, -, -, -, haddress, -⟩ := manager_of_ofEnvironment hsettings
  have hkept : IsAddress settings.manager := by
    rw [hmanager, ← isAddress_eq_true_iff]
    decide +kernel
  have hset : Sets environment "ARM_RESOURCE_MANAGER_ENDPOINT" "https://arm.test//" :=
    ⟨rfl, by decide +kernel⟩
  exact ⟨settings, hsettings, hclient.trans hmanager, haddress.1 hkept _ hset⟩

/-- Of a bare scheme not even the slashes of the scheme are left. -/
theorem manager_of_bare_scheme :
    ∃ settings, ofEnvironment (List.lookup · [("ARM_SUBSCRIPTION_ID", "sub1"),
        ("ARM_RESOURCE_MANAGER_ENDPOINT", "http://")]) = .ok settings ∧
      settings.manager = "http:" ∧ ¬ IsAddress settings.manager := by
  refine ⟨_, rfl, by decide +kernel, ?_⟩
  rw [← isAddress_eq_true_iff]
  decide +kernel

end Manager

end PrivateLink
