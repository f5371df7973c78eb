import PrivateLink.Proofs.Settings.Variable

/-!
# Settings from variables

Which settings the variables give (`Gives`), and which of them is at fault if they give none
(`FirstOffence`). The variables are worked in one after the other, so the fault that is reported is
that of the first variable which has one.

* `gives_of_ofEnvironment`, `firstOffence_of_ofEnvironment`: what an outcome says of the variables;
* `Gives.unique`, `FirstOffence.unique`: the variables have one outcome;
* `ofEnvironment_congr`: nothing but the variables matters;
* `ofEnvironment_exactly`: when there are settings, which, and what is at fault otherwise.
-/

namespace PrivateLink.Settings

variable {environment : String → Option String} {name : String}

/-! ### Settings that are given -/

/-- The settings are what the variables say. -/
structure Gives (environment : String → Option String) (settings : Settings) : Prop where
  subscription : Sets environment "ARM_SUBSCRIPTION_ID" settings.subscription
  /-- A service principal is used exactly if all three parts of it are given. -/
  authentication : ∀ tenant client secret,
    settings.authentication = .servicePrincipal tenant client secret ↔
      Sets environment "ARM_TENANT_ID" tenant ∧ Sets environment "ARM_CLIENT_ID" client ∧
        Sets environment "ARM_CLIENT_SECRET" secret
  manager : Settled environment "ARM_RESOURCE_MANAGER_ENDPOINT"
    (fun value manager => IsAddress value ∧ IsTrimmed value manager)
    "https://management.azure.com" settings.manager
  importProtection : Settled environment "ARM_PROVIDER_STRICT" WritesFlag false
    settings.importProtection
  pollInterval : Settled environment "ARM_POLL_INTERVAL_SECONDS" MeansSeconds (10 * 1000)
    settings.pollInterval
  operationTimeout : Settled environment "ARM_OPERATION_TIMEOUT_MINUTES" MeansMinutes
    (60 * 60 * 1000) settings.operationTimeout

theorem authenticationOf_eq_iff {tenant client secret : String} :
    authenticationOf environment = .servicePrincipal tenant client secret ↔
      Sets environment "ARM_TENANT_ID" tenant ∧ Sets environment "ARM_CLIENT_ID" client ∧
        Sets environment "ARM_CLIENT_SECRET" secret := by
  simp only [← given?_eq_some_iff]
  unfold authenticationOf
  split
  next htenant hclient hsecret =>
    rw [htenant, hclient, hsecret]
    simp
  next hmissing =>
    refine iff_of_false nofun ?_
    rintro ⟨htenant, hclient, hsecret⟩
    exact hmissing tenant client secret htenant hclient hsecret

/-- The variables at fault are looked at in this order. -/
def readingOrder : List String :=
  ["ARM_SUBSCRIPTION_ID", "ARM_RESOURCE_MANAGER_ENDPOINT", "ARM_PROVIDER_STRICT",
    "ARM_POLL_INTERVAL_SECONDS", "ARM_OPERATION_TIMEOUT_MINUTES"]

/-- The fault is one that the variables have, and no variable that is read before has one. -/
structure FirstOffence (environment : String → Option String) (fault : Fault) : Prop where
  offence : Offence environment fault
  first : ∃ before after, readingOrder = before ++ fault.name :: after ∧
    ∀ other, Offence environment other → other.name ∉ before

/-- With a subscription the other variables are worked in one after the other. -/
theorem ofEnvironment_of_subscription {subscription : String}
    (h : given? environment "ARM_SUBSCRIPTION_ID" = some subscription) :
    ofEnvironment environment =
      (withGiven environment "ARM_RESOURCE_MANAGER_ENDPOINT"
          { subscription, authentication := authenticationOf environment } useManager >>=
        fun settings => withGiven environment "ARM_PROVIDER_STRICT" settings useImportProtection >>=
        fun settings => withGiven environment "ARM_POLL_INTERVAL_SECONDS" settings
          usePollInterval >>=
        fun settings => withGiven environment "ARM_OPERATION_TIMEOUT_MINUTES" settings
          useOperationTimeout) := by
  unfold ofEnvironment
  rw [h]
  rfl

theorem ofEnvironment_of_no_subscription (h : given? environment "ARM_SUBSCRIPTION_ID" = none) :
    ofEnvironment environment = .error (.missing "ARM_SUBSCRIPTION_ID") := by
  unfold ofEnvironment
  rw [h]
  rfl

theorem gives_of_ofEnvironment {settings : Settings}
    (h : ofEnvironment environment = .ok settings) : Gives environment settings := by
  match hgiven : given? environment "ARM_SUBSCRIPTION_ID" with
  | none =>
    rw [ofEnvironment_of_no_subscription hgiven] at h
    cases h
  | some subscription =>
    rw [ofEnvironment_of_subscription hgiven] at h
    obtain ⟨_, hmanager, h⟩ := exists_of_bind_eq_ok h
    obtain ⟨_, hflag, h⟩ := exists_of_bind_eq_ok h
    obtain ⟨_, hinterval, htimeout⟩ := exists_of_bind_eq_ok h
    obtain ⟨manager, rfl, hmanaged⟩ := worksIn_manager.settled rfl hmanager
    obtain ⟨flag, rfl, hflagged⟩ := worksIn_importProtection.settled rfl hflag
    obtain ⟨interval, rfl, hpaced⟩ := worksIn_pollInterval.settled rfl hinterval
    obtain ⟨timeout, rfl, htimed⟩ := worksIn_operationTimeout.settled rfl htimeout
    exact
      { subscription := given?_eq_some_iff.1 hgiven
        authentication := fun _ _ _ => authenticationOf_eq_iff
        manager := hmanaged
        importProtection := hflagged
        pollInterval := hpaced
        operationTimeout := htimed }

theorem firstOffence_of_ofEnvironment {fault : Fault}
    (h : ofEnvironment environment = .error fault) : FirstOffence environment fault := by
  match hgiven : given? environment "ARM_SUBSCRIPTION_ID" with
  | none =>
    rw [ofEnvironment_of_no_subscription hgiven] at h
    cases h
    exact ⟨.missing (given?_eq_none_iff.1 hgiven), [], _, rfl, fun _ _ => List.not_mem_nil⟩
  | some subscription =>
    have hfirst : ∀ other, Offence environment other → other.name ≠ "ARM_SUBSCRIPTION_ID" :=
      fun other hother => hother.name_ne_subscription (given?_eq_some_iff.1 hgiven)
    rw [ofEnvironment_of_subscription hgiven] at h
    -- The variables before the one at fault were worked in, so they are settled.
    obtain hmanager | ⟨_, hmanager, h⟩ := error_or_of_bind_eq_error h
    · obtain ⟨hoffence, hname⟩ := worksIn_manager.offence hmanager
      refine ⟨hoffence, ["ARM_SUBSCRIPTION_ID"], _, by rw [hname]; rfl, fun other hother => ?_⟩
      simp [hfirst other hother]
    obtain ⟨manager, rfl, hmanaged⟩ := worksIn_manager.settled rfl hmanager
    obtain hflag | ⟨_, hflag, h⟩ := error_or_of_bind_eq_error h
    · obtain ⟨hoffence, hname⟩ := worksIn_importProtection.offence hflag
      refine ⟨hoffence, ["ARM_SUBSCRIPTION_ID", "ARM_RESOURCE_MANAGER_ENDPOINT"], _,
        by rw [hname]; rfl, fun other hother => ?_⟩
      simp [hfirst other hother, worksIn_manager.name_ne hmanaged hother]
    obtain ⟨flag, rfl, hflagged⟩ := worksIn_importProtection.settled rfl hflag
    obtain hinterval | ⟨_, hinterval, htimeout⟩ := error_or_of_bind_eq_error h
    · obtain ⟨hoffence, hname⟩ := worksIn_pollInterval.offence hinterval
      refine ⟨hoffence, ["ARM_SUBSCRIPTION_ID", "ARM_RESOURCE_MANAGER_ENDPOINT",
        "ARM_PROVIDER_STRICT"], _, by rw [hname]; rfl, fun other hother => ?_⟩
      simp [hfirst other hother, worksIn_manager.name_ne hmanaged hother,
        worksIn_importProtection.name_ne hflagged hother]
    obtain ⟨interval, rfl, hpaced⟩ := worksIn_pollInterval.settled rfl hinterval
    obtain ⟨hoffence, hname⟩ := worksIn_operationTimeout.offence htimeout
    refine ⟨hoffence, ["ARM_SUBSCRIPTION_ID", "ARM_RESOURCE_MANAGER_ENDPOINT",
      "ARM_PROVIDER_STRICT", "ARM_POLL_INTERVAL_SECONDS"], _, by rw [hname]; rfl,
      fun other hother => ?_⟩
    simp [hfirst other hother, worksIn_manager.name_ne hmanaged hother,
      worksIn_importProtection.name_ne hflagged hother, worksIn_pollInterval.name_ne hpaced hother]

/-! ### One outcome -/

theorem Settled.unique {α : Type} {Means : String → α → Prop} {default a b : α}
    (hmeans : ∀ value a b, Means value a → Means value b → a = b)
    (ha : Settled environment name Means default a)
    (hb : Settled environment name Means default b) : a = b := by
  by_cases hset : ∃ value, Sets environment name value
  · obtain ⟨value, hvalue⟩ := hset
    exact hmeans value a b (ha.1 value hvalue) (hb.1 value hvalue)
  · have hunset : ∀ value, ¬ Sets environment name value := not_exists.1 hset
    rw [ha.2 hunset, hb.2 hunset]

/-- The variables give one subscription, one authentication and so on. -/
theorem Gives.unique {settings other : Settings} (h : Gives environment settings)
    (hother : Gives environment other) : settings = other := by
  have hauthentication : settings.authentication = other.authentication := by
    match hfirst : settings.authentication, hsecond : other.authentication with
    | .servicePrincipal tenant client secret, _ =>
      have hgiven := (h.authentication tenant client secret).1 hfirst
      rw [← hsecond, (hother.authentication tenant client secret).2 hgiven]
    | .managedIdentity, .servicePrincipal tenant client secret =>
      have hgiven := (hother.authentication tenant client secret).1 hsecond
      exact hfirst.symm.trans ((h.authentication tenant client secret).2 hgiven)
    | .managedIdentity, .managedIdentity => rfl
  have hmanager : settings.manager = other.manager :=
    h.manager.unique (fun _ _ _ ha hb => ha.2.eq.trans hb.2.eq.symm) hother.manager
  have hflag : settings.importProtection = other.importProtection :=
    h.importProtection.unique (fun _ _ _ ha hb => ha.unique hb) hother.importProtection
  have hinterval : settings.pollInterval = other.pollInterval := by
    refine h.pollInterval.unique ?_ hother.pollInterval
    rintro value _ _ ⟨seconds, hseconds, rfl⟩ ⟨others, hothers, rfl⟩
    rw [hseconds.unique hothers]
  have htimeout : settings.operationTimeout = other.operationTimeout := by
    refine h.operationTimeout.unique ?_ hother.operationTimeout
    rintro value _ _ ⟨minutes, hminutes, -, rfl⟩ ⟨others, hothers, -, rfl⟩
    rw [hminutes.unique hothers]
  have hsubscription : settings.subscription = other.subscription :=
    h.subscription.unique hother.subscription
  cases settings
  cases other
  simp_all

/-- A variable has one fault. -/
theorem Offence.unique {fault other : Fault} (h : Offence environment fault)
    (hother : Offence environment other) (hname : fault.name = other.name) : fault = other := by
  cases h with
  | missing =>
    cases hother with
    | missing => rfl
    | invalid _ hrefuses => exact absurd hname.symm hrefuses.ne_subscription
  | @invalid name value reason hset hrefuses =>
    cases hother with
    | missing => exact absurd hname hrefuses.ne_subscription
    | @invalid otherName otherValue otherReason hsetOther hrefusesOther =>
      obtain rfl : name = otherName := hname
      obtain rfl := hset.unique hsetOther
      rw [hrefuses.unique hrefusesOther rfl]

/-- One variable is the first one at fault. -/
theorem FirstOffence.unique {fault other : Fault} (h : FirstOffence environment fault)
    (hother : FirstOffence environment other) : fault = other := by
  obtain ⟨before, after, horder, hfirst⟩ := h.first
  obtain ⟨before', after', horder', hfirst'⟩ := hother.first
  refine h.offence.unique hother.offence ?_
  have hnot := hfirst other hother.offence
  have hnot' := hfirst' fault h.offence
  rw [horder] at horder'
  obtain ⟨between, rfl, hrest⟩ | ⟨between, rfl, hrest⟩ := List.append_eq_append_iff.1 horder'
  · match between, hrest with
    | [], hrest => exact (List.cons.inj hrest).1
    | head :: tail, hrest =>
      obtain ⟨rfl, -⟩ := List.cons.inj hrest
      exact absurd (List.mem_append_right _ List.mem_cons_self) hnot'
  · match between, hrest with
    | [], hrest => exact (List.cons.inj hrest).1.symm
    | head :: tail, hrest =>
      obtain ⟨rfl, -⟩ := List.cons.inj hrest
      exact absurd (List.mem_append_right _ List.mem_cons_self) hnot

/-- Settings can be made of the variables. -/
structure Admissible (environment : String → Option String) : Prop where
  subscription : ∃ value, Sets environment "ARM_SUBSCRIPTION_ID" value
  manager : ∀ value, Sets environment "ARM_RESOURCE_MANAGER_ENDPOINT" value → IsAddress value
  importProtection : ∀ value, Sets environment "ARM_PROVIDER_STRICT" value →
    ∃ flag, WritesFlag value flag
  pollInterval : ∀ value, Sets environment "ARM_POLL_INTERVAL_SECONDS" value →
    ∃ seconds, WritesPositive value seconds
  operationTimeout : ∀ value, Sets environment "ARM_OPERATION_TIMEOUT_MINUTES" value →
    ∃ minutes, WritesPositive value minutes ∧ 60 * minutes < Nat.pow 2 64

theorem Gives.admissible {settings : Settings} (h : Gives environment settings) :
    Admissible environment where
  subscription := ⟨_, h.subscription⟩
  manager := fun value hset => (h.manager.1 value hset).1
  importProtection := fun value hset => ⟨_, h.importProtection.1 value hset⟩
  pollInterval := by
    intro value hset
    obtain ⟨seconds, hseconds, -⟩ := h.pollInterval.1 value hset
    exact ⟨seconds, hseconds⟩
  operationTimeout := by
    intro value hset
    obtain ⟨minutes, hminutes, hshort, -⟩ := h.operationTimeout.1 value hset
    exact ⟨minutes, hminutes, hshort⟩

theorem Admissible.not_offence (h : Admissible environment) (fault : Fault) :
    ¬ Offence environment fault := by
  intro hoffence
  cases hoffence with
  | missing hunset =>
    obtain ⟨value, hset⟩ := h.subscription
    exact hunset value hset
  | invalid hset hrefuses =>
    cases hrefuses with
    | manager hnot => exact hnot (h.manager _ hset)
    | importProtection hnone =>
      obtain ⟨flag, hflag⟩ := h.importProtection _ hset
      exact hnone flag hflag
    | pollInterval hnone =>
      obtain ⟨seconds, hseconds⟩ := h.pollInterval _ hset
      exact hnone seconds hseconds
    | operationTimeout hnone =>
      obtain ⟨minutes, hminutes, -⟩ := h.operationTimeout _ hset
      exact hnone minutes hminutes
    | tooLong hwrites hlong =>
      obtain ⟨minutes, hminutes, hshort⟩ := h.operationTimeout _ hset
      rw [hwrites.unique hminutes] at hlong
      exact Nat.not_lt.2 hlong hshort

/-- The names of all variables that are read. -/
def variableNames : List String :=
  ["ARM_SUBSCRIPTION_ID", "ARM_TENANT_ID", "ARM_CLIENT_ID", "ARM_CLIENT_SECRET",
    "ARM_RESOURCE_MANAGER_ENDPOINT", "ARM_PROVIDER_STRICT", "ARM_POLL_INTERVAL_SECONDS",
    "ARM_OPERATION_TIMEOUT_MINUTES"]

/-- Other variables make no difference. -/
theorem ofEnvironment_congr {other : String → Option String}
    (h : ∀ name ∈ variableNames, given? other name = given? environment name) :
    ofEnvironment other = ofEnvironment environment := by
  simp only [variableNames, List.forall_mem_cons] at h
  obtain ⟨hsubscription, htenant, hclient, hsecret, hmanager, hflag, hinterval, htimeout, -⟩ := h
  have hauthentication : authenticationOf other = authenticationOf environment := by
    unfold authenticationOf
    rw [htenant, hclient, hsecret]
  unfold ofEnvironment withGiven
  rw [hsubscription, hmanager, hflag, hinterval, htimeout, hauthentication]

/-- **Settings from variables.** The outcome depends on the eight variables alone, and on each of
them only as far as it is set to a value that is not blank. There are settings exactly if every
variable can be used, they are what the variables say, and otherwise the fault is that of the first
variable which cannot be used. -/
theorem ofEnvironment_exactly (environment : String → Option String) :
    (∀ other : String → Option String, (∀ name ∈ variableNames, ∀ value,
        Sets other name value ↔ Sets environment name value) →
      ofEnvironment other = ofEnvironment environment) ∧
    ((∃ settings, ofEnvironment environment = .ok settings) ↔ Admissible environment) ∧
    (∀ settings, ofEnvironment environment = .ok settings ↔ Gives environment settings) ∧
    ∀ fault, ofEnvironment environment = .error fault ↔ FirstOffence environment fault := by
  have hok : Admissible environment → ∃ settings, ofEnvironment environment = .ok settings := by
    intro h
    match hresult : ofEnvironment environment with
    | .ok settings => exact ⟨settings, rfl⟩
    | .error fault =>
      exact absurd (firstOffence_of_ofEnvironment hresult).offence (h.not_offence fault)
  refine ⟨?_, ⟨?_, hok⟩, ?_, ?_⟩
  · intro other h
    refine ofEnvironment_congr fun name hname => ?_
    ext value
    exact given?_eq_some_iff.trans ((h name hname value).trans given?_eq_some_iff.symm)
  · rintro ⟨settings, h⟩
    exact (gives_of_ofEnvironment h).admissible
  · intro settings
    constructor
    · exact gives_of_ofEnvironment
    · intro h
      obtain ⟨found, hfound⟩ := hok h.admissible
      rw [hfound, (gives_of_ofEnvironment hfound).unique h]
  · intro fault
    constructor
    · exact firstOffence_of_ofEnvironment
    · intro h
      match hresult : ofEnvironment environment with
      | .ok settings =>
        exact absurd h.offence ((gives_of_ofEnvironment hresult).admissible.not_offence fault)
      | .error found => rw [(firstOffence_of_ofEnvironment hresult).unique h]

/-- A client secret that is blank is none, and other variables than the eight are not looked at. -/
theorem ofEnvironment_ignores_blank :
    ofEnvironment
        (List.lookup · [("ARM_SUBSCRIPTION_ID", "sub1"), ("ARM_CLIENT_SECRET", " "),
          ("LANG", "C")]) =
      ofEnvironment (List.lookup · [("ARM_SUBSCRIPTION_ID", "sub1")]) := by
  refine (ofEnvironment_exactly _).1 _ fun name hname value => ?_
  have hsame : ∀ name ∈ variableNames,
      given? (List.lookup · [("ARM_SUBSCRIPTION_ID", "sub1"), ("ARM_CLIENT_SECRET", " "),
          ("LANG", "C")]) name =
        given? (List.lookup · [("ARM_SUBSCRIPTION_ID", "sub1")]) name := by
    decide +kernel
  rw [← given?_eq_some_iff, ← given?_eq_some_iff, hsame name hname]

/-- A timeout whose seconds do not fit is refused, though its minutes do. -/
example :
    ofEnvironment
        (List.lookup · [("ARM_SUBSCRIPTION_ID", "sub1"), ("ARM_CLIENT_SECRET", " "),
          ("ARM_OPERATION_TIMEOUT_MINUTES", "+0307445734561825861")]) =
      .error (.invalid "ARM_OPERATION_TIMEOUT_MINUTES" "+0307445734561825861" .tooLarge) := by
  decide +kernel

end PrivateLink.Settings
