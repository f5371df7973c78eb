import Mathlib.Data.List.Infix
import PrivateLink.Proofs.Endpoint.Course

/-!
# The calls of an application

However the service answers, creating or changing an endpoint makes the first few of a fixed row of
calls, and it goes on to the next one only after an answer that is no failure. The single exception
is the question whether there is an endpoint already, for which "not found" is the good answer.

* `apply_course`: which calls are made, in which order, and what comes of them.
-/

namespace PrivateLink.Endpoint

open Network

/-- The calls by which the mode makes sure that there is no endpoint yet. -/
def Mode.checks (mode : Mode) (spec : Spec) : List Request :=
  if mode = .create true then [.getEndpoint spec.resourceGroup spec.name] else []

/-- The calls that bring an endpoint about and read it back, for the operation that the service
begins, the resource group and the name by which it knows the endpoint, and the name of the first
interface. -/
def Spec.calls (spec : Spec) (operation : Operation) (group name interface : String) :
    List Request :=
  [.beginPut spec.resourceGroup spec.name spec.parameters,
    .wait operation,
    .getEndpoint spec.resourceGroup spec.name,
    .getEndpoint group name,
    .getInterface group interface]

/-- Only the last call may have failed. -/
def Unbroken (made : List Answered) : Prop :=
  ∀ call ∈ made.dropLast, call.failure? = none

/-- The calls that were made are the first ones of those that bring an endpoint about, each after an
answer without failure, and each is about what the answers before it named. -/
structure Chained (spec : Spec) (operation : Operation) (group name interface : String)
    (taken : List Answered) : Prop where
  calls : taken.map Answered.request <+: spec.calls operation group name interface
  unbroken : Unbroken taken
  begun : 1 < taken.length →
    taken[0]? = some (.beginPut spec.resourceGroup spec.name spec.parameters (.ok operation))
  identified : 3 < taken.length → ∃ record id,
    taken[2]? = some (.getEndpoint spec.resourceGroup spec.name (.ok record)) ∧
      nonEmpty record.id = some id ∧ parseId id = .ok (group, name)
  attached : 4 < taken.length → ∃ record interfaceId identifier,
    taken[3]? = some (.getEndpoint group name (.ok record)) ∧
      firstInterfaceId? record = some interfaceId ∧
      nameIn "networkInterfaces" interfaceId = .ok (identifier, interface)

/-- What the calls of an application, first those that make sure that there is no endpoint yet and
then those that bring it about, have to do with what comes of them. -/
structure Course (spec : Spec) (mode : Mode) (checked taken : List Answered)
    (result : Except Fault Observed) : Prop where
  /-- The fault tells the step that went wrong. -/
  rules : Applies spec mode (checked ++ taken) result
  disagreeing : ∀ fault, spec.checkAgreement = .error fault →
    checked = [] ∧ taken = [] ∧ result = .error fault ∧
      ∃ connection reason, fault = .invalidSettings connection reason
  checks : spec.checkAgreement = .ok () → checked.map Answered.request = mode.checks spec
  /-- The endpoint is sent just when the question for it, if asked, was answered "not found". -/
  free : spec.checkAgreement = .ok () → (taken ≠ [] ↔ ∀ call ∈ checked,
    ∃ failure, call.failure? = some failure ∧ failure.isNotFound = true)
  occupied : ∀ record, .getEndpoint spec.resourceGroup spec.name (.ok record) ∈ checked →
    result = .error (.alreadyExists (record.id.getD spec.name))
  chained : ∃ operation group name interface, Chained spec operation group name interface taken
  done : ∀ observed, result = .ok observed →
    4 ≤ taken.length ∧ ∀ call ∈ taken, call.failure? = none

variable {spec : Spec} {mode : Mode}

/-! ### Agreement of settings -/

theorem Connection.invalidSettings_of_checkAgreement {connection : Connection} {fault : Fault}
    (h : connection.checkAgreement = .error fault) :
    ∃ connection reason, fault = .invalidSettings connection reason := by
  unfold Connection.checkAgreement at h
  split at h
  · cases h
    exact ⟨_, _, rfl⟩
  · split at h
    · cases h
      exact ⟨_, _, rfl⟩
    · cases h

/-- Settings that do not agree are called invalid settings. -/
theorem Spec.invalidSettings_of_checkAgreement {fault : Fault}
    (h : spec.checkAgreement = .error fault) :
    ∃ connection reason, fault = .invalidSettings connection reason := by
  unfold Spec.checkAgreement at h
  generalize spec.connections = connections at h
  induction connections with
  | nil => cases h
  | cons connection connections ih =>
    change (connection.checkAgreement >>= fun _ => _) = _ at h
    cases hconnection : connection.checkAgreement with
    | error fault' =>
      rw [hconnection] at h
      cases h
      exact Connection.invalidSettings_of_checkAgreement hconnection
    | ok _ =>
      rw [hconnection] at h
      exact ih h

/-! ### One call after the other -/

theorem Unbroken.nil : Unbroken [] := by
  simp [Unbroken]

theorem Unbroken.single (call : Answered) : Unbroken [call] := by
  simp [Unbroken]

theorem Unbroken.cons {call : Answered} {made : List Answered}
    (hfirst : call.failure? = none) (h : Unbroken made) : Unbroken (call :: made) := by
  cases made with
  | nil => exact .single call
  | cons next made => exact List.forall_mem_cons.2 ⟨hfirst, h⟩

/-- An interface is looked up by one call, for the name that its identifier gives. -/
theorem Resolves.calls {group interfaceId : String} {made : List Answered}
    {result : Except Fault (Option String)} (h : Resolves group interfaceId made result) :
    ∃ interface, made.map Answered.request <+: [.getInterface group interface] ∧ Unbroken made ∧
      (made ≠ [] → ∃ identifier,
        nameIn "networkInterfaces" interfaceId = .ok (identifier, interface)) := by
  cases h with
  | invalid => exact ⟨"", List.nil_prefix, .nil, fun h => (h rfl).elim⟩
  | missing hid | failed hid | found hid =>
    exact ⟨_, List.prefix_rfl, .single _, fun _ => ⟨_, hid⟩⟩

/-- An endpoint is found out about by one call for it and one for its first interface. -/
theorem Reads.calls {id : String} {made : List Answered} {result : Except Fault (Option Observed)}
    (h : Reads id made result) :
    ∃ group name interface,
      made.map Answered.request <+: [.getEndpoint group name, .getInterface group interface] ∧
      Unbroken made ∧ (made ≠ [] → parseId id = .ok (group, name)) ∧
      (1 < made.length → ∃ record interfaceId identifier,
        made[0]? = some (.getEndpoint group name (.ok record)) ∧
          firstInterfaceId? record = some interfaceId ∧
          nameIn "networkInterfaces" interfaceId = .ok (identifier, interface)) := by
  cases h with
  | invalid => exact ⟨"", "", "", List.nil_prefix, .nil, fun h => (h rfl).elim, by simp⟩
  | absent hid | failed hid | detached hid =>
    exact ⟨_, _, "", by simp [Answered.request], .single _, fun _ => hid, by simp⟩
  | unresolved hid hfirst hresolve | attached hid hfirst hresolve =>
    obtain ⟨interface, hcalls, hunbroken, hname⟩ := hresolve.calls
    refine ⟨_, _, interface, List.cons_prefix_cons.2 ⟨rfl, hcalls⟩, hunbroken.cons rfl,
      fun _ => hid, fun hlength => ?_⟩
    obtain ⟨identifier, hname⟩ := hname (by rintro rfl; simp at hlength)
    exact ⟨_, _, identifier, rfl, hfirst, hname⟩

/-- What is read back is chained to what was sent. -/
theorem Reads.chained {operation : Operation} {record : Wire.Endpoint} {id : String}
    {made : List Answered} {result : Except Fault (Option Observed)} (h : Reads id made result)
    (hrecord : nonEmpty record.id = some id) :
    ∃ group name interface, Chained spec operation group name interface
      (.beginPut spec.resourceGroup spec.name spec.parameters (.ok operation) ::
        .wait operation (.ok ()) :: .getEndpoint spec.resourceGroup spec.name (.ok record) ::
        made) := by
  obtain ⟨group, name, interface, hcalls, hunbroken, hid, hattached⟩ := h.calls
  refine ⟨group, name, interface, ?_, ?_, fun _ => rfl, fun hlength => ?_, fun hlength => ?_⟩
  · exact (List.prefix_append_right_inj [_, _, _]).2 hcalls
  · exact ((hunbroken.cons rfl).cons rfl).cons rfl
  · exact ⟨record, id, rfl, hrecord, hid (by rintro rfl; simp at hlength)⟩
  · exact hattached (by simp only [List.length_cons] at hlength; omega)

/-- An endpoint is brought about by calls that hang together. -/
theorem Takes.chained {taken : List Answered} {result : Except Fault Observed}
    (h : Takes spec taken result) :
    ∃ operation group name interface, Chained spec operation group name interface taken := by
  cases h with
  | unsent hput =>
    cases hput with
    | failed =>
      exact ⟨.completed, "", "", "", by simp [Spec.calls, Answered.request], .single _, by simp,
        by simp, by simp⟩
    | unfinished =>
      exact ⟨_, "", "", "", by simp [Spec.calls, Answered.request], (Unbroken.single _).cons rfl,
        fun _ => rfl, by simp, by simp⟩
  | unconfirmed hput hconfirm =>
    cases hput
    cases hconfirm <;>
      exact ⟨_, "", "", "", by simp [Spec.calls, Answered.request],
        ((Unbroken.single _).cons rfl).cons rfl, fun _ => rfl, by simp, by simp⟩
  | unread hput hconfirm hread | lost hput hconfirm hread | done hput hconfirm hread =>
    cases hput
    cases hconfirm with
    | named hrecord => exact ⟨_, hread.chained hrecord⟩

theorem Takes.ne_nil {taken : List Answered} {result : Except Fault Observed}
    (h : Takes spec taken result) : taken ≠ [] := by
  cases h with
  | unsent hput => cases hput <;> exact List.cons_ne_nil _ _
  | unconfirmed hput | unread hput | lost hput | done hput =>
    cases hput
    exact List.cons_ne_nil _ _

/-- An endpoint that was brought about has been sent, waited for and read back twice, and no call
has failed. -/
theorem Takes.answered {taken : List Answered} {observed : Observed}
    (h : Takes spec taken (.ok observed)) :
    4 ≤ taken.length ∧ ∀ call ∈ taken, call.failure? = none := by
  cases h with
  | done hput hconfirm hread =>
    cases hput
    cases hconfirm
    cases hread with
    | detached => simp [Answered.failure?]
    | attached _ _ hresolve =>
      cases hresolve
      simp [Answered.failure?]

/-! ### The whole course -/

theorem ChecksAbsence.checks {checked : List Answered} {result : Except Fault Unit}
    (h : ChecksAbsence spec mode checked result) :
    checked.map Answered.request = mode.checks spec := by
  cases h with
  | skipped hmode => simp [Mode.checks, hmode]
  | occupied | failed | free => rfl

/-- The check is passed just when no call was made for it or the answer was "not found". -/
theorem ChecksAbsence.passed_iff {checked : List Answered} {result : Except Fault Unit}
    (h : ChecksAbsence spec mode checked result) :
    result = .ok () ↔ ∀ call ∈ checked,
      ∃ failure, call.failure? = some failure ∧ failure.isNotFound = true := by
  cases h <;> simp_all [Answered.failure?]

theorem Applies.course {made : List Answered} {result : Except Fault Observed}
    (h : Applies spec mode made result) :
    ∃ checked taken, made = checked ++ taken ∧ Course spec mode checked taken result := by
  have hrules := h
  have hunchained : ∃ operation group name interface,
      Chained spec operation group name interface [] :=
    ⟨.completed, "", "", "", List.nil_prefix, .nil, by simp, by simp, by simp⟩
  cases h with
  | disagreeing hagree =>
    refine ⟨[], [], rfl, hrules, fun fault h => ?_, by simp [hagree], by simp [hagree], by simp,
      hunchained, by simp⟩
    obtain rfl : _ = fault := Except.error.inj (hagree.symm.trans h)
    exact ⟨rfl, rfl, rfl, Spec.invalidSettings_of_checkAgreement hagree⟩
  | kept hagree hcheck =>
    refine ⟨made, [], (List.append_nil made).symm, by rwa [List.append_nil], by simp [hagree],
      fun _ => hcheck.checks, fun _ => ?_, fun record hrecord => ?_, hunchained, by simp⟩
    · rw [← hcheck.passed_iff]
      simp
    · cases hcheck <;> simp at hrecord ⊢
      rw [hrecord]
  | @taken checked taken _ hagree hcheck htake =>
    refine ⟨checked, taken, rfl, hrules, by simp [hagree], fun _ => hcheck.checks, fun _ => ?_,
      fun record hrecord => ?_, htake.chained, ?_⟩
    · exact iff_of_true htake.ne_nil (hcheck.passed_iff.1 rfl)
    · obtain ⟨failure, hfailure, -⟩ := hcheck.passed_iff.1 rfl _ hrecord
      cases hfailure
    · rintro observed rfl
      exact htake.answered

/-- **The calls of an application**: over any client, from any state and for any settings and mode,
creating or changing an endpoint makes calls of the fixed order, with a result that tells where
they stopped. -/
theorem apply_course {σ : Type} (client : Client σ) (scope : Stop.Scope) (spec : Spec)
    (mode : Mode) (state : σ) (earlier : List Answered) :
    ∃ checked taken,
      apply client.recorded scope spec mode (state, earlier) =
        ((apply client scope spec mode state).1, (apply client scope spec mode state).2,
          earlier ++ (checked ++ taken)) ∧
      Course spec mode checked taken (apply client scope spec mode state).1 := by
  obtain ⟨made, hmade, happlies⟩ := told_apply client scope spec mode state earlier
  obtain ⟨checked, taken, rfl, hcourse⟩ := happlies.course
  exact ⟨checked, taken, hmade, hcourse⟩

end PrivateLink.Endpoint
