import PrivateLink.Proofs.Endpoint.Lifecycle
import PrivateLink.Proofs.Manager.Timely

/-!
# The life of an endpoint keeps to its scope

Every step in the life of an endpoint is a call of the network client, and the first one that is
interrupted ends the work with a fault that tells of it; being told that something does not exist is
never mistaken for that. What may be refused without any call is said apart: identifiers that cannot
be read and settings that do not agree.

* `keepsOrRefused_read`, `keepsOrRefused_apply`, `keepsOrRefused_remove`: the three pieces of work
  keep to their scope or are refused without any call.
-/

namespace PrivateLink.Endpoint

open Manager Network Stop

/-- The interruption that a fault tells of. -/
def Fault.interruption? (fault : Fault) : Option Interruption :=
  fault.source?.bind Failure.interruption?

variable {client : Network.Client Server} {given : Option Interruption}

/-! ### Identifiers -/

/-- An identifier that cannot be read makes a fault that tells of no interruption. -/
theorem interruption?_of_nameIn {key id : String} {fault : Fault}
    (h : nameIn key id = .error fault) : fault.interruption? = none := by
  obtain ⟨reason, rfl⟩ := invalidId_of_nameIn h
  rfl

theorem interruption?_of_parseId {id : String} {fault : Fault} (h : parseId id = .error fault) :
    fault.interruption? = none := by
  obtain ⟨reason, rfl⟩ := invalidId_of_parseId h
  rfl

/-! ### Steps -/

theorem keeps_resolveAddress (hclient : KeepsScopes client) (scope : Scope)
    (group interfaceId : String) :
    Keeps scope Fault.interruption? none (resolveAddress client scope group interfaceId) := by
  unfold resolveAddress
  split
  next hname => exact .pure (interruption?_of_nameIn hname)
  next identifier name _ =>
    refine (hclient.getInterface scope group name none).bind ?_
    rintro (failure | interface)
    · dsimp only
      split
      next hmissing => exact .pure (Failure.interruption?_of_isNotFound hmissing).symm
      next => exact .pure rfl
    · exact .pure rfl

/-- The check for an endpoint keeps to its scope, unless the mode does not ask for it. -/
theorem keeps_checkAbsent (hclient : KeepsScopes client) (scope : Scope) (spec : Spec)
    (mode : Mode) :
    Keeps scope Fault.interruption? given (checkAbsent client scope spec mode) ∨
      checkAbsent client scope spec mode = pure (.ok ()) := by
  cases mode with
  | update => exact .inr rfl
  | create requiresImport =>
    cases requiresImport with
    | false => exact .inr rfl
    | true =>
      refine .inl ((hclient.getEndpoint scope spec.resourceGroup spec.name given).bind ?_)
      rintro (failure | record)
      · dsimp only
        split
        next hmissing => exact .pure (Failure.interruption?_of_isNotFound hmissing).symm
        next => exact .pure rfl
      · exact .pure rfl

theorem keeps_put (hclient : KeepsScopes client) (scope : Scope) (spec : Spec) :
    Keeps scope Fault.interruption? given (put client scope spec) := by
  refine (hclient.beginPut scope spec.resourceGroup spec.name spec.parameters given).bind ?_
  rintro (failure | operation)
  · exact .pure rfl
  · refine (hclient.wait scope operation).bind ?_
    rintro (failure | _)
    · exact .pure rfl
    · exact .pure rfl

theorem keeps_appliedId (hclient : KeepsScopes client) (scope : Scope) (spec : Spec) :
    Keeps scope Fault.interruption? given (appliedId client scope spec) := by
  refine (hclient.getEndpoint scope spec.resourceGroup spec.name given).bind ?_
  rintro (failure | record)
  · exact .pure rfl
  · dsimp only
    split <;> exact .pure rfl

/-! ### Work -/

/-- Finding out what has become of an endpoint keeps to its scope. -/
theorem keeps_read (hclient : KeepsScopes client) (scope : Scope) {id : String}
    {parsed : String × String} (hid : parseId id = .ok parsed) :
    Keeps scope Fault.interruption? given (read client scope id) := by
  unfold read
  rw [hid]
  refine (hclient.getEndpoint scope parsed.1 parsed.2 given).bind ?_
  rintro (failure | record)
  · dsimp only
    split
    next hmissing => exact .pure (Failure.interruption?_of_isNotFound hmissing).symm
    next => exact .pure rfl
  · dsimp only
    split
    next => exact .pure rfl
    next interfaceId _ =>
      refine (keeps_resolveAddress hclient scope parsed.1 interfaceId).bind ?_
      rintro (fault | address)
      · exact .pure rfl
      · exact .pure rfl

/-- Whatever the identifier, it keeps to a scope that is not over at the start. -/
theorem keeps_read_of_live (hclient : KeepsScopes client) (scope : Scope) (id : String) :
    Keeps scope Fault.interruption? none (read client scope id) := by
  cases hid : parseId id with
  | error fault =>
    rw [read_of_invalid client scope hid]
    exact .pure (interruption?_of_parseId hid)
  | ok parsed => exact keeps_read hclient scope hid

/-- Creating or changing an endpoint whose settings agree keeps to its scope. -/
theorem keeps_apply (hclient : KeepsScopes client) (scope : Scope) {spec : Spec} (mode : Mode)
    (hagree : spec.checkAgreement = .ok ()) :
    Keeps scope Fault.interruption? given (apply client scope spec mode) := by
  unfold apply
  rw [hagree]
  refine Keeps.bind_of_skippable (keeps_checkAbsent hclient scope spec mode)
    (fun fault => .pure rfl) fun given => ?_
  refine (keeps_put hclient scope spec).bind ?_
  rintro (fault | _)
  · exact .pure rfl
  · refine (keeps_appliedId hclient scope spec).bind ?_
    rintro (fault | id)
    · exact .pure rfl
    · refine (keeps_read_of_live hclient scope id).bind ?_
      rintro (fault | observed | observed)
      · exact .pure rfl
      · exact .pure rfl
      · exact .pure rfl

/-- Deleting an endpoint keeps to its scope. -/
theorem keeps_remove (hclient : KeepsScopes client) (scope : Scope) {id : String}
    {parsed : String × String} (hid : parseId id = .ok parsed) :
    Keeps scope Fault.interruption? given (remove client scope id) := by
  unfold remove
  rw [hid]
  refine (hclient.beginDelete scope parsed.1 parsed.2 given).bind ?_
  rintro (failure | operation)
  · dsimp only
    split
    next hmissing => exact .pure (Failure.interruption?_of_isNotFound hmissing).symm
    next => exact .pure rfl
  · refine (hclient.wait scope operation).bind ?_
    rintro (failure | _)
    · dsimp only
      split
      next hmissing => exact .pure (Failure.interruption?_of_isNotFound hmissing).symm
      next => exact .pure rfl
    · exact .pure rfl

/-! ### Refusals -/

/-- The work keeps to any scope, or it is refused without any call. -/
def KeepsOrRefused {α : Type} (work : Scope → StateM Server (Except Fault α)) : Prop :=
  (∀ scope given, Keeps scope Fault.interruption? given (work scope)) ∨
    ∃ fault, ∀ scope, work scope = pure (.error fault)

theorem keepsOrRefused_read (hclient : KeepsScopes client) (id : String) :
    KeepsOrRefused fun scope => read client scope id := by
  cases hid : parseId id with
  | error fault => exact .inr ⟨fault, fun scope => read_of_invalid client scope hid⟩
  | ok parsed => exact .inl fun scope _ => keeps_read hclient scope hid

theorem keepsOrRefused_apply (hclient : KeepsScopes client) (spec : Spec) (mode : Mode) :
    KeepsOrRefused fun scope => apply client scope spec mode := by
  cases hagree : spec.checkAgreement with
  | error fault => exact .inr ⟨fault, fun scope => apply_of_disagreeing client scope mode hagree⟩
  | ok => exact .inl fun scope _ => keeps_apply hclient scope mode hagree

theorem keepsOrRefused_remove (hclient : KeepsScopes client) (id : String) :
    KeepsOrRefused fun scope => remove client scope id := by
  cases hid : parseId id with
  | error fault => exact .inr ⟨fault, fun scope => remove_of_invalid client scope hid⟩
  | ok parsed => exact .inl fun scope _ => keeps_remove hclient scope hid

end PrivateLink.Endpoint
