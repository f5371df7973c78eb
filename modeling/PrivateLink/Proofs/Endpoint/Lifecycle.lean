import PrivateLink.Endpoint.Lifecycle

/-!
# Work that is refused without a call

Identifiers that cannot be read and settings that do not agree are refused before the service is
asked for anything, whatever the client.
-/

namespace PrivateLink.Endpoint

variable {σ : Type} (client : Network.Client σ) (scope : Stop.Scope) {id key : String}
  {fault : Fault}

/-! ### Identifiers -/

/-- An identifier without a name under the key is called invalid. -/
theorem invalidId_of_nameIn (h : nameIn key id = .error fault) :
    ∃ reason, fault = .invalidId id reason := by
  unfold nameIn at h
  split at h
  next unreadable _ =>
    cases h
    exact ⟨unreadable.message id, rfl⟩
  next =>
    split at h
    next => cases h
    next =>
      cases h
      exact ⟨_, rfl⟩

/-- An identifier that cannot be read as that of an endpoint is called invalid. -/
theorem invalidId_of_parseId (h : parseId id = .error fault) :
    ∃ reason, fault = .invalidId id reason := by
  unfold parseId at h
  cases hname : nameIn "privateEndpoints" id with
  | error found =>
    rw [hname] at h
    cases h
    exact invalidId_of_nameIn hname
  | ok found =>
    rw [hname] at h
    cases h

/-! ### Refusals -/

/-- An identifier that cannot be read is refused without any call. -/
theorem read_of_invalid (hid : parseId id = .error fault) :
    read client scope id = pure (.error fault) := by
  unfold read
  rw [hid]

theorem remove_of_invalid (hid : parseId id = .error fault) :
    remove client scope id = pure (.error fault) := by
  unfold remove
  rw [hid]

/-- Settings that do not agree are refused without any call. -/
theorem apply_of_disagreeing {spec : Spec} (mode : Mode)
    (hagree : spec.checkAgreement = .error fault) :
    apply client scope spec mode = pure (.error fault) := by
  unfold apply
  rw [hagree]

end PrivateLink.Endpoint
