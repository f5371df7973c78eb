import PrivateLink.Proofs.Endpoint.Preservation

/-!
# When work succeeds

An endpoint was applied when every step succeeded, one after the other, each from the state in which
the step before it left the client. What the steps found out is then known of the calls: the name
that the service gave to the endpoint and the record of it that was read back.

* `apply_eq_ok_iff`: the steps of an application that succeeded;
* `exists_of_appliedId`, `exists_of_read`: what the last two of them found out.
-/

namespace PrivateLink.Endpoint

open Network

variable {σ : Type} {client : Client σ} {scope : Stop.Scope} {spec : Spec} {mode : Mode}
  {state done : σ} {observed : Observed} {id : String}

/-- Work that cannot come to the result after its first step has failed has seen that step succeed
when it comes to the result. -/
theorem exists_of_steps {ε ε' α β : Type} {first : StateM σ (Except ε α)}
    {rest : Except ε α → StateM σ (Except ε' β)} {result : β}
    (h : (first >>= rest) state = (.ok result, done))
    (hstop : ∀ error next, (rest (.error error) next).1 ≠ .ok result) :
    ∃ found next, first state = (.ok found, next) ∧
      rest (.ok found) next = (.ok result, done) := by
  change rest (first state).1 (first state).2 = _ at h
  rcases hfirst : first state with ⟨error | found, next⟩
  all_goals rw [hfirst] at h
  · exact absurd (congrArg Prod.fst h) (hstop error next)
  · exact ⟨found, next, rfl, h⟩

/-- **An application succeeds** when its steps do. -/
theorem apply_eq_ok_iff :
    apply client scope spec mode state = (.ok observed, done) ↔
      spec.checkAgreement = .ok () ∧ ∃ checked sent named id,
        checkAbsent client scope spec mode state = (.ok (), checked) ∧
        put client scope spec checked = (.ok (), sent) ∧
        appliedId client scope spec sent = (.ok id, named) ∧
        read client scope id named = (.ok (some observed), done) := by
  constructor
  · intro h
    unfold apply at h
    cases hagree : spec.checkAgreement with
    | error fault =>
      rw [hagree] at h
      cases h
    | ok _ =>
      rw [hagree] at h
      obtain ⟨_, checked, hcheck, h⟩ := exists_of_steps h fun _ _ => by nofun
      obtain ⟨_, sent, hput, h⟩ := exists_of_steps h fun _ _ => by nofun
      obtain ⟨id, named, hid, h⟩ := exists_of_steps h fun _ _ => by nofun
      obtain ⟨_ | found, read, hread, h⟩ := exists_of_steps h fun _ _ => by nofun
      · cases h
      · cases h
        exact ⟨rfl, checked, sent, named, id, hcheck, hput, hid, hread⟩
  · rintro ⟨hagree, checked, sent, named, id, hcheck, hput, hid, hread⟩
    simp only [apply, hagree, bind, StateT.bind, hcheck, hput, hid, hread]
    rfl

/-- An endpoint that has been sent is read back. -/
theorem apply_of_put {checked sent : σ} (hagree : spec.checkAgreement = .ok ())
    (hcheck : checkAbsent client scope spec mode state = (.ok (), checked))
    (hput : put client scope spec checked = (.ok (), sent)) :
    apply client scope spec mode state = readBack client scope spec sent := by
  simp only [apply, hagree, bind, StateT.bind, hcheck, hput]
  rfl

/-- The name that the service gave to an endpoint stands in the record that was fetched. -/
theorem exists_of_appliedId (h : appliedId client scope spec state = (.ok id, done)) :
    ∃ record, (client.getEndpoint scope spec.resourceGroup spec.name state).1 = .ok record ∧
      nonEmpty record.id = some id := by
  obtain ⟨record, fetched, hget, h⟩ := exists_of_steps h fun _ _ => by nofun
  refine ⟨record, by rw [hget], ?_⟩
  cases hid : nonEmpty record.id with
  | none =>
    simp only [hid] at h
    cases h
  | some given =>
    simp only [hid] at h
    cases h
    rfl

/-- An endpoint that was found is the one that the identifier names. -/
theorem exists_parseId_of_read (h : read client scope id state = (.ok (some observed), done)) :
    ∃ group name, parseId id = .ok (group, name) := by
  rcases hid : parseId id with fault | ⟨group, name⟩
  · unfold read at h
    rw [hid] at h
    cases h
  · exact ⟨group, name, rfl⟩

/-- An endpoint that was found is what the record says that was fetched. -/
theorem exists_of_read {group name : String} (hid : parseId id = .ok (group, name))
    (h : read client scope id state = (.ok (some observed), done)) :
    ∃ record address, (client.getEndpoint scope group name state).1 = .ok record ∧
      observed = observe id group name record address := by
  unfold read at h
  rw [hid] at h
  obtain ⟨record, fetched, hget, h⟩ := exists_of_steps h fun failure next => by
    -- An endpoint that is not known is no fault, but it is not found either.
    dsimp only
    split <;> nofun
  cases hfirst : firstInterfaceId? record with
  | none =>
    simp only [hfirst] at h
    cases h
    exact ⟨record, none, by rw [hget], rfl⟩
  | some interfaceId =>
    simp only [hfirst] at h
    obtain ⟨address, resolved, -, h⟩ := exists_of_steps h fun _ _ => by nofun
    cases h
    exact ⟨record, address, by rw [hget], rfl⟩

end PrivateLink.Endpoint
