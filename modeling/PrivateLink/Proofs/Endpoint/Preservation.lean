import PrivateLink.Endpoint.Lifecycle

/-!
# What work has from its calls

Work on endpoints does something to the state of a client by its calls alone. So it has every
property that its calls have, as long as the property is one of all work that asks nothing of the
client and is handed on from the parts of work to the whole. Of the calls that create and change
endpoints, only one writes.

* `Composes.read`, `Composes.apply`: the work has what its calls have;
* `Endpoint.preserves_apply`: so it preserves what they preserve.
-/

namespace PrivateLink

/-- What is left of an application once the endpoint has been sent: find out its identifier and what
has become of it. -/
def Endpoint.readBack {σ : Type} (client : Network.Client σ) (scope : Stop.Scope) (spec : Spec) :
    StateM σ (Except Fault Observed) := do
  match ← appliedId client scope spec with
  | .error fault => return .error fault
  | .ok id =>
    match ← read client scope id with
    | .error fault => return .error fault
    | .ok (some observed) => return .ok observed
    | .ok none => return .error (.notFoundAfterApply spec.name spec.resourceGroup)

namespace Network

variable {σ α β : Type} {Inv : σ → Prop}

/-- Work has the property as soon as its parts have it. -/
structure Composes (Has : ∀ {α : Type}, StateM σ α → Prop) : Prop where
  pure {α : Type} (result : α) : Has (Pure.pure result : StateM σ α)
  bind {α β : Type} {first : StateM σ α} {rest : α → StateM σ β} :
    Has first → (∀ found, Has (rest found)) → Has (first >>= rest)

/-- The calls that write nothing have the property. -/
structure Client.ReadsHave (client : Client σ) (Has : ∀ {α : Type}, StateM σ α → Prop) :
    Prop where
  getEndpoint (scope : Stop.Scope) (group name : String) :
    Has (client.getEndpoint scope group name)
  wait (scope : Stop.Scope) (operation : Operation) : Has (client.wait scope operation)
  getInterface (scope : Stop.Scope) (group name : String) :
    Has (client.getInterface scope group name)

/-- What holds before the work holds after it. -/
def Preserves (Inv : σ → Prop) (work : StateM σ α) : Prop :=
  ∀ state, Inv state → Inv (work state).2

theorem Preserves.pure (result : α) : Preserves Inv (Pure.pure result : StateM σ α) :=
  fun _ h => h

theorem Preserves.bind {first : StateM σ α} {rest : α → StateM σ β} (hfirst : Preserves Inv first)
    (hrest : ∀ found, Preserves Inv (rest found)) : Preserves Inv (first >>= rest) :=
  fun state h => hrest (first state).1 _ (hfirst state h)

theorem composes_preserves (Inv : σ → Prop) : Composes (Preserves Inv) where
  pure := .pure
  bind := .bind

/-- The calls that write nothing preserve what holds. -/
abbrev Client.ReadsPreserve (client : Client σ) (Inv : σ → Prop) : Prop :=
  client.ReadsHave (Preserves Inv)

namespace Composes

open Endpoint (Spec Mode)

variable {client : Client σ} {Has : ∀ {α : Type}, StateM σ α → Prop}

theorem resolveAddress (hcomposes : Composes Has) (h : client.ReadsHave Has) (scope : Stop.Scope)
    (group interfaceId : String) :
    Has (Endpoint.resolveAddress client scope group interfaceId) := by
  unfold Endpoint.resolveAddress
  split
  next => exact hcomposes.pure _
  next =>
    refine hcomposes.bind (h.getInterface scope group _) ?_
    rintro (failure | interface)
    · dsimp only
      split <;> exact hcomposes.pure _
    · exact hcomposes.pure _

/-- **Finding out what has become of an endpoint** has what the calls have that write nothing. -/
theorem read (hcomposes : Composes Has) (h : client.ReadsHave Has) (scope : Stop.Scope)
    (id : String) : Has (Endpoint.read client scope id) := by
  unfold Endpoint.read
  split
  next => exact hcomposes.pure _
  next group name _ =>
    refine hcomposes.bind (h.getEndpoint scope group name) ?_
    rintro (failure | record)
    · dsimp only
      split <;> exact hcomposes.pure _
    · dsimp only
      split
      next => exact hcomposes.pure _
      next interfaceId _ =>
        refine hcomposes.bind (hcomposes.resolveAddress h scope group interfaceId) ?_
        rintro (fault | address) <;> exact hcomposes.pure _

theorem checkAbsent (hcomposes : Composes Has) (h : client.ReadsHave Has) (scope : Stop.Scope)
    (spec : Spec) (mode : Mode) : Has (Endpoint.checkAbsent client scope spec mode) := by
  unfold Endpoint.checkAbsent
  split
  next =>
    refine hcomposes.bind (h.getEndpoint scope spec.resourceGroup spec.name) ?_
    rintro (failure | record)
    · dsimp only
      split <;> exact hcomposes.pure _
    · exact hcomposes.pure _
  next => exact hcomposes.pure _

theorem appliedId (hcomposes : Composes Has) (h : client.ReadsHave Has) (scope : Stop.Scope)
    (spec : Spec) : Has (Endpoint.appliedId client scope spec) := by
  refine hcomposes.bind (h.getEndpoint scope spec.resourceGroup spec.name) ?_
  rintro (failure | record)
  · exact hcomposes.pure _
  · dsimp only
    split <;> exact hcomposes.pure _

/-- An endpoint that may be sent may be sent and waited for. -/
theorem put (hcomposes : Composes Has) (h : client.ReadsHave Has) {scope : Stop.Scope}
    {spec : Spec}
    (hput : Has (client.beginPut scope spec.resourceGroup spec.name spec.parameters)) :
    Has (Endpoint.put client scope spec) := by
  refine hcomposes.bind hput ?_
  rintro (failure | operation)
  · exact hcomposes.pure _
  · refine hcomposes.bind (h.wait scope operation) ?_
    rintro (failure | ⟨⟩) <;> exact hcomposes.pure _

theorem readBack (hcomposes : Composes Has) (h : client.ReadsHave Has) (scope : Stop.Scope)
    (spec : Spec) : Has (Endpoint.readBack client scope spec) := by
  refine hcomposes.bind (hcomposes.appliedId h scope spec) ?_
  rintro (fault | id)
  · exact hcomposes.pure _
  refine hcomposes.bind (hcomposes.read h scope id) ?_
  rintro (fault | observed | observed) <;> exact hcomposes.pure _

/-- **Creating or changing an endpoint** has what sending the endpoint has as well. -/
theorem apply (hcomposes : Composes Has) (h : client.ReadsHave Has) {scope : Stop.Scope}
    {spec : Spec} (mode : Mode)
    (hput : Has (client.beginPut scope spec.resourceGroup spec.name spec.parameters)) :
    Has (Endpoint.apply client scope spec mode) := by
  unfold Endpoint.apply
  split
  next => exact hcomposes.pure _
  next =>
    refine hcomposes.bind (hcomposes.checkAbsent h scope spec mode) ?_
    rintro (fault | ⟨⟩)
    · exact hcomposes.pure _
    refine hcomposes.bind (hcomposes.put h hput) ?_
    rintro (fault | ⟨⟩)
    · exact hcomposes.pure _
    · exact hcomposes.readBack h scope spec

end Composes

end Network

namespace Endpoint

open Network

/-- Creating or changing an endpoint preserves what sending the endpoint preserves. -/
theorem preserves_apply {σ : Type} {client : Client σ} {Inv : σ → Prop}
    (h : client.ReadsPreserve Inv) {scope : Stop.Scope} {spec : Spec} (mode : Mode)
    (hput : Preserves Inv
      (client.beginPut scope spec.resourceGroup spec.name spec.parameters)) :
    Preserves Inv (apply client scope spec mode) :=
  (composes_preserves Inv).apply h mode hput

end Endpoint

end PrivateLink
