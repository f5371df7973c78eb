import Mathlib.Control.Monad.Basic
import PrivateLink.Network.Client

/-!
# Calls on record

A client with a record beside its state notes each call together with the answer to it. The same
work over the client and over the recorded client has the same result and leaves the same state
behind, and what is noted is the story of the work. `Told` says this of a piece of work, and
`Told.bind` puts the story of some work together from the stories of its parts.

* `Client.recorded`: the client that notes its calls;
* `Told.call_bind`: work that goes on after a call.
-/

namespace PrivateLink.Network

/-- A call with the answer to it. -/
inductive Answered where
  | getEndpoint (group name : String) (answer : Except Failure Wire.Endpoint)
  | beginPut (group name : String) (parameters : Wire.Endpoint) (answer : Except Failure Operation)
  | beginDelete (group name : String) (answer : Except Failure Operation)
  | wait (operation : Operation) (answer : Except Failure Unit)
  | getInterface (group name : String) (answer : Except Failure Wire.Interface)
deriving DecidableEq

namespace Answered

/-- What was called. -/
def request : Answered → Request
  | .getEndpoint group name _ => .getEndpoint group name
  | .beginPut group name parameters _ => .beginPut group name parameters
  | .beginDelete group name _ => .beginDelete group name
  | .wait operation _ => .wait operation
  | .getInterface group name _ => .getInterface group name

/-- The failure that was the answer. -/
def failure? : Answered → Option Failure
  | .getEndpoint _ _ (.error failure) | .beginPut _ _ _ (.error failure)
  | .beginDelete _ _ (.error failure) | .wait _ (.error failure)
  | .getInterface _ _ (.error failure) => some failure
  | _ => none

end Answered

variable {σ α β : Type}

/-- The call, noted with its answer behind the calls that were made before it. -/
def Call.noted (call : Call σ α) (answered : Except Failure α → Answered) :
    Call (σ × List Answered) α := fun (state, earlier) =>
  let (answer, after) := call state
  (answer, after, earlier ++ [answered answer])

/-- The client that notes its calls. -/
def Client.recorded (client : Client σ) : Client (σ × List Answered) where
  clock state := client.clock state.1
  getEndpoint scope group name :=
    Call.noted (client.getEndpoint scope group name) (.getEndpoint group name)
  beginPut scope group name parameters :=
    Call.noted (client.beginPut scope group name parameters) (.beginPut group name parameters)
  beginDelete scope group name :=
    Call.noted (client.beginDelete scope group name) (.beginDelete group name)
  wait scope operation := Call.noted (client.wait scope operation) (.wait operation)
  getInterface scope group name :=
    Call.noted (client.getInterface scope group name) (.getInterface group name)

/-! ### Stories -/

/-- The work over the recorded client is the work over the client, and the calls that it makes with
what it comes to are as the story says. -/
def Told (plain : StateM σ α) (recorded : StateM (σ × List Answered) α)
    (Story : List Answered → α → Prop) : Prop :=
  ∀ state earlier, ∃ made,
    recorded (state, earlier) = ((plain state).1, (plain state).2, earlier ++ made) ∧
      Story made (plain state).1

variable {plain : StateM σ α} {recorded : StateM (σ × List Answered) α}
  {Story First : List Answered → α → Prop} {Whole : List Answered → β → Prop}
  {rest : α → StateM σ β} {rest' : α → StateM (σ × List Answered) β}

/-- Work without a call. -/
theorem Told.pure {result : α} (h : Story [] result) :
    Told (Pure.pure result : StateM σ α) (Pure.pure result) Story :=
  fun _ earlier => ⟨[], by rw [List.append_nil]; rfl, h⟩

/-- What is left to tell after a first part with its own story, so that all of it makes the story of
the whole. -/
def After (First : List Answered → α → Prop) (found : α) (Whole : List Answered → β → Prop)
    (made : List Answered) (result : β) : Prop :=
  ∀ first, First first found → Whole (first ++ made) result

/-- The story of some work is that of its first part with that of the rest behind it. -/
theorem Told.bind (hfirst : Told plain recorded First)
    (hrest : ∀ found, Told (rest found) (rest' found) (After First found Whole)) :
    Told (plain >>= rest) (recorded >>= rest') Whole := by
  intro state earlier
  obtain ⟨first, hfound, hstory⟩ := hfirst state earlier
  obtain ⟨made, hresult, hwhole⟩ := hrest (plain state).1 (plain state).2 (earlier ++ first)
  refine ⟨first ++ made, ?_, hwhole first hstory⟩
  rw [← List.append_assoc]
  show rest' (recorded (state, earlier)).1 (recorded (state, earlier)).2 = _
  rw [hfound]
  exact hresult

/-- The work ends with its first part. -/
theorem Told.stop {found : α} {result : β}
    (h : ∀ first, First first found → Whole first result) :
    Told (Pure.pure result : StateM σ β) (Pure.pure result) (After First found Whole) :=
  .pure fun first hfirst => by
    rw [List.append_nil]
    exact h first hfirst

/-- A story may be told with fewer details. -/
theorem Told.mono {Story' : List Answered → α → Prop} (h : Told plain recorded Story)
    (himp : ∀ made result, Story made result → Story' made result) :
    Told plain recorded Story' := by
  intro state earlier
  obtain ⟨made, hresult, hstory⟩ := h state earlier
  exact ⟨made, hresult, himp made _ hstory⟩

/-- A call is told with its answer. -/
theorem Told.call (call : Call σ α) (answered : Except Failure α → Answered) :
    Told call (Call.noted call answered) fun made answer => made = [answered answer] :=
  fun _ _ => ⟨_, rfl, rfl⟩

/-- Work that goes on after a call. -/
theorem Told.call_bind {call : Call σ α} {answered : Except Failure α → Answered}
    {rest : Except Failure α → StateM σ β}
    {rest' : Except Failure α → StateM (σ × List Answered) β}
    (hrest : ∀ answer, Told (rest answer) (rest' answer) fun made result =>
      Whole (answered answer :: made) result) :
    Told (call >>= rest) (Call.noted call answered >>= rest') Whole := by
  refine (Told.call call answered).bind fun answer => (hrest answer).mono ?_
  rintro made result hwhole _ rfl
  exact hwhole

end PrivateLink.Network
