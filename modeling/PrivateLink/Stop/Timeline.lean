import PrivateLink.Stop.Scope

/-!
# Timelines

A timeline is a clock, the handle that gives the stop signal, and the scopes that were made so far.
Events make scopes tighter, copy them, let time pass, and use or drop the handle. A copy shares the
stop signal with its model and keeps the deadline that it had.
-/

namespace PrivateLink.Stop

/-- A run of events around stop scopes. -/
structure Timeline where
  clock : Clock := {}
  /-- The handle that gives the stop signal is held. -/
  handle : Bool := false
  scopes : List Scope
deriving DecidableEq, Repr

/-- Something that happens to a timeline. Scopes are meant by their place in the list. -/
inductive Event where
  /-- The scope gets a deadline that lies `span` ahead. -/
  | limit (scope : Nat) (span : Millis)
  /-- The scope is copied; the copy comes last in the list. -/
  | copy (scope : Nat)
  | pass (span : Millis)
  | stop
  | dropHandle
deriving DecidableEq, Repr

namespace Timeline

/-- A timeline with one scope that nothing stops. -/
def background : Timeline where
  scopes := [.background]

/-- A timeline with one scope that follows the stop signal. -/
def cancellable : Timeline where
  handle := true
  scopes := [{ signalled := true }]

/-- The timeline after an event. Without its handle the stop signal is never given. -/
def apply (timeline : Timeline) : Event → Timeline
  | .limit scope span =>
    { timeline with
      scopes := timeline.scopes.modify scope fun scope => scope.within timeline.clock span }
  | .copy scope =>
    { timeline with scopes := timeline.scopes ++ (timeline.scopes[scope]?).toList }
  | .pass span => { timeline with clock := timeline.clock.advance span }
  | .stop =>
    if timeline.handle then { timeline with clock := timeline.clock.stop } else timeline
  | .dropHandle => { timeline with handle := false }

/-- The timeline after a sequence of events. -/
def applyAll (timeline : Timeline) (events : List Event) : Timeline :=
  events.foldl apply timeline

/-- Run `work` with the stop signal planned `span` ahead. The plan is dropped when the work ends
before it, and without a handle there is none. -/
def withPlannedStop {α : Type} (handle : Bool) (clock : Clock) (span : Option Millis)
    (work : Clock → α × Clock) : α × Clock :=
  match span with
  | some span =>
    let planned := if handle then clock.stopAtInstant (clock.now + span) else clock
    let (result, clock) := work planned
    (result, clock.forgetPlan)
  | none => work clock

end Timeline

end PrivateLink.Stop
