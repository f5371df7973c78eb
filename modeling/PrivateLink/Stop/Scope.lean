import PrivateLink.Time

/-!
# Stop scopes

A stop scope limits how long a piece of work may take: it may follow the stop signal, and it may
have a deadline. `Scope.await` says what comes first when the work is over at a given instant; a
scope that is over already lets nothing start.
-/

namespace PrivateLink.Stop

/-- What ended a piece of work before its time. -/
inductive Interruption where
  | cancelled
  | deadlineExceeded
deriving DecidableEq, Repr

/-- How long a piece of work may take. -/
structure Scope where
  /-- The work ends with the stop signal. -/
  signalled : Bool := false
  /-- The work ends at this instant. -/
  deadline : Option Millis := none
deriving DecidableEq, Repr

namespace Scope

/-- The scope of work that nothing stops. -/
def background : Scope := {}

/-- The scope with a deadline `span` from now, or its own deadline if that is earlier. A deadline
that is not representable is none. -/
def within (scope : Scope) (clock : Clock) (span : Millis) : Scope :=
  match clock.after? span with
  | none => scope
  | some candidate =>
    { scope with deadline := some (scope.deadline.elim candidate (min candidate)) }

/-- The stop signal that the scope follows has been given. -/
def isStopped (scope : Scope) (clock : Clock) : Bool :=
  scope.signalled && clock.isStopped

/-- Why nothing may start in the scope any more. The stop signal counts before the deadline. -/
def interruption? (scope : Scope) (clock : Clock) : Option Interruption :=
  if scope.isStopped clock then some .cancelled
  else if scope.deadline.any (· ≤ clock.now) then some .deadlineExceeded
  else none

/-- The instant of the stop signal, if the scope follows it. -/
def stopInstant? (scope : Scope) (clock : Clock) : Option Millis :=
  if scope.signalled then clock.stopAt else none

/-- What ends work that would go on for ever, and when. -/
def end? (scope : Scope) (clock : Clock) : Option (Interruption × Millis) :=
  match scope.stopInstant? clock, scope.deadline with
  | some stop, some deadline =>
    if stop ≤ deadline then some (.cancelled, stop) else some (.deadlineExceeded, deadline)
  | some stop, none => some (.cancelled, stop)
  | none, some deadline => some (.deadlineExceeded, deadline)
  | none, none => none

/-- Work that is over at the instant `finish` when nothing stops it: how it ends, and the clock at
its end. Work that is over at the very instant of a stop counts as done. -/
def await (scope : Scope) (clock : Clock) (finish : Millis) : Except Interruption Unit × Clock :=
  match scope.interruption? clock with
  | some interruption => (.error interruption, clock)
  | none =>
    match scope.end? clock with
    | some (interruption, instant) =>
      if instant < finish then (.error interruption, clock.reach instant)
      else (.ok (), clock.reach finish)
    | none => (.ok (), clock.reach finish)

/-- Work on a state that takes no time. In a scope that is over nothing of it is done. -/
def run {σ α : Type} (scope : Scope) (clock : σ → Clock) (work : σ → α × σ) (state : σ) :
    Except Interruption α × σ :=
  match scope.interruption? (clock state) with
  | some interruption => (.error interruption, state)
  | none =>
    let (result, state) := work state
    (.ok result, state)

/-- A wait of length `span`. -/
def sleep (scope : Scope) (clock : Clock) (span : Millis) : Except Interruption Unit × Clock :=
  scope.await clock (clock.wakeAfter span)

end Scope

end PrivateLink.Stop
