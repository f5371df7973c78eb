/-!
# Time

Time is counted in milliseconds from the start of a run and moves only when something waits for it.
A clock also knows the instant at which the user asks everything to stop, past or future.
-/

namespace PrivateLink

/-- Spans and instants of time in milliseconds. -/
abbrev Millis := Nat

/-- A span in words: in seconds with the fewest decimals that give it, in milliseconds if it is
below one second. -/
def Millis.describe (span : Millis) : String :=
  if span = 0 then "0ns"
  else if span < 1000 then toString span ++ "ms"
  else
    let thousandths := (toString (1000 + span % 1000)).toList.drop 1
    match (thousandths.reverse.dropWhile (· == '0')).reverse with
    | [] => toString (span / 1000) ++ "s"
    | decimals => toString (span / 1000) ++ "." ++ String.ofList decimals ++ "s"

/-- The present instant and the instant of the stop signal. -/
structure Clock where
  now : Millis := 0
  stopAt : Option Millis := none
deriving DecidableEq, Repr

namespace Clock

/-- Instants are representable before this limit, which is `2 ^ 63` seconds. -/
def limit : Millis := Nat.pow 2 63 * 1000

/-- How long a wait of unrepresentable length takes: thirty years. -/
def farFuture : Millis := 86400 * 365 * 30 * 1000

/-- The stop signal has been given. -/
def isStopped (clock : Clock) : Bool :=
  clock.stopAt.any (· ≤ clock.now)

/-- The clock once `instant` is reached; a clock never goes back. -/
def reach (clock : Clock) (instant : Millis) : Clock :=
  { clock with now := max clock.now instant }

/-- The clock after `span`. -/
def advance (clock : Clock) (span : Millis) : Clock :=
  { clock with now := clock.now + span }

/-- The instant `span` from now, if it is representable. -/
def after? (clock : Clock) (span : Millis) : Option Millis :=
  if clock.now + span < limit then some (clock.now + span) else none

/-- The instant at which a wait of length `span` that starts now is over. -/
def wakeAfter (clock : Clock) (span : Millis) : Millis :=
  (clock.after? span).getD (clock.now + farFuture)

/-- The clock with the stop signal given at `instant`, or earlier if it is given earlier. -/
def stopAtInstant (clock : Clock) (instant : Millis) : Clock :=
  { clock with stopAt := some (clock.stopAt.elim instant (min instant)) }

/-- The clock with the stop signal given now. -/
def stop (clock : Clock) : Clock :=
  clock.stopAtInstant clock.now

/-- The clock without a stop signal that still lies ahead. -/
def forgetPlan (clock : Clock) : Clock :=
  { clock with stopAt := clock.stopAt.filter (· ≤ clock.now) }

theorem now_le_reach (clock : Clock) (instant : Millis) : clock.now ≤ (clock.reach instant).now :=
  Nat.le_max_left ..

end Clock

end PrivateLink
