import Mathlib.Algebra.GroupWithZero.Nat
import Mathlib.Data.List.TakeWhile
import PrivateLink.Proofs.Manager.Polling

/-!
# The pace of polls

Time passes only in the pauses before the polls. The first pause is the one that the operation asks
for, and each later one is the one that the reply before it asks for (`paceOf`), where the client's
own interval stands in for a reply that asks for none. A resource whose provisioning state is
watched is never heard on this: however long it asks to wait, the pause is the client's interval.

`Client.pauses` lists the pauses of a wait. That the polls come at their ends is shown poll by poll
from the clock with which a poll leaves the server.

* `Client.poll_paced`: polls come at the ends of the pauses that the verdicts name;
* `Client.wait_paced`: the wait for an operation takes its pauses and no more.
-/

namespace PrivateLink

/-! ### Waits one after another -/

namespace Clock

variable {clock : Clock} {span : Millis} {spans : List Millis}

/-- A wait whose end is representable lasts as long as it is meant to. -/
theorem slept_of_lt (h : clock.now + span < limit) : clock.slept span = clock.advance span := by
  have hwake : clock.wakeAfter span = clock.now + span := by
    rw [wakeAfter, after?, if_pos h, Option.getD_some]
  rw [slept, reach, hwake, Nat.max_eq_right (Nat.le_add_right ..), advance]

/-- So do several waits one after another. -/
theorem foldl_slept_of_lt (h : clock.now + spans.sum < limit) :
    spans.foldl slept clock = clock.advance spans.sum := by
  induction spans generalizing clock with
  | nil => rfl
  | cons span spans ih =>
    rw [List.sum_cons, ← Nat.add_assoc] at h
    have hfirst : clock.slept span = clock.advance span :=
      slept_of_lt (Nat.lt_of_le_of_lt (Nat.le_add_right ..) h)
    have hrest : (clock.advance span).now + spans.sum < limit := h
    rw [List.foldl_cons, hfirst, ih hrest, List.sum_cons]
    simp only [advance, Nat.add_assoc]

/-- Each of them ends when the spans up to it are over. -/
theorem scanl_slept_of_lt (h : clock.now + spans.sum < limit) :
    (spans.scanl slept clock).map (·.now) = spans.scanl (· + ·) clock.now := by
  induction spans generalizing clock with
  | nil => rfl
  | cons span spans ih =>
    rw [List.sum_cons, ← Nat.add_assoc] at h
    have hfirst : clock.slept span = clock.advance span :=
      slept_of_lt (Nat.lt_of_le_of_lt (Nat.le_add_right ..) h)
    have hrest : (clock.advance span).now + spans.sum < limit := h
    rw [List.scanl_cons, List.map_cons, hfirst, ih hrest, List.scanl_cons]
    rfl

end Clock

namespace Manager

open Network

/-! ### The reference -/

/-- The seconds that a reply asks to wait before the next poll at the target. The resource that
reports a provisioning state is not heard on this. -/
def paceOf (target : Target) (reply : Reply) : Option Nat :=
  match target with
  | .statusMonitor _ | .location _ | .resourceGone _ => reply.retryAfter?
  | .provisioningState _ | .completed => none

/-- The replies before the first decisive one: after each of them a poll follows. -/
def undecided (decision? : Reply → Option (Except Failure Unit)) (replies : List Reply) :
    List Reply :=
  replies.takeWhile fun reply => (decision? reply).isNone

namespace Client

variable (client : Client) {scope : Stop.Scope} {url path token : String} {server : Server}
  {replies : List Reply}

/-- The pauses of a wait: one before the first poll, and one after each reply that is not decisive.
-/
def pauses (operation : Operation) (replies : List Reply) : List Millis :=
  client.delay operation.retryAfter ::
    (undecided (decision? operation.target) replies).map fun reply =>
      client.delay (paceOf operation.target reply)

/-- What is put on record of a poll at the instant. -/
def pollAt (token path : String) (instant : Millis) : Exchange where
  instant
  tokenScope := client.manager ++ "/.default"
  request := some (.authorized token .get path none)

/-! ### Polls -/

theorem pace?_ofStatus {status : String} {code message : Option String} {retryAfter : Option Nat}
    (h : decided? (Verdict.ofStatus status code message retryAfter) = none) :
    (Verdict.ofStatus status code message retryAfter).pace? = retryAfter := by
  unfold Verdict.ofStatus at h ⊢
  cases hprogress : Progress.ofStatus status with
  | underway => rfl
  | succeeded | failed | cancelled =>
    rw [hprogress] at h
    cases h

/-- The verdict on a reply that is not decisive names the pace that the reply asks for, unless the
target is the resource with its provisioning state. -/
theorem pace?_verdictOf {target : Target} {reply : Reply}
    (h : settled? (verdictOf target) reply = none) :
    (verdictOf target reply).pace? = paceOf target reply := by
  have hpending : decided? (verdictOf target reply) = none := by
    cases hsuccess : reply.isSuccess with
    | true => rwa [settled?_of_isSuccess _ hsuccess] at h
    | false =>
      rw [settled?_of_not_isSuccess _ hsuccess] at h
      cases h
  cases target with
  | completed | resourceGone address => rfl
  | statusMonitor address =>
    change decided? (Verdict.ofMonitor reply) = none at hpending
    change (Verdict.ofMonitor reply).pace? = reply.retryAfter?
    unfold Verdict.ofMonitor at hpending ⊢
    split at hpending
    next => cases hpending
    next report => exact pace?_ofStatus hpending
  | location address =>
    change decided? (Verdict.ofLocation reply) = none at hpending
    change (Verdict.ofLocation reply).pace? = reply.retryAfter?
    unfold Verdict.ofLocation at hpending ⊢
    split at hpending
    next haccepted => rw [if_pos haccepted]; rfl
    next => cases hpending
  | provisioningState address =>
    change decided? (Verdict.ofResource reply) = none at hpending
    change (Verdict.ofResource reply).pace? = none
    unfold Verdict.ofResource at hpending ⊢
    split at hpending
    next => cases hpending
    next resource => exact pace?_ofStatus hpending

/-- **Polls come at the ends of their pauses**, each of which is the one that the verdict on the
reply before names. -/
theorem poll_paced (hend : scope.end? server.clock = none) (htoken : server.token = .ok token)
    (hpath : Url.requestTarget? url = some path) (hturns : server.turns = replies.map .reply)
    (verdict : Reply → Verdict) (retryAfter : Option Nat) :
    let pauses := client.delay retryAfter :: (undecided (settled? verdict) replies).map fun reply =>
      client.delay (verdict reply).pace?
    let ended := (client.poll scope url verdict retryAfter server).2
    ended.exchanges = server.exchanges ++ (pauses.scanl Clock.slept server.clock).tail.map
        (fun clock => client.pollAt token path clock.now) ∧
      ended.clock = pauses.foldl Clock.slept server.clock := by
  have hstep := client.poll_step hend htoken hpath hturns verdict retryAfter
  -- The polls go on as long as there are replies that do not decide.
  induction replies generalizing server retryAfter with
  | nil =>
    rw [List.headD_nil, settled?_of_not_isSuccess verdict Server.isSuccess_exhausted] at hstep
    rw [hstep]
    exact ⟨rfl, rfl⟩
  | cons reply replies ih =>
    rw [List.headD_cons] at hstep
    cases hreply : settled? verdict reply with
    | some outcome =>
      rw [hreply] at hstep
      rw [hstep, undecided, List.takeWhile_cons_of_neg (by simp [hreply])]
      exact ⟨rfl, rfl⟩
    | none =>
      rw [hreply] at hstep
      have hend' : scope.end? (client.polled server token path retryAfter (reply :: replies)).clock =
          none := (scope.end?_congr rfl).trans hend
      obtain ⟨hexchanges, hclock⟩ := ih hend' htoken rfl (verdict reply).pace?
        (client.poll_step hend' htoken hpath rfl verdict _)
      rw [hstep, undecided, List.takeWhile_cons_of_pos (by simp [hreply]), ← undecided]
      refine ⟨hexchanges.trans ?_, hclock⟩
      -- The poll that has been made is the first one on record.
      change (server.exchanges ++ [_]) ++ _ = _
      simp only [List.append_assoc, List.map_cons, List.scanl_cons, List.tail_cons]
      rfl

/-! ### Operations -/

/-- The wait for an operation polls at the ends of its pauses and is over with the last of them. -/
theorem wait_at_pauses {operation : Operation} (hurl : operation.target.url? = some url)
    (hend : scope.end? server.clock = none) (htoken : server.token = .ok token)
    (hpath : Url.requestTarget? url = some path) (hturns : server.turns = replies.map .reply) :
    let pauses := client.pauses operation replies
    let ended := (client.wait scope operation server).2
    ended.exchanges = server.exchanges ++ (pauses.scanl Clock.slept server.clock).tail.map
        (fun clock => client.pollAt token path clock.now) ∧
      ended.clock = pauses.foldl Clock.slept server.clock := by
  have hpauses : client.pauses operation replies = client.delay operation.retryAfter ::
      (undecided (settled? (verdictOf operation.target)) replies).map fun reply =>
        client.delay (verdictOf operation.target reply).pace? := by
    rw [pauses, ← settled?_verdictOf]
    congr 1
    refine List.map_congr_left fun reply hmem => ?_
    have hnone := List.mem_takeWhile_imp hmem
    rw [pace?_verdictOf (Option.isNone_iff_eq_none.1 hnone)]
  rw [hpauses, client.wait_eq_poll hurl]
  exact client.poll_paced hend htoken hpath hturns _ _

/-- Without a token the first poll is the last one. -/
theorem wait_of_no_token {operation : Operation} {reason : String}
    (hurl : operation.target.url? = some url) (hend : scope.end? server.clock = none)
    (hreason : server.token = .error reason) :
    let slept := server.clock.slept (client.delay operation.retryAfter)
    client.wait scope operation server = (.error (.credential reason),
      { server with clock := slept }.record (client.manager ++ "/.default") none) := by
  intro slept
  have hlive : scope.interruption? slept = none := Stop.Scope.interruption?_slept hend _
  have hsend : client.send scope .get url none { server with clock := slept } = _ :=
    Server.send_of_no_token hlive hreason
  have hpoll := client.poll_of_sleep_ok url (verdictOf operation.target) operation.retryAfter
    (Stop.Scope.sleep_of_end?_eq_none hend _)
  rw [client.wait_eq_poll hurl, hpoll, hsend]

/-- **The wait for an operation takes its pauses.** When nothing stops the scope, the polls come at
the ends of the pauses, one after each, and the wait is over with the last one. As long as its end
is representable, it takes exactly the sum of the pauses; a pause that would go beyond that lasts
thirty years. If no token is handed out, there is no reply to any poll, and the wait is over after
the first pause. -/
theorem wait_paced {operation : Operation} (hurl : operation.target.url? = some url)
    (hend : scope.end? server.clock = none) (hpath : Url.requestTarget? url = some path)
    (hturns : server.turns = replies.map .reply) :
    let pauses := client.pauses operation replies
    let ended := (client.wait scope operation server).2
    (∀ token, server.token = .ok token →
      ended.exchanges = server.exchanges ++ (pauses.scanl Clock.slept server.clock).tail.map
          (fun clock => client.pollAt token path clock.now) ∧
        ended.clock = pauses.foldl Clock.slept server.clock ∧
        (server.clock.now + pauses.sum < Clock.limit →
          ended.exchanges = server.exchanges ++
              (pauses.scanl (· + ·) server.clock.now).tail.map (client.pollAt token path) ∧
            ended.clock = server.clock.advance pauses.sum)) ∧
    ∀ reason, server.token = .error reason →
      ended.requests = server.requests ∧
        ended.clock = server.clock.slept (client.delay operation.retryAfter) := by
  intro pauses ended
  refine ⟨fun token htoken => ?_, fun reason hreason => ?_⟩
  · obtain ⟨hexchanges, hclock⟩ := client.wait_at_pauses hurl hend htoken hpath hturns
    refine ⟨hexchanges, hclock, fun hlt => ⟨hexchanges.trans ?_, ?_⟩⟩
    · rw [← Clock.scanl_slept_of_lt hlt, ← List.map_tail, List.map_map]
      rfl
    · exact hclock.trans (Clock.foldl_slept_of_lt hlt)
  · have hwait := client.wait_of_no_token hurl hend hreason
    have hended : ended = _ := congrArg Prod.snd hwait
    rw [hended, Server.requests_record]
    exact ⟨List.append_nil _, rfl⟩

/-- An operation that asks for two seconds and whose location then asks for one and for none. -/
theorem wait_paced_location :
    let client := Client.forSubscription "http://h" "s" 10000
    let operation : Operation := { target := .location "http://h/o", retryAfter := some 2 }
    let soon : Reply := { status := 202, headers := [("Retry-After", "1")] }
    let accepted : Reply := { status := 202 }
    let server : Server :=
      { token := .ok "t", turns := [soon, accepted, { status := 204 }].map .reply }
    let ended := (client.wait .background operation server).2
    ended.exchanges = [2000, 3000, 13000].map (client.pollAt "t" "/o") ∧
      ended.clock.now = 13000 := by
  intro client operation soon accepted server ended
  have hpath : Url.requestTarget? "http://h/o" = some "/o" := by decide +kernel
  have hpauses : client.pauses operation [soon, accepted, { status := 204 }] =
      [2000, 1000, 10000] := by decide +kernel
  have hlt : server.clock.now + [2000, 1000, 10000].sum < Clock.limit := by decide
  have hinstants : ([2000, 1000, 10000].scanl (· + ·) server.clock.now).tail =
      [2000, 3000, 13000] := by decide
  have htotal : (server.clock.advance [2000, 1000, 10000].sum).now = 13000 := by decide
  have hpaced := client.wait_paced (rfl : operation.target.url? = some "http://h/o")
    (rfl : Stop.Scope.background.end? server.clock = none) hpath rfl
  rw [hpauses] at hpaced
  obtain ⟨-, -, hwhole⟩ := hpaced.1 "t" rfl
  obtain ⟨hexchanges, hclock⟩ := hwhole hlt
  rw [hinstants] at hexchanges
  exact ⟨hexchanges, (congrArg Clock.now hclock).trans htotal⟩

/-- A resource that is still being updated asks to wait for three seconds; the next poll comes after
the ten seconds of the client. -/
theorem wait_unheard_provisioningState :
    let client := Client.forSubscription "http://h" "s" 10000
    let operation : Operation := { target := .provisioningState "http://h/e", retryAfter := none }
    let state (text : String) : String := (Json.ofMembers [("properties", .ofMembers
      [("provisioningState", .text text)])]).compact
    let updating : Reply :=
      { status := 200, headers := [("Retry-After", "3")], body := state "Updating" }
    let provisioned : Reply := { status := 200, body := state "Succeeded" }
    let server : Server := { token := .ok "t", turns := [updating, provisioned].map .reply }
    let ended := (client.wait .background operation server).2
    updating.retryAfter? = some 3 ∧
      ended.exchanges.map (·.instant) = [10000, 20000] ∧
      ended.clock.now ≠ 10000 + 3 * 1000 := by
  intro client operation state updating provisioned server ended
  have hpath : Url.requestTarget? "http://h/e" = some "/e" := by decide +kernel
  have hpauses : client.pauses operation [updating, provisioned] = [10000, 10000] := by
    decide +kernel
  have hclocks : (([10000, 10000].scanl Clock.slept server.clock).tail.map (·.now)) =
      [10000, 20000] := by decide
  have hlast : ([10000, 10000].foldl Clock.slept server.clock).now ≠ 10000 + 3 * 1000 := by decide
  have hended := client.wait_at_pauses (rfl : operation.target.url? = some "http://h/e")
    (rfl : Stop.Scope.background.end? server.clock = none) rfl hpath rfl
  rw [hpauses] at hended
  obtain ⟨hexchanges, hclock⟩ := hended
  refine ⟨by decide +kernel, ?_, ?_⟩
  · have hinstants := congrArg (List.map (·.instant)) hexchanges
    rw [List.map_append, List.map_map] at hinstants
    exact hinstants.trans hclocks
  · intro hsooner
    exact hlast ((congrArg Clock.now hclock).symm.trans hsooner)

end Client

end Manager

end PrivateLink
