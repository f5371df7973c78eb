import PrivateLink.Manager.Client
import PrivateLink.Proofs.Manager.Server

/-!
# Following an operation

A request that begins an operation is followed by polls until a reply is decisive. Here it is said
without loops what that comes to: where the outcome is looked for (`targetOf`), which replies are
decisive and for what (`decision?`), and how many replies are heard (`asks`).

* `poll_step`: what one poll does;
* `poll_agrees`: polls go on up to the first decisive reply;
* `follow_agrees`: the same for an operation from the request that begins it.
-/

namespace PrivateLink.Manager

open Network

/-! ### The reference -/

/-- Where the outcome of an operation is found: at the status monitor that the reply names, else at
the location that it names, else at the resource. -/
def targetOf (method : Method) (url : String) (reply : Reply) : Target :=
  if let some monitor := reply.header? "azure-asyncoperation" then .statusMonitor monitor
  else if let some location := reply.header? "location" then .location location
  else if method = .put ∧ reply.status = 201 then .provisioningState url
  else if method = .delete ∧ reply.status = 202 then .resourceGone url
  else .completed

/-- The statuses of operations that ended without success. -/
def unsuccessful : List String :=
  ["Failed", "Canceled", "Cancelled"]

/-- What a status decides, with what is known about a failure. -/
def statusDecision? (status : String) (code message : Option String) :
    Option (Except Failure Unit) :=
  if Text.equalIgnoringCase status "Succeeded" then some (.ok ())
  else if unsuccessful.any (Text.equalIgnoringCase status) then
    some (.error (.operationFailed status code message))
  else none

/-- The provisioning state that a resource reports. -/
def reportedState? (resource : Json) : Option String := do
  (← (← resource.member? "properties").member? "provisioningState").text?

/-- What a reply decides about an operation. A reply other than success decides it always; the
resource itself, as long as it can be asked for, is not gone. -/
def decision? (target : Target) (reply : Reply) : Option (Except Failure Unit) :=
  if reply.isSuccess then
    match target with
    | .statusMonitor _ =>
      match (Wire.ofBody? reply.content : Option Wire.OperationStatus) with
      | none => some (.error Verdict.unreadable)
      | some report =>
        statusDecision? (report.status.getD "") (report.error.bind (·.code))
          (report.error.bind (·.message))
    | .location _ => if reply.status = 202 then none else some (.ok ())
    | .provisioningState _ =>
      match (Json.read? reply.content).bind (Json.value Json.nestingLimit) with
      | none => some (.error Verdict.unreadable)
      | some resource => statusDecision? ((reportedState? resource).getD "Succeeded") none none
    | .resourceGone _ | .completed => none
  else some (.error (Server.refusal reply))

/-- The replies that a server with these replies left gives to requests without end, up to the first
one that says that none is left. -/
def given (replies : List Reply) : List Reply :=
  replies ++ [Server.exhausted]

/-- How often is asked: once for each reply up to the first decisive one. -/
def asks (decision? : Reply → Option (Except Failure Unit)) (replies : List Reply) : Nat :=
  (given replies).findIdx (fun reply => (decision? reply).isSome) + 1

/-- The seconds to wait before one asks again, if the verdict names them. -/
def Verdict.pace? : Verdict → Option Nat
  | .pending retryAfter => retryAfter
  | .done | .failed _ => none

namespace Client

/-- Begin an operation and wait until it is over. -/
def follow (client : Client) (scope : Stop.Scope) (method : Method) (url : String)
    (body : Option String) : StateM Server (Except Failure Unit) := do
  match ← client.begin scope method url body with
  | .error failure => return .error failure
  | .ok operation => client.wait scope operation

/-! ### Verdicts and decisions -/

/-- What a verdict decides: nothing as long as one has to ask again. -/
def decided? (verdict : Verdict) : Option (Except Failure Unit) :=
  match verdict with
  | .done => some (.ok ())
  | .failed failure => some (.error failure)
  | .pending _ => none

/-- What a reply decides when a verdict is passed on replies of success. -/
def settled? (verdict : Reply → Verdict) (reply : Reply) : Option (Except Failure Unit) :=
  match Server.judge reply with
  | .error failure => some (.error failure)
  | .ok reply => decided? (verdict reply)

theorem settled?_of_isSuccess (verdict : Reply → Verdict) {reply : Reply}
    (h : reply.isSuccess = true) : settled? verdict reply = decided? (verdict reply) := by
  rw [settled?, Server.judge_of_isSuccess h]

theorem settled?_of_not_isSuccess (verdict : Reply → Verdict) {reply : Reply}
    (h : reply.isSuccess = false) :
    settled? verdict reply = some (.error (Server.refusal reply)) := by
  rw [settled?, Server.judge_of_not_isSuccess h]

theorem decided?_ofStatus (status : String) (code message : Option String)
    (retryAfter : Option Nat) :
    decided? (Verdict.ofStatus status code message retryAfter) =
      statusDecision? status code message := by
  unfold Verdict.ofStatus Progress.ofStatus statusDecision? unsuccessful
  rw [List.any_cons, List.any_cons, List.any_cons, List.any_nil]
  cases Text.equalIgnoringCase status "Succeeded" <;>
    cases Text.equalIgnoringCase status "Failed" <;>
      cases Text.equalIgnoringCase status "Canceled" <;>
        cases Text.equalIgnoringCase status "Cancelled" <;> rfl

/-- Two ways to decide are the same if they decide the same about replies of success. -/
theorem settled?_eq_decision? {verdict : Reply → Verdict} {target : Target}
    (h : ∀ reply : Reply, reply.isSuccess = true →
      decided? (verdict reply) = decision? target reply) :
    settled? verdict = decision? target := by
  funext reply
  cases hsuccess : reply.isSuccess with
  | true => rw [settled?_of_isSuccess verdict hsuccess, h reply hsuccess]
  | false =>
    rw [settled?_of_not_isSuccess verdict hsuccess]
    unfold decision?
    rw [if_neg (by simp [hsuccess])]

/-- The verdict that is passed on replies of success when the outcome is looked for at the target. -/
def verdictOf : Target → Reply → Verdict
  | .completed => fun _ => .pending none
  | .statusMonitor _ => Verdict.ofMonitor
  | .location _ => Verdict.ofLocation
  | .provisioningState _ => Verdict.ofResource
  | .resourceGone _ => Verdict.ofRemainder

/-- **The verdicts on replies decide what the replies decide.** -/
theorem settled?_verdictOf (target : Target) : settled? (verdictOf target) = decision? target := by
  refine settled?_eq_decision? fun reply hsuccess => ?_
  unfold decision?
  rw [if_pos hsuccess]
  cases target with
  | completed | resourceGone address => rfl
  | statusMonitor address =>
    change decided? (Verdict.ofMonitor reply) = _
    unfold Verdict.ofMonitor
    dsimp only
    cases (Wire.ofBody? reply.content : Option Wire.OperationStatus) with
    | none => rfl
    | some report =>
      dsimp only
      rw [decided?_ofStatus]
      cases report.error <;> rfl
  | location address =>
    change decided? (Verdict.ofLocation reply) = _
    rw [Verdict.ofLocation]
    dsimp only
    split <;> rfl
  | provisioningState address =>
    change decided? (Verdict.ofResource reply) = _
    unfold Verdict.ofResource
    cases (Json.read? reply.content).bind (Json.value Json.nestingLimit) with
    | none => rfl
    | some resource => exact decided?_ofStatus ..

theorem failed_of_ofStatus {status : String} {code message : Option String}
    {retryAfter : Option Nat} {failure : Failure}
    (h : Verdict.ofStatus status code message retryAfter = .failed failure) :
    failure = .operationFailed status code message := by
  unfold Verdict.ofStatus at h
  split at h <;> cases h <;> rfl

/-- **A verdict fails an operation** only because the reply cannot be read or says that the
operation ended without success. -/
theorem failed_of_verdictOf {target : Target} {reply : Reply} {failure : Failure}
    (h : verdictOf target reply = .failed failure) :
    failure = Verdict.unreadable ∨
      ∃ status code message, failure = .operationFailed status code message := by
  cases target with
  | completed | resourceGone address => cases h
  | statusMonitor address =>
    change Verdict.ofMonitor reply = _ at h
    unfold Verdict.ofMonitor at h
    split at h
    next => exact .inl (Verdict.failed.inj h).symm
    next => exact .inr ⟨_, _, _, failed_of_ofStatus h⟩
  | location address =>
    change Verdict.ofLocation reply = _ at h
    unfold Verdict.ofLocation at h
    split at h <;> cases h
  | provisioningState address =>
    change Verdict.ofResource reply = _ at h
    unfold Verdict.ofResource at h
    split at h
    next => exact .inl (Verdict.failed.inj h).symm
    next => exact .inr ⟨_, _, _, failed_of_ofStatus h⟩

/-! ### Polls -/

variable (client : Client) {scope : Stop.Scope} {url path token : String} {server : Server}
  {replies : List Reply}

/-- A poll that is not cut short is one request; its verdict says whether another one follows. -/
theorem poll_of_sleep_ok {clock : Clock} (url : String) (verdict : Reply → Verdict)
    (retryAfter : Option Nat)
    (hslept : scope.sleep server.clock (client.delay retryAfter) = (.ok (), clock)) :
    client.poll scope url verdict retryAfter server =
      match client.send scope .get url none { server with clock } with
      | (.error failure, after) => (.error failure, after)
      | (.ok reply, after) =>
        match verdict reply with
        | .done => (.ok (), after)
        | .failed failure => (.error failure, after)
        | .pending later => client.poll scope url verdict later after := by
  rw [poll, hslept]
  dsimp only
  split
  next hsend => exact hsend ▸ rfl
  next hsend => exact hsend ▸ rfl

/-- The server after a poll that it had these replies left for. -/
def polled (server : Server) (token path : String) (retryAfter : Option Nat)
    (replies : List Reply) : Server :=
  { server with clock := server.clock.slept (client.delay retryAfter) }.served
    (client.manager ++ "/.default") (.authorized token .get path none) replies

theorem requests_polled (server : Server) (token path : String) (retryAfter : Option Nat)
    (replies : List Reply) :
    (client.polled server token path retryAfter replies).requests =
      server.requests ++ [.authorized token .get path none] :=
  Server.requests_served ..

/-- **What one poll does.** It asks at the address once; a reply that settles the operation ends the
polls, and after any other the polls go on, at the pace that its verdict names. -/
theorem poll_step (hend : scope.end? server.clock = none) (htoken : server.token = .ok token)
    (hpath : Url.requestTarget? url = some path) (hturns : server.turns = replies.map .reply)
    (verdict : Reply → Verdict) (retryAfter : Option Nat) :
    client.poll scope url verdict retryAfter server =
      match settled? verdict (replies.headD Server.exhausted) with
      | some outcome => (outcome, client.polled server token path retryAfter replies)
      | none => client.poll scope url verdict
          (verdict (replies.headD Server.exhausted)).pace?
          (client.polled server token path retryAfter replies) := by
  let slept := server.clock.slept (client.delay retryAfter)
  have hlive : scope.interruption? slept = none := Stop.Scope.interruption?_slept hend _
  have hsend : client.send scope .get url none { server with clock := slept } =
      (Server.judge (replies.headD Server.exhausted),
        client.polled server token path retryAfter replies) :=
    Server.send_replies hlive htoken hpath hturns
  have hpoll := client.poll_of_sleep_ok url verdict retryAfter
    (Stop.Scope.sleep_of_end?_eq_none hend _)
  rw [hsend] at hpoll
  rw [hpoll, settled?]
  -- A verdict is only passed on replies that are no refusals.
  cases hjudge : Server.judge (replies.headD Server.exhausted) with
  | error failure => rfl
  | ok reply =>
    obtain rfl := Server.eq_of_judge_ok hjudge
    dsimp only
    cases verdict (replies.headD Server.exhausted) with
    | done => rfl
    | failed failure => rfl
    | pending later => rfl

/-- **Polls go on up to the first decisive reply**, and what it decides is how they end. -/
theorem poll_agrees (hend : scope.end? server.clock = none) (htoken : server.token = .ok token)
    (hpath : Url.requestTarget? url = some path) (hturns : server.turns = replies.map .reply)
    (verdict : Reply → Verdict) (retryAfter : Option Nat) :
    (given replies).findSome? (settled? verdict) =
        some (client.poll scope url verdict retryAfter server).1 ∧
      (client.poll scope url verdict retryAfter server).2.requests =
        server.requests ++
          List.replicate (asks (settled? verdict) replies) (.authorized token .get path none) := by
  -- The replies that are left are heard one by one; without any, the server refuses.
  have hstep := client.poll_step hend htoken hpath hturns verdict retryAfter
  have hrequests := client.requests_polled server token path retryAfter replies
  induction replies generalizing server retryAfter with
  | nil =>
    -- The answer of a server that has no replies left is decisive.
    rw [List.headD_nil, settled?_of_not_isSuccess verdict Server.isSuccess_exhausted] at hstep
    rw [hstep]
    exact ⟨rfl, hrequests⟩
  | cons reply replies ih =>
    rw [List.headD_cons] at hstep
    rw [given, List.cons_append, ← given, List.findSome?_cons]
    cases hreply : settled? verdict reply with
    | some outcome =>
      rw [hreply] at hstep
      rw [hstep]
      refine ⟨rfl, ?_⟩
      simp [asks, given, hreply, List.findIdx_cons, hrequests]
    | none =>
      rw [hreply] at hstep
      have hend' : scope.end? (client.polled server token path retryAfter (reply :: replies)).clock =
          none := (scope.end?_congr rfl).trans hend
      obtain ⟨houtcome, hasked⟩ := ih hend' htoken rfl (verdict reply).pace?
        (client.poll_step hend' htoken hpath rfl verdict _) (client.requests_polled ..)
      rw [hstep]
      refine ⟨houtcome, ?_⟩
      rw [hasked, hrequests]
      simp [asks, given, hreply, List.findIdx_cons, List.replicate_succ]

/-- To wait for an operation that is looked for somewhere is to poll there. -/
theorem wait_eq_poll {operation : Operation} (hurl : operation.target.url? = some url) :
    client.wait scope operation =
      client.poll scope url (verdictOf operation.target) operation.retryAfter := by
  obtain ⟨target, retryAfter⟩ := operation
  cases target with
  | completed => cases hurl
  | statusMonitor address | location address | provisioningState address | resourceGone address =>
    obtain rfl : address = url := Option.some.inj hurl
    rfl

/-- **The wait for an operation that is not over yet** hears the replies up to the first one that is
decisive for the target. -/
theorem wait_agrees {operation : Operation} (hurl : operation.target.url? = some url)
    (hend : scope.end? server.clock = none) (htoken : server.token = .ok token)
    (hpath : Url.requestTarget? url = some path) (hturns : server.turns = replies.map .reply) :
    (given replies).findSome? (decision? operation.target) =
        some (client.wait scope operation server).1 ∧
      (client.wait scope operation server).2.requests =
        server.requests ++
          List.replicate (asks (decision? operation.target) replies)
            (.authorized token .get path none) := by
  rw [client.wait_eq_poll hurl, ← settled?_verdictOf]
  exact client.poll_agrees hend htoken hpath hturns _ _

/-! ### Operations -/

theorem operationBegun_target (method : Method) (url : String) (reply : Reply) :
    (operationBegun method url reply).target = targetOf method url reply := by
  unfold operationBegun targetOf
  cases reply.header? "azure-asyncoperation" with
  | some monitor => rfl
  | none =>
    cases reply.header? "location" with
    | some location => rfl
    | none =>
      dsimp only
      split
      next hstatus => simp [hstatus]
      next hstatus => simp [hstatus]
      next hput hdelete =>
        rw [if_neg fun h => hput h.1 h.2, if_neg fun h => hdelete h.1 h.2]

/-- An operation that is not over at once is asked about somewhere. -/
theorem exists_url?_of_ne_completed {target : Target} (h : target ≠ .completed) :
    ∃ address, target.url? = some address := by
  cases target with
  | completed => exact absurd rfl h
  | statusMonitor address | location address | provisioningState address | resourceGone address =>
    exact ⟨address, rfl⟩

/-- It is asked about at an address that the reply names, or else where the request went. -/
theorem address_of_targetOf {method : Method} {url address : String} {reply : Reply}
    (h : (targetOf method url reply).url? = some address) :
    reply.header? "azure-asyncoperation" = some address ∨
      reply.header? "location" = some address ∨ address = url := by
  unfold targetOf at h
  split at h
  next hmonitor =>
    cases h
    exact .inl hmonitor
  next =>
    split at h
    next hlocation =>
      cases h
      exact .inr (.inl hlocation)
    next =>
      split at h
      · cases h
        exact .inr (.inr rfl)
      · split at h <;> cases h
        exact .inr (.inr rfl)

/-- An operation begins with a reply of success. -/
theorem begin_of_send_ok {method : Method} {body : Option String} {reply : Reply} {begun : Server}
    (hsend : client.send scope method url body server = (.ok reply, begun)) :
    client.begin scope method url body server =
      (.ok (operationBegun method url reply), begun) := by
  simp only [begin, bind, StateT.bind, hsend]
  rfl

/-- No operation begins if the request for it fails. -/
theorem begin_of_send_error {method : Method} {body : Option String} {failure : Failure}
    {after : Server} (hsend : client.send scope method url body server = (.error failure, after)) :
    client.begin scope method url body server = (.error failure, after) := by
  simp only [begin, bind, StateT.bind, hsend]
  rfl

/-- An operation is followed from a first reply of success. -/
theorem follow_of_send_ok {method : Method} {body : Option String} {reply : Reply} {begun : Server}
    (hsend : client.send scope method url body server = (.ok reply, begun)) :
    client.follow scope method url body server =
      client.wait scope (operationBegun method url reply) begun := by
  simp only [follow, bind, StateT.bind, client.begin_of_send_ok hsend]

/-- **An operation is followed to its end.** When nothing stops the scope and the request that
begins an operation is answered with success, there is either nothing to look for, and all is well
without another request, or each further reply is asked for at the target, once each, up to the
first one that is decisive, and the operation ends as that reply decides. -/
theorem follow_agrees (method : Method) (body : Option String) {first : Reply}
    (hend : scope.end? server.clock = none) (htoken : server.token = .ok token)
    (hpath : Url.requestTarget? url = some path)
    (hturns : server.turns = (first :: replies).map .reply)
    (hsuccess : first.isSuccess = true) :
    (targetOf method url first = .completed →
      (client.follow scope method url body server).1 = .ok () ∧
        (client.follow scope method url body server).2.requests =
          server.requests ++ [.authorized token method path body]) ∧
    ∀ address watched, (targetOf method url first).url? = some address →
      Url.requestTarget? address = some watched →
        (given replies).findSome? (decision? (targetOf method url first)) =
            some (client.follow scope method url body server).1 ∧
          (client.follow scope method url body server).2.requests =
            server.requests ++ .authorized token method path body ::
              List.replicate (asks (decision? (targetOf method url first)) replies)
                (.authorized token .get watched none) := by
  let begun := server.served (client.manager ++ "/.default") (.authorized token method path body)
    (first :: replies)
  have hrequests : begun.requests = server.requests ++ [.authorized token method path body] :=
    Server.requests_served ..
  have hsend : client.send scope method url body server = (.ok first, begun) := by
    rw [← Server.judge_of_isSuccess hsuccess]
    exact Server.send_replies (Stop.Scope.interruption?_of_end?_eq_none hend) htoken hpath hturns
  have hfollow := client.follow_of_send_ok hsend
  rw [hfollow, ← operationBegun_target]
  constructor
  · intro hcompleted
    have hwait : client.wait scope (operationBegun method url first) begun = (.ok (), begun) := by
      unfold wait
      rw [hcompleted]
    rw [hwait]
    exact ⟨rfl, hrequests⟩
  · intro address watched hurl hwatched
    -- The request that began the operation took no time.
    have hlasting : scope.end? begun.clock = none := hend
    have hafter := client.wait_agrees hurl hlasting htoken hwatched rfl
    rw [hrequests, List.append_assoc] at hafter
    exact hafter

/-- An operation whose location answers "accepted" once before it is over is asked for twice. -/
theorem follow_location :
    let client := Client.forSubscription "https://management.azure.com" "s" 1000
    let first : Reply :=
      { status := 202, headers := [("Location", "https://eu.management.azure.com/o")] }
    let accepted : Reply := { status := 202 }
    let done : Reply := { status := 204 }
    let server : Server := { token := .ok "t", turns := [first, accepted, done].map .reply }
    let ended := client.follow .background .delete "https://management.azure.com/e" none server
    ended.1 = .ok () ∧
      ended.2.requests =
        [.authorized "t" .delete "/e" none, .authorized "t" .get "/o" none,
          .authorized "t" .get "/o" none] := by
  intro client first accepted done server ended
  have hend : Stop.Scope.background.end? server.clock = none := rfl
  have hpath : Url.requestTarget? "https://management.azure.com/e" = some "/e" := by
    decide +kernel
  have hwatched : Url.requestTarget? "https://eu.management.azure.com/o" = some "/o" := by
    decide +kernel
  have htarget : targetOf .delete "https://management.azure.com/e" first =
      .location "https://eu.management.azure.com/o" := by
    decide +kernel
  have hagrees := client.follow_agrees .delete none hend rfl hpath rfl rfl
  rw [htarget] at hagrees
  obtain ⟨houtcome, hrequests⟩ := hagrees.2 _ "/o" rfl hwatched
  exact ⟨Option.some.inj houtcome.symm, hrequests⟩

end Client

end PrivateLink.Manager
