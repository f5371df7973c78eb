import PrivateLink.Proofs.Manager.Polling

/-!
# Work that keeps to its scope

Time passes only in waits, and a wait is always followed by a request, which finds out whether the
scope is over. So work made of waits and requests keeps to its scope: what is asked for is asked
before the limit, the limit is not passed, and the work fails with an interruption exactly when the
scope is over in the end. `Keeps` says this of work that starts when it is known whether the scope
is over, and `Keeps.bind` carries it from the first part of some work to the whole.

* `Client.keeps_poll`: polls keep to their scope;
* `Client.keepsScopes_network`: so do the calls of the client.
-/

namespace PrivateLink

open Stop

/-- The interruption that a failure tells of. -/
def Network.Failure.interruption? : Network.Failure → Option Interruption
  | .interrupted cause => some cause
  | _ => none

/-- Being told that something does not exist is no interruption. -/
theorem Network.Failure.interruption?_of_isNotFound {failure : Network.Failure}
    (h : failure.isNotFound = true) : failure.interruption? = none := by
  cases failure with
  | refused status code message => rfl
  | unreachable detail => rfl
  | credential reason => rfl
  | undecodable detail => rfl
  | operationFailed status code message => rfl
  | interrupted cause => cases h

/-- The interruption that a result tells of, when errors tell of it by `told?`. -/
def cutShort? {ε α : Type} (told? : ε → Option Interruption) : Except ε α → Option Interruption
  | .ok _ => none
  | .error error => told? error

namespace Manager

open Network

variable {ε φ α β : Type} {scope : Scope} {before middle after : Server}
  {interruption given : Option Interruption} {told? : ε → Option Interruption}
  {retold? : φ → Option Interruption}

/-! ### From one state to a later one -/

/-- Nothing but replies comes from the server. -/
def Server.Replies (server : Server) : Prop :=
  ∃ replies : List Reply, server.turns = replies.map .reply

/-- The later state is one that work within the scope can lead to: the plan for the stop signal is
the same, time went forward but not beyond the limit, and what was asked for was asked for before
the limit. -/
structure Leads (scope : Scope) (before after : Server) : Prop where
  replies : before.Replies → after.Replies
  stopAt : after.clock.stopAt = before.clock.stopAt
  now_le : before.clock.now ≤ after.clock.now
  now_le_limit : ∀ limit ∈ scope.limit? before.clock,
    after.clock.now ≤ max before.clock.now limit
  exchanges : ∃ sent, after.exchanges = before.exchanges ++ sent ∧
    ∀ exchange ∈ sent, ∀ limit ∈ scope.limit? before.clock, exchange.instant < limit

/-- Work that led to the later state told of the interruption that the scope is over by. -/
structure Timely (scope : Scope) (before : Server) (interruption : Option Interruption)
    (after : Server) : Prop extends Leads scope before after where
  cause : interruption = scope.interruption? after.clock

theorem Leads.refl (scope : Scope) (server : Server) : Leads scope server server where
  replies := id
  stopAt := rfl
  now_le := Nat.le_refl _
  now_le_limit _ _ := Nat.le_max_left ..
  exchanges := ⟨[], (List.append_nil _).symm, nofun⟩

theorem Leads.trans (first : Leads scope before middle) (second : Leads scope middle after) :
    Leads scope before after := by
  have hlimit : scope.limit? middle.clock = scope.limit? before.clock :=
    scope.limit?_congr first.stopAt
  refine ⟨second.replies ∘ first.replies, second.stopAt.trans first.stopAt,
    Nat.le_trans first.now_le second.now_le, ?_, ?_⟩
  · intro limit hmem
    have hfirst := first.now_le_limit limit hmem
    have hsecond := second.now_le_limit limit (hlimit ▸ hmem)
    exact Nat.le_trans hsecond (Nat.max_le.2 ⟨hfirst, Nat.le_max_right ..⟩)
  · obtain ⟨sent, hsent, hearly⟩ := first.exchanges
    obtain ⟨later, hlater, hlate⟩ := second.exchanges
    refine ⟨sent ++ later, by rw [hlater, hsent, List.append_assoc], ?_⟩
    intro exchange hmem limit hlimit'
    cases List.mem_append.1 hmem with
    | inl h => exact hearly exchange h limit hlimit'
    | inr h => exact hlate exchange h limit (hlimit ▸ hlimit')

theorem Leads.trans_timely (first : Leads scope before middle)
    (second : Timely scope middle interruption after) : Timely scope before interruption after :=
  ⟨first.trans second.toLeads, second.cause⟩

/-! ### Work within a scope -/

/-- Work keeps to its scope when it starts while the scope is over by `given`, if it is. -/
def Keeps (scope : Scope) (told? : ε → Option Interruption) (given : Option Interruption)
    (work : StateM Server (Except ε α)) : Prop :=
  ∀ before : Server, before.Replies → given = scope.interruption? before.clock →
    Timely scope before (cutShort? told? (work before).1) (work before).2

/-- Work that does nothing keeps to its scope if it tells of what is given. -/
theorem Keeps.pure {result : Except ε α} (h : cutShort? told? result = given) :
    Keeps scope told? given (Pure.pure result) :=
  fun before _ hgiven => ⟨Leads.refl scope before, h.trans hgiven⟩

/-- What the first part of some work tells of is given to the rest of it. -/
theorem Keeps.bind {first : StateM Server (Except ε α)}
    {rest : Except ε α → StateM Server (Except φ β)} (hfirst : Keeps scope told? given first)
    (hrest : ∀ result, Keeps scope retold? (cutShort? told? result) (rest result)) :
    Keeps scope retold? given (first >>= rest) := by
  intro before hreplies hgiven
  have hmiddle := hfirst before hreplies hgiven
  exact hmiddle.toLeads.trans_timely
    (hrest (first before).1 (first before).2 (hmiddle.replies hreplies) hmiddle.cause)

/-- A first part that may be left out leaves it to the rest to find out whether the scope is over.
-/
theorem Keeps.bind_of_skippable {first : StateM Server (Except ε Unit)}
    {rest : Except ε Unit → StateM Server (Except φ β)}
    (hfirst : Keeps scope told? given first ∨ first = Pure.pure (.ok ()))
    (herror : ∀ error, Keeps scope retold? (told? error) (rest (.error error)))
    (hok : ∀ given, Keeps scope retold? given (rest (.ok ()))) :
    Keeps scope retold? given (first >>= rest) := by
  cases hfirst with
  | inl hkeeps =>
    refine hkeeps.bind ?_
    rintro (error | _)
    · exact herror error
    · exact hok none
  | inr hskipped =>
    rw [hskipped]
    exact hok given

/-! ### Requests -/

/-- Asking for a token while the scope is not over is asking before the limit. -/
theorem Leads.record (hlive : scope.interruption? before.clock = none) (tokenScope : String)
    (request : Option Request) : Leads scope before (before.record tokenScope request) where
  replies := id
  stopAt := rfl
  now_le := Nat.le_refl _
  now_le_limit _ _ := Nat.le_max_left ..
  exchanges := by
    refine ⟨_, rfl, ?_⟩
    intro exchange hmem
    rw [List.mem_singleton.1 hmem]
    exact (Scope.interruption?_eq_none_iff ..).1 hlive

/-- Taking a reply takes no time. -/
theorem Leads.turns (server : Server) (replies : List Reply) :
    Leads scope server { server with turns := replies.map .reply } where
  replies _ := ⟨replies, rfl⟩
  stopAt := rfl
  now_le := Nat.le_refl _
  now_le_limit _ _ := Nat.le_max_left ..
  exchanges := ⟨[], (List.append_nil _).symm, nofun⟩

/-- A wait ends at the limit at the latest. -/
theorem Leads.slept (scope : Scope) (server : Server) (span : Millis) :
    Leads scope server { server with clock := (scope.sleep server.clock span).2 } := by
  cases hscope : scope.interruption? server.clock with
  | some cause =>
    have hslept : (scope.sleep server.clock span).2 = server.clock := by
      simp only [Scope.sleep, Scope.await, hscope]
    rw [hslept]
    exact Leads.refl scope server
  | none =>
    obtain ⟨hstopAt, hnow, hlimit, -⟩ := Scope.await_timely hscope (server.clock.wakeAfter span)
    exact ⟨id, hstopAt, hnow,
      fun limit hmem => Nat.le_trans (hlimit limit hmem) (Nat.le_max_right ..),
      [], (List.append_nil _).symm, fun _ hmem => absurd hmem List.not_mem_nil⟩

/-- A wait that is cut short is so because the scope is over. -/
theorem interruption?_of_sleep_error {clock slept : Clock} {span : Millis} {cause : Interruption}
    (h : scope.sleep clock span = (.error cause, slept)) :
    scope.interruption? slept = some cause := by
  cases hscope : scope.interruption? clock with
  | some found =>
    simp only [Scope.sleep, Scope.await, hscope] at h
    obtain ⟨⟨⟩, rfl⟩ := Prod.mk.inj h
    exact hscope
  | none =>
    have hcause := (Scope.await_timely hscope (clock.wakeAfter span)).2.2.2 cause
    rw [← Scope.sleep, h] at hcause
    exact hcause rfl

theorem cutShort?_judge (reply : Reply) :
    cutShort? Failure.interruption? (Server.judge reply) = none := by
  unfold Server.judge
  split <;> rfl

/-- An answer takes a turn and no time. -/
theorem timely_answer (hreplies : before.Replies) (hlive : scope.interruption? before.clock = none) :
    Timely scope before (cutShort? Failure.interruption? (Server.answer scope before).1)
      (Server.answer scope before).2 := by
  obtain ⟨replies, hturns⟩ := hreplies
  rw [Server.answer_replies hturns]
  exact ⟨Leads.turns _ _, (cutShort?_judge _).trans hlive.symm⟩

/-- A request keeps to its scope. -/
theorem Server.keeps_send (scope : Scope) (tokenScope : String) (method : Method) (url : String)
    (body : Option String) :
    Keeps scope Failure.interruption? given (Server.send scope tokenScope method url body) := by
  intro before hreplies hgiven
  obtain ⟨cause, hscope, hsend⟩ | ⟨reason, hlive, hsend⟩ | ⟨detail, hlive, hsend⟩ |
    ⟨token, path, hlive, -, hsend⟩ := send_cases scope before tokenScope method url body
  · rw [hsend]
    exact ⟨Leads.refl scope before, hscope.symm⟩
  · rw [hsend]
    exact ⟨Leads.record hlive tokenScope none, hlive.symm⟩
  · rw [hsend]
    exact ⟨Leads.record hlive tokenScope none, hlive.symm⟩
  -- This is the only way in which a request is sent, and the scope is not over yet.
  · rw [hsend]
    exact (Leads.record hlive tokenScope _).trans_timely (timely_answer hreplies hlive)

namespace Client

variable (client : Client) (scope : Scope)

theorem keeps_send (method : Method) (url : String) (body : Option String) :
    Keeps scope Failure.interruption? given (client.send scope method url body) :=
  Server.keeps_send scope _ method url body

/-- Fetching a value keeps to its scope. -/
theorem keeps_fetch [Wire.Format α] (url : String) :
    Keeps (α := α) scope Failure.interruption? given (client.fetch scope url) := by
  refine (client.keeps_send scope .get url none).bind ?_
  rintro (failure | reply)
  · exact .pure rfl
  · dsimp only
    split <;> exact .pure rfl

/-- Beginning an operation keeps to its scope. -/
theorem keeps_begin (method : Method) (url : String) (body : Option String) :
    Keeps scope Failure.interruption? given (client.begin scope method url body) := by
  refine (client.keeps_send scope method url body).bind ?_
  rintro (failure | reply)
  · exact .pure rfl
  · exact .pure rfl

/-! ### Waits -/

/-- A request after a pause keeps to the scope of both. -/
theorem timely_of_send {url : String} {clock : Clock} {span : Millis}
    {answer : Except Failure Reply} (hreplies : before.Replies)
    (hsleep : scope.sleep before.clock span = (.ok (), clock))
    (hsend : client.send scope .get url none { before with clock } = (answer, after)) :
    Timely scope before (cutShort? Failure.interruption? answer) after := by
  have hslept := Leads.slept scope before span
  rw [hsleep] at hslept
  have hsent := client.keeps_send scope .get url none { before with clock } hreplies rfl
  rw [hsend] at hsent
  exact hslept.trans_timely hsent

/-- **Polls keep to their scope**, if no verdict tells of an interruption. -/
theorem keeps_poll (url : String) {verdict : Reply → Verdict}
    (hverdict : ∀ reply failure, verdict reply = .failed failure → failure.interruption? = none)
    (retryAfter : Option Nat) :
    Keeps scope Failure.interruption? given (client.poll scope url verdict retryAfter) := by
  -- A poll finds out for itself whether the scope is over.
  intro before hreplies hgiven
  clear hgiven
  fun_induction client.poll scope url verdict retryAfter before with
  | case1 retryAfter before cause clock hsleep =>
    have hslept := Leads.slept scope before (client.delay retryAfter)
    rw [hsleep] at hslept
    exact ⟨hslept, (interruption?_of_sleep_error hsleep).symm⟩
  | case2 retryAfter before clock hsleep failure after hsend =>
    exact client.timely_of_send scope hreplies hsleep hsend
  | case3 retryAfter before clock hsleep reply after hsend hdone =>
    exact client.timely_of_send scope hreplies hsleep hsend
  | case4 retryAfter before clock hsleep reply after hsend failure hfailed =>
    have hsent := client.timely_of_send scope hreplies hsleep hsend
    exact ⟨hsent.toLeads, (hverdict reply failure hfailed).trans hsent.cause⟩
  | case5 retryAfter before clock hsleep reply after hsend later hpending ih =>
    have hsent := client.timely_of_send scope hreplies hsleep hsend
    exact hsent.toLeads.trans_timely (ih (hsent.replies hreplies))

/-- No verdict tells of an interruption. -/
theorem interruption?_of_verdictOf (target : Target) (reply : Reply) (failure : Failure)
    (h : verdictOf target reply = .failed failure) : failure.interruption? = none := by
  obtain rfl | ⟨status, code, message, rfl⟩ := failed_of_verdictOf h
  · rfl
  · rfl

/-- A wait that starts before the scope is over keeps to it. -/
theorem keeps_wait (operation : Operation) :
    Keeps scope Failure.interruption? none (client.wait scope operation) := by
  cases hurl : operation.target.url? with
  | some url =>
    rw [client.wait_eq_poll hurl]
    exact client.keeps_poll scope url (interruption?_of_verdictOf operation.target) _
  | none =>
    obtain ⟨_ | _, retryAfter⟩ := operation
    · exact .pure rfl
    all_goals cases hurl

end Client

/-! ### Network clients -/

/-- The calls of a network client keep to their scopes. A wait need not find out that the scope was
over before it began. -/
structure KeepsScopes (client : Network.Client Server) : Prop where
  getEndpoint : ∀ scope group name given,
    Keeps scope Failure.interruption? given (client.getEndpoint scope group name)
  beginPut : ∀ scope group name parameters given,
    Keeps scope Failure.interruption? given (client.beginPut scope group name parameters)
  beginDelete : ∀ scope group name given,
    Keeps scope Failure.interruption? given (client.beginDelete scope group name)
  wait : ∀ scope operation, Keeps scope Failure.interruption? none (client.wait scope operation)
  getInterface : ∀ scope group name given,
    Keeps scope Failure.interruption? given (client.getInterface scope group name)

/-- **The calls of the client keep to their scopes.** -/
theorem Client.keepsScopes_network (client : Client) : KeepsScopes client.network where
  getEndpoint scope _ _ _ := client.keeps_fetch scope _
  beginPut scope _ _ _ _ := client.keeps_begin scope _ _ _
  beginDelete scope _ _ _ := client.keeps_begin scope _ _ _
  wait scope operation := client.keeps_wait scope operation
  getInterface scope _ _ _ := client.keeps_fetch scope _

end Manager

end PrivateLink
