import PrivateLink.Proofs.Manager.Polling

/-!
# Which requests are sent

Whatever the server answers, the requests that the client sends are known beforehand: fetching and
beginning send one request to their address, and a wait sends requests to the address of its
operation, which is that of the resource unless a reply named another one. `Sends` says of work
which requests it may send, and `Sends.bind` puts this together.

* `sends_poll`: polls ask at their address only;
* `mem_turns_of_begin_ok`: where the address of an operation comes from.
-/

namespace PrivateLink.Manager

open Network

variable {α β : Type}

/-- From this state of the server on, the work sends no requests but allowed ones. -/
def Sends (work : StateM Server α) (server : Server) (Allowed : Request → Prop) : Prop :=
  ∃ sent, (work server).2.requests = server.requests ++ sent ∧
    ∀ request ∈ sent, Allowed request

/-- The request asks for this at the address. -/
def Directed (method : Method) (url : String) (request : Request) : Prop :=
  request.method = method ∧ Url.requestTarget? url = some request.target

namespace Sends

variable {server : Server} {Allowed : Request → Prop}

theorem of_eq {work : StateM Server α} (h : (work server).2.requests = server.requests) :
    Sends work server Allowed :=
  ⟨[], by rw [h, List.append_nil], List.forall_mem_nil _⟩

theorem pure (result : α) : Sends (Pure.pure result) server Allowed :=
  of_eq rfl

theorem bind {first : StateM Server α} {rest : α → StateM Server β}
    (hfirst : Sends first server Allowed)
    (hrest : Sends (rest (first server).1) (first server).2 Allowed) :
    Sends (first >>= rest) server Allowed := by
  obtain ⟨begun, hbegun, hallowed⟩ := hfirst
  obtain ⟨sent, hsent, hallowed'⟩ := hrest
  refine ⟨begun ++ sent, ?_, List.forall_mem_append.2 ⟨hallowed, hallowed'⟩⟩
  rw [← List.append_assoc, ← hbegun]
  exact hsent

theorem mono {Allowed' : Request → Prop} {work : StateM Server α} (h : Sends work server Allowed)
    (himp : ∀ request, Allowed request → Allowed' request) : Sends work server Allowed' := by
  obtain ⟨sent, hsent, hallowed⟩ := h
  exact ⟨sent, hsent, fun request hmem => himp request (hallowed request hmem)⟩

end Sends

variable {scope : Stop.Scope} {server : Server}

/-! ### One request -/

theorem requests_hang : (Server.hang scope server).2.requests = server.requests := by
  unfold Server.hang
  split <;> rfl

theorem requests_answer : (Server.answer scope server).2.requests = server.requests := by
  unfold Server.answer Server.next
  cases server.turns with
  | nil => rfl
  | cons turn turns =>
    cases turn with
    | reply reply => rfl
    | interrupt => exact requests_hang

/-- A reply of success was one of the turns of the server. -/
theorem mem_turns_of_answer_ok {after : Server} {reply : Reply}
    (h : Server.answer scope server = (.ok reply, after)) : .reply reply ∈ server.turns := by
  unfold Server.answer Server.next at h
  cases hturns : server.turns with
  | nil =>
    rw [hturns] at h
    cases h
  | cons turn turns =>
    rw [hturns] at h
    cases turn with
    | reply given =>
      obtain rfl : reply = given := Server.eq_of_judge_ok (Prod.mk.inj h).1
      exact List.mem_cons_self
    | interrupt =>
      simp only [Server.hang] at h
      split at h <;> cases h

theorem Server.sends_send (tokenScope : String) (method : Method) (url : String)
    (body : Option String) :
    Sends (Server.send scope tokenScope method url body) server (Directed method url) := by
  obtain ⟨cause, -, hsend⟩ | ⟨reason, -, hsend⟩ | ⟨detail, -, hsend⟩ |
    ⟨token, path, -, hpath, hsend⟩ := send_cases scope server tokenScope method url body
  · exact .of_eq (by rw [hsend])
  · refine .of_eq ?_
    rw [hsend, requests_record]
    exact List.append_nil _
  · refine .of_eq ?_
    rw [hsend, requests_record]
    exact List.append_nil _
  · refine ⟨[.authorized token method path body], ?_, ?_⟩
    · rw [hsend, requests_answer, requests_record]
      rfl
    · exact List.forall_mem_singleton.2 ⟨rfl, hpath⟩

theorem Server.mem_turns_of_send_ok {tokenScope url : String} {method : Method}
    {body : Option String} {after : Server} {reply : Reply}
    (h : Server.send scope tokenScope method url body server = (.ok reply, after)) :
    .reply reply ∈ server.turns := by
  obtain ⟨cause, -, hsend⟩ | ⟨reason, -, hsend⟩ | ⟨detail, -, hsend⟩ |
    ⟨token, path, -, -, hsend⟩ := send_cases scope server tokenScope method url body
  · cases hsend.symm.trans h
  · cases hsend.symm.trans h
  · cases hsend.symm.trans h
  · have hmem := mem_turns_of_answer_ok (hsend.symm.trans h)
    rwa [turns_record] at hmem

namespace Client

variable (client : Client) (scope : Stop.Scope)

theorem sends_send (method : Method) (url : String) (body : Option String) :
    Sends (client.send scope method url body) server (Directed method url) :=
  Server.sends_send _ method url body

theorem sends_fetch [Wire.Format α] (url : String) :
    Sends (α := Except Failure α) (client.fetch scope url) server (Directed .get url) := by
  refine (client.sends_send scope .get url none).bind ?_
  split
  next => exact .pure _
  next => split <;> exact .pure _

theorem sends_begin (method : Method) (url : String) (body : Option String) :
    Sends (client.begin scope method url body) server (Directed method url) := by
  refine (client.sends_send scope method url body).bind ?_
  split <;> exact .pure _

/-- An operation is the one that a reply of the server began. -/
theorem mem_turns_of_begin_ok {method : Method} {url : String} {body : Option String}
    {operation : Operation}
    (h : (client.begin scope method url body server).1 = .ok operation) :
    ∃ reply, .reply reply ∈ server.turns ∧ operation = operationBegun method url reply := by
  cases hsend : client.send scope method url body server with
  | mk answer after =>
    cases answer with
    | error failure =>
      rw [client.begin_of_send_error hsend] at h
      cases h
    | ok reply =>
      rw [client.begin_of_send_ok hsend] at h
      cases h
      exact ⟨reply, Server.mem_turns_of_send_ok hsend, rfl⟩

/-! ### Polls -/

/-- **Polls ask at their address only.** -/
theorem sends_poll (url : String) (verdict : Reply → Verdict) (retryAfter : Option Nat) :
    Sends (client.poll scope url verdict retryAfter) server (Directed .get url) := by
  have hasked {before after : Server} {clock : Clock} {answer : Except Failure Reply}
      (hsend : client.send scope .get url none { before with clock } = (answer, after)) :
      ∃ sent, after.requests = before.requests ++ sent ∧
        ∀ request ∈ sent, Directed .get url request := by
    have hsent : Sends _ { before with clock } _ := client.sends_send scope .get url none
    rw [Sends, hsend] at hsent
    exact hsent
  unfold Sends
  fun_induction client.poll scope url verdict retryAfter server with
  | case1 => exact ⟨[], (List.append_nil _).symm, List.forall_mem_nil _⟩
  | case2 retryAfter server clock hsleep failure after hsend => exact hasked hsend
  | case3 retryAfter server clock hsleep reply after hsend hdone => exact hasked hsend
  | case4 retryAfter server clock hsleep reply after hsend failure hfailed => exact hasked hsend
  | case5 retryAfter server clock hsleep reply after hsend later hpending ih =>
    obtain ⟨sent, hsent, hdirected⟩ := hasked hsend
    obtain ⟨more, hmore, hdirected'⟩ := ih
    refine ⟨sent ++ more, ?_, List.forall_mem_append.2 ⟨hdirected, hdirected'⟩⟩
    rw [hmore, hsent, List.append_assoc]

/-- A wait asks at the address of its operation only. -/
theorem sends_wait (operation : Operation) :
    Sends (client.wait scope operation) server fun request =>
      ∃ address, operation.target.url? = some address ∧ Directed .get address request := by
  obtain ⟨target, retryAfter⟩ := operation
  have hasked (address : String) (verdict : Reply → Verdict) :
      Sends (client.poll scope address verdict retryAfter) server fun request =>
        ∃ asked, some address = some asked ∧ Directed .get asked request :=
    (client.sends_poll scope address verdict retryAfter).mono fun request h => ⟨address, rfl, h⟩
  cases target with
  | completed => exact .of_eq rfl
  | statusMonitor address => exact hasked address Verdict.ofMonitor
  | location address => exact hasked address Verdict.ofLocation
  | provisioningState address => exact hasked address Verdict.ofResource
  | resourceGone address => exact hasked address Verdict.ofRemainder

end Client

end PrivateLink.Manager
