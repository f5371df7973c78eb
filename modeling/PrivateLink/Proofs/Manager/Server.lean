import PrivateLink.Manager.Server
import PrivateLink.Proofs.Stop.Scope

/-!
# What a request does to a scripted server

The one thing that a request does is decided by the scope, the token, the address and the next turn,
in this order. The lemmas here say what it is in each case, and `Server.send_cases` that there is no
other, so that what is proved about the client need not look into `Server.send`.
-/

namespace PrivateLink.Manager

/-- A request as it is sent with a token. -/
def Request.authorized (token : String) (method : Method) (target : String)
    (body : Option String) : Request where
  method
  target
  authorization := "Bearer " ++ token
  body

namespace Server

variable {scope : Stop.Scope} {tokenScope token url path : String} {method : Method}
  {body : Option String} {server : Server} {replies : List Reply}

/-- The requests that reached the server, the first one first. -/
def requests (server : Server) : List Request :=
  server.exchanges.filterMap (·.request)

theorem requests_record (server : Server) (tokenScope : String) (request : Option Request) :
    (server.record tokenScope request).requests = server.requests ++ request.toList := by
  cases request <;> simp [requests, record]

/-- The server that has been sent a request when it had these replies left. -/
def served (server : Server) (tokenScope : String) (request : Request) (replies : List Reply) :
    Server :=
  { server.record tokenScope (some request) with turns := replies.tail.map .reply }

theorem requests_served (server : Server) (tokenScope : String) (request : Request)
    (replies : List Reply) :
    (server.served tokenScope request replies).requests = server.requests ++ [request] :=
  server.requests_record tokenScope (some request)

/-! ### Replies -/

theorem judge_of_isSuccess {reply : Reply} (h : reply.isSuccess = true) :
    judge reply = .ok reply := if_pos h

theorem judge_of_not_isSuccess {reply : Reply} (h : reply.isSuccess = false) :
    judge reply = .error (refusal reply) := if_neg (by simp [h])

theorem eq_of_judge_ok {given reply : Reply} (h : judge given = .ok reply) : reply = given := by
  unfold judge at h
  split at h
  next => exact (Except.ok.inj h).symm
  next => cases h

theorem isSuccess_exhausted : exhausted.isSuccess = false := rfl

/-- A server that only replies gives the next reply, or says that none is left. -/
theorem answer_replies (h : server.turns = replies.map .reply) :
    answer scope server =
      (judge (replies.headD exhausted), { server with turns := replies.tail.map .reply }) := by
  obtain ⟨clock, token, turns, exchanges⟩ := server
  obtain rfl : turns = replies.map .reply := h
  cases replies with
  | nil => rfl
  | cons reply replies => rfl

/-! ### Requests -/

/-- Nothing is sent once the scope is over. -/
theorem send_of_interruption? {cause : Stop.Interruption}
    (h : scope.interruption? server.clock = some cause) :
    send scope tokenScope method url body server =
      (.error (.interrupted cause), server) := by
  simp only [send, h]

/-- Without a token nothing is sent either. -/
theorem send_of_no_token {reason : String} (hlive : scope.interruption? server.clock = none)
    (htoken : server.token = .error reason) :
    send scope tokenScope method url body server =
      (.error (.credential reason), server.record tokenScope none) := by
  simp only [send, hlive, htoken]

/-- A request to an address that can be requested is put on record and answered. -/
theorem send_of_requestTarget? (hlive : scope.interruption? server.clock = none)
    (htoken : server.token = .ok token) (hpath : Url.requestTarget? url = some path) :
    send scope tokenScope method url body server =
      answer scope (server.record tokenScope (some (.authorized token method path body))) := by
  simp only [send, hlive, htoken, hpath, Request.authorized]

/-- A request to a server that only replies is answered with the next reply. -/
theorem send_replies (hlive : scope.interruption? server.clock = none)
    (htoken : server.token = .ok token) (hpath : Url.requestTarget? url = some path)
    (hturns : server.turns = replies.map .reply) :
    send scope tokenScope method url body server =
      (judge (replies.headD exhausted),
        server.served tokenScope (.authorized token method path body) replies) := by
  rw [send_of_requestTarget? hlive htoken hpath]
  exact answer_replies hturns

/-- An address that cannot be requested is found out only after the token was asked for. -/
theorem send_of_no_requestTarget? (hlive : scope.interruption? server.clock = none)
    (htoken : server.token = .ok token) (hpath : Url.requestTarget? url = none) :
    send scope tokenScope method url body server =
      (.error (.unreachable "the address cannot be used"), server.record tokenScope none) := by
  simp only [send, hlive, htoken, hpath]

/-- **What becomes of a request.** It is not made once the scope is over; it fails for lack of a
token or of an address that can be requested; otherwise it is put on record and answered. -/
theorem send_cases (scope : Stop.Scope) (server : Server) (tokenScope : String) (method : Method)
    (url : String) (body : Option String) :
    (∃ cause, scope.interruption? server.clock = some cause ∧
        send scope tokenScope method url body server = (.error (.interrupted cause), server)) ∨
      (∃ reason, scope.interruption? server.clock = none ∧
        send scope tokenScope method url body server =
          (.error (.credential reason), server.record tokenScope none)) ∨
      (∃ detail, scope.interruption? server.clock = none ∧
        send scope tokenScope method url body server =
          (.error (.unreachable detail), server.record tokenScope none)) ∨
      ∃ token path, scope.interruption? server.clock = none ∧ Url.requestTarget? url = some path ∧
        send scope tokenScope method url body server =
          answer scope (server.record tokenScope (some (.authorized token method path body))) := by
  cases hscope : scope.interruption? server.clock with
  | some cause => exact .inl ⟨cause, rfl, send_of_interruption? hscope⟩
  | none =>
    refine .inr ?_
    cases htoken : server.token with
    | error reason => exact .inl ⟨reason, rfl, send_of_no_token hscope htoken⟩
    | ok token =>
      refine .inr ?_
      cases hpath : Url.requestTarget? url with
      | none => exact .inl ⟨_, rfl, send_of_no_requestTarget? hscope htoken hpath⟩
      | some path => exact .inr ⟨token, path, rfl, rfl, send_of_requestTarget? hscope htoken hpath⟩

end Server

end PrivateLink.Manager
