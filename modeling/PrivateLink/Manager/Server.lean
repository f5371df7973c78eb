import PrivateLink.Manager.Message
import PrivateLink.Manager.Url
import PrivateLink.Network.Client

/-!
# A scripted server

A server holds the replies to come, one for each request, and keeps a record of what it was asked.
`Server.send` is how a request reaches it: a token is asked for first, then the request goes out
unless its address cannot be used, and a reply other than success is a failure. The server answers
at every address on the web, with and without encryption.

A reply is final: one with a status of 3xx counts as a reply other than success, and no redirect is
followed.
-/

namespace PrivateLink.Manager

open Network

/-- What happens when a request arrives. -/
inductive Turn where
  | reply (reply : Reply)
  /-- The user gives the stop signal; the request is never answered. -/
  | interrupt
deriving DecidableEq, Repr

/-- A token that was asked for and the request that it was used for, if one went out. -/
structure Exchange where
  /-- When the token was asked for. -/
  instant : Millis
  /-- What the token allows. -/
  tokenScope : String
  request : Option Request
deriving DecidableEq, Repr

/-- A server with its script. -/
structure Server where
  clock : Clock := {}
  /-- The token that is handed out, or why there is none. -/
  token : Except String String
  turns : List Turn
  /-- What the server was asked, the first exchange first. -/
  exchanges : List Exchange := []

namespace Server

/-- The reply of a server whose script is at its end. -/
def exhausted : Reply where
  status := 500
  body := (Json.ofMembers [("error", .ofMembers
    [("code", .text "ScriptExhausted"), ("message", .text "no reply left")])]).compact

/-- The failure that a reply other than success stands for. Code and message are taken from the body
if it is an error body and gives them. -/
def refusal (reply : Reply) : Failure :=
  let detail := ((Wire.ofBody? reply.content : Option Wire.ErrorBody).bind (·.error)).getD {}
  let fallback :=
    if reply.content.isEmpty then (reasonPhrase? reply.status).getD "Unknown error"
    else reply.content
  .refused reply.status detail.code (detail.message.getD fallback)

/-- The reply itself if it tells of success. -/
def judge (reply : Reply) : Except Failure Reply :=
  if reply.isSuccess then .ok reply else .error (refusal reply)

/-- What happens next, and the server without it. -/
def next (server : Server) : Turn × Server :=
  match server.turns with
  | [] => (.reply exhausted, server)
  | turn :: turns => (turn, { server with turns })

/-- The server with one more exchange on record. -/
def record (server : Server) (tokenScope : String) (request : Option Request) : Server :=
  let exchange := { instant := server.clock.now, tokenScope, request }
  { server with exchanges := server.exchanges ++ [exchange] }

/-- Wait for an answer that never comes. -/
def hang (scope : Stop.Scope) (server : Server) : Except Failure Reply × Server :=
  match scope.end? server.clock with
  | some (interruption, instant) =>
    (.error (.interrupted interruption), { server with clock := server.clock.reach instant })
  | none => (.error (.unreachable "the connection was closed"), server)

/-- Answer a request. -/
def answer (scope : Stop.Scope) (server : Server) : Except Failure Reply × Server :=
  match server.next with
  | (.reply reply, server) => (judge reply, server)
  | (.interrupt, server) => hang scope { server with clock := server.clock.stop }

/-- Send a request to an address, with a token for `tokenScope`. -/
def send (scope : Stop.Scope) (tokenScope : String) (method : Method) (url : String)
    (body : Option String) : Call Server Reply := fun server =>
  match scope.interruption? server.clock with
  | some interruption => (.error (.interrupted interruption), server)
  | none =>
    match server.token with
    | .error reason => (.error (.credential reason), server.record tokenScope none)
    | .ok token =>
      match Url.requestTarget? url with
      | none => (.error (.unreachable "the address cannot be used"), server.record tokenScope none)
      | some target =>
        let authorization := "Bearer " ++ token
        answer scope (server.record tokenScope (some { method, target, authorization, body }))

/-! ### A reply of success takes a turn -/

theorem turns_record (server : Server) (tokenScope : String) (request : Option Request) :
    (server.record tokenScope request).turns = server.turns := rfl

theorem judge_exhausted : ∃ failure, judge exhausted = .error failure :=
  ⟨refusal exhausted, rfl⟩

theorem turns_lt_of_answer_ok {scope : Stop.Scope} {server after : Server} {reply : Reply}
    (h : answer scope server = (.ok reply, after)) : after.turns.length < server.turns.length := by
  unfold answer next at h
  cases hturns : server.turns with
  | nil =>
    rw [hturns] at h
    obtain ⟨failure, hjudge⟩ := judge_exhausted
    simp [hjudge] at h
  | cons turn turns =>
    rw [hturns] at h
    cases turn with
    | reply reply =>
      obtain ⟨-, rfl⟩ := Prod.mk.inj h
      simp
    | interrupt =>
      simp only [hang] at h
      split at h <;> simp at h

/-- Fewer turns are left after a request that was answered with success. -/
theorem turns_lt_of_send_ok {scope : Stop.Scope} {tokenScope url : String} {method : Method}
    {body : Option String} {server after : Server} {reply : Reply}
    (h : send scope tokenScope method url body server = (.ok reply, after)) :
    after.turns.length < server.turns.length := by
  unfold send at h
  split at h
  · exact nomatch (Prod.mk.inj h).1
  · split at h
    · exact nomatch (Prod.mk.inj h).1
    · split at h
      · exact nomatch (Prod.mk.inj h).1
      · have := turns_lt_of_answer_ok h
        rwa [turns_record] at this

end Server

end PrivateLink.Manager
