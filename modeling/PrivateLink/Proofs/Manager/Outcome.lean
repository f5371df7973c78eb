import PrivateLink.Proofs.Manager.Polling

/-!
# What comes of a reply

A call of the client fails with a refusal when the status of a reply is none of success, and for no
other reason. The body of the reply, which may be anything, is only looked at for words: code and
message are taken from it where the whole of it is an error body and has them, and each of the two
has something to stand in for it otherwise. The rules for these words are `Reply.HasCode` and
`Reply.HasMessage`; `Reply.Classifies` says what a reply means for the outcome of a call, whatever
the call is for.

* `Reply.judge_eq_refused_iff`: the words of a refusal;
* `Client.wait_step_classified`: what the reply to one poll means for a wait;
* `Client.exists_refuses_of_wait`: a wait is refused only by a reply that is no success;
* `Client.replies_classified`: the replies to all requests of the client.
-/

namespace PrivateLink.Manager

open Network

/-! ### Words of a refusal -/

namespace Reply

variable {reply : Reply} {status : Nat} {code : Option String} {message : String}

/-- The status is one of success. -/
def IsFine (reply : Reply) : Prop :=
  200 ≤ reply.status ∧ reply.status ≤ 299

/-- The whole of the content is an error body, and this is what it says about the error. -/
def Says (reply : Reply) (detail : Wire.ErrorDetail) : Prop :=
  ∃ body : Wire.ErrorBody, Wire.ofBody? reply.content = some body ∧ body.error = some detail

/-- The code is the one of the error body, and there is none without an error body. -/
inductive HasCode (reply : Reply) : Option String → Prop
  | said {detail : Wire.ErrorDetail} (hsaid : reply.Says detail) : HasCode reply detail.code
  | silent (hsilent : ∀ detail, ¬ reply.Says detail) : HasCode reply none

/-- The message is the one of the error body; without one it is the content, and without content it
is the phrase for the status, if there is one. -/
inductive HasMessage (reply : Reply) : String → Prop
  | said {detail : Wire.ErrorDetail} {message : String} (hsaid : reply.Says detail)
      (hmessage : detail.message = some message) : HasMessage reply message
  | content (hsilent : ∀ detail, reply.Says detail → detail.message = none)
      (hcontent : reply.content ≠ "") : HasMessage reply reply.content
  | phrase {phrase : String} (hsilent : ∀ detail, reply.Says detail → detail.message = none)
      (hcontent : reply.content = "") (hphrase : reasonPhrase? reply.status = some phrase) :
      HasMessage reply phrase
  | unknown (hsilent : ∀ detail, reply.Says detail → detail.message = none)
      (hcontent : reply.content = "") (hphrase : reasonPhrase? reply.status = none) :
      HasMessage reply "Unknown error"

/-- The reply is a refusal with this status and these words. -/
structure Refuses (reply : Reply) (status : Nat) (code : Option String) (message : String) :
    Prop where
  notFine : ¬ reply.IsFine
  status_eq : status = reply.status
  code : reply.HasCode code
  message : reply.HasMessage message

theorem isSuccess_eq_true_iff : reply.isSuccess = true ↔ reply.IsFine := by
  rw [isSuccess, Bool.and_eq_true, decide_eq_true_eq, decide_eq_true_eq, IsFine]
  omega

theorem isSuccess_eq_false_iff : reply.isSuccess = false ↔ ¬ reply.IsFine := by
  rw [← isSuccess_eq_true_iff, Bool.not_eq_true]

/-- What a reply says about an error, if anything. -/
def detail? (reply : Reply) : Option Wire.ErrorDetail :=
  (Wire.ofBody? reply.content : Option Wire.ErrorBody).bind (·.error)

theorem says_iff {detail : Wire.ErrorDetail} : reply.Says detail ↔ reply.detail? = some detail :=
  Option.bind_eq_some_iff.symm

theorem hasCode_iff : reply.HasCode code ↔ reply.detail?.bind (·.code) = code := by
  constructor
  · rintro (hsaid | hsilent)
    · rw [says_iff.1 hsaid, Option.bind_some]
    · rw [Option.eq_none_iff_forall_ne_some.2 fun detail h => hsilent detail (says_iff.2 h),
        Option.bind_none]
  · rintro rfl
    cases hdetail : reply.detail? with
    | none => exact .silent fun detail hsaid => by simp [says_iff.1 hsaid] at hdetail
    | some detail => exact .said (says_iff.2 hdetail)

/-- What stands in for the message of an error body. -/
def fallback (reply : Reply) : String :=
  if reply.content.isEmpty then (reasonPhrase? reply.status).getD "Unknown error"
  else reply.content

/-- An error body without a message says no more about it than none at all. -/
theorem forall_says_iff :
    (∀ detail, reply.Says detail → detail.message = none) ↔
      reply.detail?.bind (·.message) = none := by
  simp only [Option.bind_eq_none_iff, says_iff]

theorem hasMessage_iff :
    reply.HasMessage message ↔ (reply.detail?.bind (·.message)).getD reply.fallback = message := by
  constructor
  · rintro (⟨hsaid, hmessage⟩ | ⟨hsilent, hcontent⟩ | ⟨hsilent, hcontent, hphrase⟩ |
      ⟨hsilent, hcontent, hphrase⟩)
    · rw [says_iff.1 hsaid, Option.bind_some, hmessage, Option.getD_some]
    · rw [forall_says_iff.1 hsilent, Option.getD_none, fallback,
        if_neg (by simpa using hcontent)]
    · rw [forall_says_iff.1 hsilent, Option.getD_none, fallback, hcontent, hphrase]
      rfl
    · rw [forall_says_iff.1 hsilent, Option.getD_none, fallback, hcontent, hphrase]
      rfl
  · rintro rfl
    cases hmessage : reply.detail?.bind (·.message) with
    | some message =>
      obtain ⟨detail, hdetail, hsaid⟩ := Option.bind_eq_some_iff.1 hmessage
      exact .said (says_iff.2 hdetail) hsaid
    | none =>
      have hsilent := forall_says_iff.2 hmessage
      rw [Option.getD_none, fallback]
      by_cases hcontent : reply.content = ""
      · have hempty : reply.content.isEmpty = true := by rw [hcontent]; rfl
        rw [if_pos hempty]
        cases hphrase : reasonPhrase? reply.status with
        | some phrase => exact .phrase hsilent hcontent hphrase
        | none => exact .unknown hsilent hcontent hphrase
      · rw [if_neg (by simpa using hcontent)]
        exact .content hsilent hcontent

/-- **The words of a refusal** go by the rules. -/
theorem judge_eq_refused_iff :
    Server.judge reply = .error (.refused status code message) ↔
      reply.Refuses status code message := by
  have hrefusal : Server.refusal reply = .refused reply.status (reply.detail?.bind (·.code))
      ((reply.detail?.bind (·.message)).getD reply.fallback) := by
    unfold Server.refusal
    rw [← detail?]
    cases reply.detail? <;> rfl
  constructor
  · intro h
    cases hsuccess : reply.isSuccess with
    | true => cases (Server.judge_of_isSuccess hsuccess).symm.trans h
    | false =>
      rw [Server.judge_of_not_isSuccess hsuccess, hrefusal, Except.error.injEq,
        Failure.refused.injEq] at h
      obtain ⟨rfl, hcode, hmessage⟩ := h
      exact ⟨isSuccess_eq_false_iff.1 hsuccess, rfl, hasCode_iff.2 hcode, hasMessage_iff.2 hmessage⟩
  · rintro ⟨hfine, rfl, hcode, hmessage⟩
    rw [Server.judge_of_not_isSuccess (isSuccess_eq_false_iff.2 hfine), hrefusal,
      hasCode_iff.1 hcode, hasMessage_iff.1 hmessage]

/-! ### Outcomes -/

/-- What the reply means for the outcome of a call that it ends: a reply that tells of no success is
a refusal, and a call is refused only by such a reply, with its status and the words for it. So what
was asked for is missing just when the status says so. -/
structure Classifies {α : Type} (reply : Reply) (outcome : Except Failure α) : Prop where
  refused : ¬ reply.IsFine → ∃ code message, outcome = .error (.refused reply.status code message)
  refused_iff : ∀ status code message,
    outcome = .error (.refused status code message) ↔ reply.Refuses status code message
  notFound_iff :
    (∃ failure, outcome = .error failure ∧ failure.isNotFound = true) ↔ reply.status = 404

/-- What the reply to a request for a record means: the record is the one that the content decodes
to, and it cannot be decoded just when there is none in a reply of success. -/
structure Delivers {α : Type} [Wire.Format α] (reply : Reply) (outcome : Except Failure α) :
    Prop where
  ok_iff : ∀ record, outcome = .ok record ↔
    reply.IsFine ∧ Wire.ofBody? reply.content = some record
  undecodable_iff : (∃ detail, outcome = .error (.undecodable detail)) ↔
    reply.IsFine ∧ (Wire.ofBody? reply.content : Option α) = none

variable {α : Type} {outcome : Except Failure α}

theorem classifies_of_not_isSuccess (hsuccess : reply.isSuccess = false)
    (houtcome : outcome = .error (Server.refusal reply)) : reply.Classifies outcome := by
  have hjudge := Server.judge_of_not_isSuccess hsuccess
  subst houtcome
  refine ⟨fun _ => ⟨_, _, rfl⟩, fun status code message => ?_, ?_⟩
  · rw [← judge_eq_refused_iff, hjudge, Except.error.injEq, Except.error.injEq]
  · constructor
    · rintro ⟨_, ⟨⟩, hnotFound⟩
      exact of_decide_eq_true hnotFound
    · intro hstatus
      exact ⟨_, rfl, decide_eq_true hstatus⟩

theorem classifies_of_isSuccess (hsuccess : reply.isSuccess = true)
    (houtcome : ∀ status code message, outcome ≠ .error (.refused status code message)) :
    reply.Classifies outcome := by
  have hfine : reply.IsFine := isSuccess_eq_true_iff.1 hsuccess
  refine ⟨fun h => absurd hfine h, fun status code message => ?_, ?_⟩
  · exact iff_of_false (houtcome status code message) fun h => h.notFine hfine
  · refine iff_of_false ?_ fun hstatus => ?_
    · rintro ⟨failure, rfl, hnotFound⟩
      cases failure with
      | refused status code message => exact houtcome status code message rfl
      | _ => cases hnotFound
    · have hbound := hfine.2
      omega

end Reply

open Reply

/-! ### Requests -/

/-- A request to the address goes out, as the scope is not over, there is a token and the address
can be requested, and it is answered with the reply. -/
structure Server.Answers (server : Server) (scope : Stop.Scope) (url : String) (reply : Reply) :
    Prop where
  live : scope.interruption? server.clock = none
  token : ∃ token, server.token = .ok token
  target : ∃ path, Url.requestTarget? url = some path
  next : server.next.1 = .reply reply

namespace Client

variable (client : Client) {scope : Stop.Scope} {url : String} {server : Server} {reply : Reply}

theorem send_of_answers (h : server.Answers scope url reply) (method : Method)
    (body : Option String) :
    (client.send scope method url body server).1 = Server.judge reply := by
  obtain ⟨hlive, ⟨token, htoken⟩, ⟨path, htarget⟩, hnext⟩ := h
  have hsend : client.send scope method url body server = _ :=
    Server.send_of_requestTarget? hlive htoken htarget
  rw [hsend, Server.answer, Server.next, Server.turns_record]
  rw [Server.next] at hnext
  cases hturns : server.turns with
  | nil =>
    rw [hturns] at hnext
    rw [← Turn.reply.inj hnext]
  | cons turn turns =>
    rw [hturns] at hnext
    obtain rfl : turn = .reply reply := hnext
    rfl

/-- What is made of a reply of success does not change what the reply means, unless it is a refusal
itself. -/
theorem classifies_judge_bind {α : Type} (reply : Reply) {continuation : Reply → Except Failure α}
    (h : ∀ status code message, continuation reply ≠ .error (.refused status code message)) :
    reply.Classifies ((Server.judge reply).bind continuation) := by
  cases hsuccess : reply.isSuccess with
  | true =>
    rw [Server.judge_of_isSuccess hsuccess]
    exact classifies_of_isSuccess hsuccess h
  | false =>
    rw [Server.judge_of_not_isSuccess hsuccess]
    exact classifies_of_not_isSuccess hsuccess rfl

/-- The record in a reply of success. -/
def recordIn (α : Type) [Wire.Format α] (reply : Reply) : Except Failure α :=
  match Wire.ofBody? reply.content with
  | some record => .ok record
  | none => .error Verdict.unreadable

theorem fetch_of_answers {α : Type} [Wire.Format α] (h : server.Answers scope url reply) :
    (client.fetch scope url server).1 = (Server.judge reply).bind (recordIn α) := by
  have hsend := client.send_of_answers h .get none
  cases hanswer : client.send scope .get url none server with
  | mk answer after =>
    rw [hanswer] at hsend
    obtain rfl : answer = Server.judge reply := hsend
    simp only [fetch, bind, StateT.bind, hanswer]
    cases Server.judge reply with
    | error failure => rfl
    | ok reply =>
      dsimp only [Except.bind, recordIn]
      cases (Wire.ofBody? reply.content : Option α) <;> rfl

theorem begin_of_answers (h : server.Answers scope url reply) (method : Method)
    (body : Option String) :
    (client.begin scope method url body server).1 =
      (Server.judge reply).bind fun reply => .ok (operationBegun method url reply) := by
  have hsend := client.send_of_answers h method body
  cases hanswer : client.send scope method url body server with
  | mk answer after =>
    rw [hanswer] at hsend
    obtain rfl : answer = Server.judge reply := hsend
    cases hjudge : Server.judge reply with
    | error failure =>
      rw [hjudge] at hanswer
      rw [client.begin_of_send_error hanswer]
      rfl
    | ok reply =>
      rw [hjudge] at hanswer
      rw [client.begin_of_send_ok hanswer]
      rfl

/-- **The reply to a request for a record** decides both whether the request is refused and what is
fetched. -/
theorem classifies_fetch {α : Type} [Wire.Format α] (h : server.Answers scope url reply) :
    reply.Classifies (α := α) (client.fetch scope url server).1 ∧
      reply.Delivers (α := α) (client.fetch scope url server).1 := by
  rw [client.fetch_of_answers h]
  refine ⟨classifies_judge_bind reply fun status code message => ?_, ?_⟩
  · unfold recordIn
    split <;> exact nofun
  · cases hsuccess : reply.isSuccess with
    | true =>
      have hfine := isSuccess_eq_true_iff.1 hsuccess
      rw [Server.judge_of_isSuccess hsuccess, Except.bind, recordIn]
      cases hrecord : (Wire.ofBody? reply.content : Option α) with
      | some record => exact ⟨by simp [hfine, hrecord], by simp [hrecord]⟩
      | none => exact ⟨by simp [hrecord], by simp [hfine, hrecord, Verdict.unreadable]⟩
    | false =>
      have hfine := isSuccess_eq_false_iff.1 hsuccess
      rw [Server.judge_of_not_isSuccess hsuccess]
      exact ⟨fun record => iff_of_false nofun fun h => hfine h.1,
        iff_of_false (fun ⟨_, h⟩ => nomatch h) fun h => hfine h.1⟩

/-! ### Waits -/

/-- **The reply to one poll.** Either it ends the wait, and decides whether the wait is refused, or
it is one of success, and the wait goes on behind it. -/
theorem wait_step_classified {operation : Operation} {clock : Clock}
    (hurl : operation.target.url? = some url)
    (hslept : scope.sleep server.clock (client.delay operation.retryAfter) = (.ok (), clock))
    (h : { server with clock : Server }.Answers scope url reply) :
    reply.Classifies (client.wait scope operation server).1 ∨
      reply.IsFine ∧ client.wait scope operation server =
        client.wait scope
          { operation with retryAfter := (verdictOf operation.target reply).pace? }
          (client.send scope .get url none { server with clock }).2 := by
  have hsend := client.send_of_answers h .get none
  have hpoll := client.poll_of_sleep_ok url (verdictOf operation.target) _ hslept
  rw [client.wait_eq_poll hurl, hpoll]
  cases hanswer : client.send scope .get url none { server with clock } with
  | mk answer after =>
    rw [hanswer] at hsend
    obtain rfl : answer = Server.judge reply := hsend
    cases hsuccess : reply.isSuccess with
    | false =>
      rw [Server.judge_of_not_isSuccess hsuccess]
      exact .inl (classifies_of_not_isSuccess hsuccess rfl)
    | true =>
      rw [Server.judge_of_isSuccess hsuccess]
      dsimp only
      cases hverdict : verdictOf operation.target reply with
      | done => exact .inl (classifies_of_isSuccess hsuccess nofun)
      | failed failure =>
        obtain rfl | ⟨status, code, message, rfl⟩ := failed_of_verdictOf hverdict
        · exact .inl (classifies_of_isSuccess hsuccess nofun)
        · exact .inl (classifies_of_isSuccess hsuccess nofun)
      | pending later =>
        refine .inr ⟨isSuccess_eq_true_iff.1 hsuccess, ?_⟩
        have hlater : client.wait scope { operation with retryAfter := later } =
            client.poll scope url (verdictOf operation.target) later :=
          client.wait_eq_poll hurl
        dsimp only [Verdict.pace?]
        rw [hlater]

/-! ### Whole waits -/

end Client

namespace Server

variable {scope : Stop.Scope} {server : Server} {reply : Reply} {status : Nat}
  {code : Option String} {message : String}

/-- The server may give the reply: it is one of those to come, or the one that says that none is
left. -/
def Gives (server : Server) (reply : Reply) : Prop :=
  .reply reply ∈ server.turns ∨ reply = exhausted

theorem turns_hang : (hang scope server).2.turns = server.turns := by
  unfold hang
  split <;> rfl

theorem not_refused_of_hang : (hang scope server).1 ≠ .error (.refused status code message) := by
  unfold hang
  split <;> exact nofun

/-- What is answered, and the turns that are left for it. -/
theorem gives_of_answer :
    (answer scope server).2.turns ⊆ server.turns ∧
      ∀ status code message, (answer scope server).1 = .error (.refused status code message) →
        ∃ reply, server.Gives reply ∧ reply.Refuses status code message := by
  unfold answer next Gives
  cases hturns : server.turns with
  | nil =>
    exact ⟨fun turn hmem => hturns ▸ hmem, fun status code message h =>
      ⟨exhausted, .inr rfl, judge_eq_refused_iff.1 h⟩⟩
  | cons turn turns =>
    cases turn with
    | reply reply =>
      exact ⟨List.subset_cons_self .., fun status code message h =>
        ⟨reply, .inl List.mem_cons_self, judge_eq_refused_iff.1 h⟩⟩
    | interrupt =>
      refine ⟨?_, fun status code message h => absurd h not_refused_of_hang⟩
      dsimp only
      rw [turns_hang]
      exact List.subset_cons_self ..

/-- No request makes the server give replies that it did not give before, and it is refused by one
of those. -/
theorem gives_of_send {tokenScope url : String} {method : Method} {body : Option String}
    {answer : Except Failure Reply} {after : Server}
    (h : send scope tokenScope method url body server = (answer, after)) :
    after.turns ⊆ server.turns ∧
      ∀ status code message, answer = .error (.refused status code message) →
        ∃ reply, server.Gives reply ∧ reply.Refuses status code message := by
  obtain ⟨cause, -, hsend⟩ | ⟨reason, -, hsend⟩ | ⟨detail, -, hsend⟩ |
    ⟨token, path, -, -, hsend⟩ := send_cases scope server tokenScope method url body
  · cases hsend.symm.trans h
    exact ⟨List.Subset.refl _, fun _ _ _ h => nomatch h⟩
  · cases hsend.symm.trans h
    exact ⟨List.Subset.refl _, fun _ _ _ h => nomatch h⟩
  · cases hsend.symm.trans h
    exact ⟨List.Subset.refl _, fun _ _ _ h => nomatch h⟩
  · obtain ⟨rfl, rfl⟩ := Prod.mk.inj (hsend.symm.trans h)
    exact gives_of_answer

end Server

namespace Client

variable (client : Client) {scope : Stop.Scope} {server : Server} {status : Nat}
  {code : Option String} {message : String}

theorem exists_refuses_of_poll (url : String) (target : Target) (retryAfter : Option Nat)
    (h : (client.poll scope url (verdictOf target) retryAfter server).1 =
      .error (.refused status code message)) :
    ∃ reply, server.Gives reply ∧ reply.Refuses status code message := by
  fun_induction client.poll scope url (verdictOf target) retryAfter server with
  | case1 | case3 => cases h
  | case2 retryAfter server clock hsleep failure after hsend =>
    obtain rfl : failure = .refused status code message := Except.error.inj h
    exact (Server.gives_of_send hsend).2 _ _ _ rfl
  | case4 retryAfter server clock hsleep reply after hsend failure hverdict =>
    obtain rfl : failure = .refused status code message := Except.error.inj h
    obtain hfailure | ⟨_, _, _, hfailure⟩ := failed_of_verdictOf hverdict
    · cases hfailure
    · cases hfailure
  | case5 retryAfter server clock hsleep reply after hsend later hverdict ih =>
    -- What the server gives behind this poll it could have given before.
    obtain ⟨given, hgives, hrefuses⟩ := ih h
    obtain ⟨hfrom, -⟩ := Server.gives_of_send hsend
    exact ⟨given, hgives.imp_left (hfrom ·), hrefuses⟩

/-- **A wait is refused only by a reply that tells of no success**, with its status and the words
for it. -/
theorem exists_refuses_of_wait {operation : Operation}
    (h : (client.wait scope operation server).1 = .error (.refused status code message)) :
    ∃ reply, server.Gives reply ∧ reply.Refuses status code message := by
  cases hurl : operation.target.url? with
  | some url =>
    rw [client.wait_eq_poll hurl] at h
    exact client.exists_refuses_of_poll url _ _ h
  | none =>
    obtain ⟨target, retryAfter⟩ := operation
    cases target with
    | completed => cases h
    | statusMonitor | location | provisioningState | resourceGone => cases hurl

/-! ### All calls -/

/-- **Every reply is taken for what its status says**, whatever its body is. The reply to a request
that fetches or begins something decides the call. The reply to a poll ends the wait, and then
decides it, or is one of success behind which the wait goes on. In the end a wait is refused only by
a reply that the server gave. -/
theorem replies_classified (client : Client) (scope : Stop.Scope) (server : Server) :
    (∀ reply group name, server.Answers scope (client.endpointUrl group name) reply →
      reply.Classifies (client.network.getEndpoint scope group name server).1 ∧
        reply.Delivers (client.network.getEndpoint scope group name server).1 ∧
        (∀ parameters,
          reply.Classifies (client.network.beginPut scope group name parameters server).1) ∧
        reply.Classifies (client.network.beginDelete scope group name server).1) ∧
      (∀ reply group name, server.Answers scope (client.interfaceUrl group name) reply →
        reply.Classifies (client.network.getInterface scope group name server).1 ∧
          reply.Delivers (client.network.getInterface scope group name server).1) ∧
      (∀ reply operation url clock, operation.target.url? = some url →
        scope.sleep server.clock (client.delay operation.retryAfter) = (.ok (), clock) →
        { server with clock }.Answers scope url reply →
          reply.Classifies (client.network.wait scope operation server).1 ∨
            reply.IsFine ∧ ∃ later, client.network.wait scope operation server =
              client.network.wait scope { operation with retryAfter := later }
                (client.send scope .get url none { server with clock }).2) ∧
      ∀ operation status code message,
        (client.network.wait scope operation server).1 = .error (.refused status code message) →
          ∃ reply, server.Gives reply ∧ reply.Refuses status code message := by
  refine ⟨fun reply group name h => ?_, fun reply group name h => client.classifies_fetch h,
    fun reply operation url clock hurl hslept h => ?_,
    fun operation status code message => client.exists_refuses_of_wait⟩
  · obtain ⟨hclassifies, hdelivers⟩ := client.classifies_fetch (α := Wire.Endpoint) h
    have hbegin (method : Method) (body : Option String) : reply.Classifies
        (client.begin scope method (client.endpointUrl group name) body server).1 := by
      rw [client.begin_of_answers h]
      exact classifies_judge_bind reply nofun
    exact ⟨hclassifies, hdelivers, fun parameters => hbegin _ _, hbegin _ _⟩
  · exact (client.wait_step_classified hurl hslept h).imp_right fun hgoes => ⟨hgoes.1, _, hgoes.2⟩

/-- A body with a code and no message gives the refusal its code, and is the message itself, when an
endpoint is asked for as well as when its deletion is waited for. -/
theorem refused_with_code_only :
    let client := Client.forSubscription "https://management.azure.com" "s" 10000
    let reply : Reply := { status := 404, body := "\x7b\"error\":\x7b\"code\":\"Gone\"\x7d\x7d" }
    let server : Server := { token := .ok "t", turns := [.reply reply] }
    let operation : Operation :=
      { target := .resourceGone (client.endpointUrl "g" "e"), retryAfter := some 5 }
    let refusal := Failure.refused 404 (some "Gone") reply.body
    (client.network.getEndpoint .background "g" "e" server).1 = .error refusal ∧
      (client.network.wait .background operation server).1 = .error refusal := by
  intro client reply server operation refusal
  have htarget : Url.requestTarget? (client.endpointUrl "g" "e") =
      some ("/subscriptions/s/resourceGroups/g/providers/Microsoft.Network/privateEndpoints/e" ++
        "?api-version=2019-06-01") := by
    decide +kernel
  have hdetail : reply.detail? = some { code := some "Gone" } := by decide +kernel
  have hsilent : reply.detail?.bind (·.message) = none := by rw [hdetail, Option.bind_some]
  have hfine : ¬ reply.IsFine := isSuccess_eq_false_iff.1 rfl
  have hrefuses : reply.Refuses 404 (some "Gone") reply.body :=
    ⟨hfine, rfl, .said (says_iff.2 hdetail), .content (forall_says_iff.2 hsilent) (by decide)⟩
  have hanswers (clock : Clock) :
      { server with clock : Server }.Answers .background (client.endpointUrl "g" "e") reply :=
    ⟨Stop.Scope.interruption?_of_end?_eq_none rfl, ⟨"t", rfl⟩, ⟨_, htarget⟩, rfl⟩
  obtain ⟨hendpoint, -, hwait, -⟩ := client.replies_classified .background server
  refine ⟨((hendpoint reply "g" "e" (hanswers _)).1.refused_iff ..).2 hrefuses, ?_⟩
  obtain hclassifies | ⟨hsuccess, -⟩ := hwait reply operation _ _ rfl
    (Stop.Scope.sleep_of_end?_eq_none rfl _) (hanswers _)
  · exact (hclassifies.refused_iff ..).2 hrefuses
  · exact absurd hsuccess hfine

end Client

end PrivateLink.Manager
