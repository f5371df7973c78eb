import Mathlib.Control.Monad.Basic
import PrivateLink.Endpoint.Lifecycle
import PrivateLink.Proofs.Manager.Polling

/-!
# When an endpoint counts as deleted

Deleting an endpoint over the client of the resource manager is one request and the polls that
follow it. Whether the endpoint counts as deleted in the end is read off the replies here, without
calls: the first reply may say that it is gone, or that its deletion is over, or else the first
decisive one of the replies after it says so.

* `remove_ok_iff`: an endpoint counts as deleted in these cases only, and what the fault is in the
  others.
-/

namespace PrivateLink.Endpoint

open Manager Network

/-! ### The reference -/

/-- The reply of a poll says that the endpoint is gone: it is not found, or its deletion is over. -/
inductive SaysGone : Target → Reply → Prop
  | notFound {target : Target} {reply : Reply} (hstatus : reply.status = 404) :
      SaysGone target reply
  | succeeded {monitor : String} {reply : Reply} {report : Wire.OperationStatus}
      (hsuccess : reply.isSuccess = true) (hreport : Wire.ofBody? reply.content = some report)
      (hstatus : Text.equalIgnoringCase (report.status.getD "") "Succeeded" = true) :
      SaysGone (.statusMonitor monitor) reply
  | answered {location : String} {reply : Reply} (hsuccess : reply.isSuccess = true)
      (hstatus : reply.status ≠ 202) : SaysGone (.location location) reply

/-- The first reply to the request to delete what is at the address, and the replies after it, say
that it is gone. -/
inductive Deleted (url : String) (first : Reply) (later : List Reply) : Prop
  | already (hstatus : first.status = 404)
  | atOnce (hsuccess : first.isSuccess = true) (hstatus : first.status ≠ 202)
      (hmonitor : first.header? "azure-asyncoperation" = none)
      (hlocation : first.header? "location" = none)
  | polled {before after : List Reply} {reply : Reply} (hsuccess : first.isSuccess = true)
      (htarget : targetOf .delete url first ≠ .completed)
      (hlater : later = before ++ reply :: after)
      (hundecided : ∀ earlier ∈ before, decision? (targetOf .delete url first) earlier = none)
      (hgone : SaysGone (targetOf .delete url first) reply)

/-- How a deletion fails that has been asked for: the request for it is refused, or the first
decisive reply of the polls tells of a failure. -/
inductive Faulty (url name group : String) (first : Reply) (later : List Reply) :
    Except Fault Unit → Prop
  | refused (hrefused : first.isSuccess = false) :
      Faulty url name group first later
        (.error (.request .delete name group (Server.refusal first)))
  | failed {before after : List Reply} {reply : Reply} {failure : Failure}
      (hsuccess : first.isSuccess = true) (hlater : later = before ++ reply :: after)
      (hundecided : ∀ earlier ∈ before, decision? (targetOf .delete url first) earlier = none)
      (hdecision : decision? (targetOf .delete url first) reply = some (.error failure)) :
      Faulty url name group first later (.error (.wait .delete name group failure))

/-- The client can send requests to the address: it is handed a token, and the address is one that
can be requested. -/
def Reaches (server : Server) (url : String) : Prop :=
  ∃ token path, server.token = .ok token ∧ Url.requestTarget? url = some path

/-! ### What replies say -/

/-- The end of a wait means that what was waited for is gone. -/
def isGone : Except Failure Unit → Bool
  | .ok () => true
  | .error failure => failure.isNotFound

theorem isSuccess_of_notFound {reply : Reply} (hstatus : reply.status = 404) :
    reply.isSuccess = false := by
  rw [Reply.isSuccess, hstatus]
  rfl

theorem isNotFound_refusal (reply : Reply) :
    (Server.refusal reply).isNotFound = (reply.status == 404) := rfl

/-- A reply that says that the endpoint is gone is decisive. -/
theorem SaysGone.decision {target : Target} {reply : Reply} (h : SaysGone target reply) :
    ∃ outcome, decision? target reply = some outcome ∧ isGone outcome = true := by
  unfold decision?
  cases h with
  | notFound hstatus =>
    rw [if_neg (by simp [isSuccess_of_notFound hstatus])]
    exact ⟨_, rfl, by simp [isGone, isNotFound_refusal, hstatus]⟩
  | succeeded hsuccess hreport hstatus =>
    rw [if_pos hsuccess]
    dsimp only
    rw [hreport]
    dsimp only
    rw [statusDecision?, if_pos hstatus]
    exact ⟨_, rfl, rfl⟩
  | answered hsuccess hstatus =>
    rw [if_pos hsuccess]
    dsimp only
    rw [if_neg hstatus]
    exact ⟨_, rfl, rfl⟩

/-- What a status decides is a failure of the operation, not that something was not found. -/
theorem succeeded_of_statusDecision? {status : String} {code message : Option String}
    {outcome : Except Failure Unit} (h : statusDecision? status code message = some outcome)
    (hgone : isGone outcome = true) : Text.equalIgnoringCase status "Succeeded" = true := by
  unfold statusDecision? at h
  split at h
  next hstatus => exact hstatus
  next =>
    split at h
    · cases h
      cases hgone
    · cases h

/-- A decisive reply after which the endpoint is gone says so, unless it is about the provisioning
of a resource. -/
theorem saysGone_of_decision {target : Target} {reply : Reply} {outcome : Except Failure Unit}
    (htarget : ∀ address, target ≠ .provisioningState address)
    (h : decision? target reply = some outcome) (hgone : isGone outcome = true) :
    SaysGone target reply := by
  unfold decision? at h
  split at h
  next hsuccess =>
    split at h
    · split at h
      · cases h
        cases hgone
      next hreport => exact .succeeded hsuccess hreport (succeeded_of_statusDecision? h hgone)
    · split at h
      · cases h
      next hstatus => exact .answered hsuccess hstatus
    · exact (htarget _ rfl).elim
    · cases h
    · cases h
  next =>
    cases h
    rw [isGone, isNotFound_refusal, beq_iff_eq] at hgone
    exact .notFound hgone

theorem targetOf_delete_ne_provisioningState (url : String) (reply : Reply) (address : String) :
    targetOf .delete url reply ≠ .provisioningState address := by
  unfold targetOf
  split
  · simp
  · split
    · simp
    · simp only [reduceCtorEq, false_and, if_false, true_and]
      split <;> simp

/-- Nothing is left to look for just when the deletion was over at once. -/
theorem targetOf_delete_eq_completed_iff {url : String} {reply : Reply} :
    targetOf .delete url reply = .completed ↔
      reply.status ≠ 202 ∧ reply.header? "azure-asyncoperation" = none ∧
        reply.header? "location" = none := by
  unfold targetOf
  cases reply.header? "azure-asyncoperation" with
  | some monitor => simp
  | none =>
    cases reply.header? "location" with
    | some location => simp
    | none => by_cases hstatus : reply.status = 202 <;> simp [hstatus]

/-- A refusal of the request decides alone. -/
theorem deleted_iff_of_refused {url : String} {first : Reply} {later : List Reply}
    (hrefused : first.isSuccess = false) : Deleted url first later ↔ first.status = 404 := by
  constructor
  · intro h
    cases h with
    | already hstatus => exact hstatus
    | atOnce hsuccess | polled hsuccess => exact nomatch hrefused.symm.trans hsuccess
  · exact .already

theorem deleted_of_completed {url : String} {first : Reply} {later : List Reply}
    (hsuccess : first.isSuccess = true) (htarget : targetOf .delete url first = .completed) :
    Deleted url first later := by
  obtain ⟨hstatus, hmonitor, hlocation⟩ := targetOf_delete_eq_completed_iff.1 htarget
  exact .atOnce hsuccess hstatus hmonitor hlocation

/-- After a reply of success that leaves something to look for, the first decisive one of the
further replies decides. -/
theorem deleted_iff_of_polled {url : String} {first : Reply} {later : List Reply}
    {outcome : Except Failure Unit} (hsuccess : first.isSuccess = true)
    (htarget : targetOf .delete url first ≠ .completed)
    (hfound : later.findSome? (decision? (targetOf .delete url first)) = some outcome) :
    Deleted url first later ↔ isGone outcome = true := by
  constructor
  · intro h
    cases h with
    | already hstatus => exact nomatch (isSuccess_of_notFound hstatus).symm.trans hsuccess
    | atOnce _ hstatus hmonitor hlocation =>
      exact (htarget (targetOf_delete_eq_completed_iff.2 ⟨hstatus, hmonitor, hlocation⟩)).elim
    | @polled before after reply _ _ hlater hundecided hgone =>
      obtain ⟨outcome', hdecision, hgone'⟩ := hgone.decision
      have hfound' : later.findSome? (decision? (targetOf .delete url first)) = some outcome' :=
        List.findSome?_eq_some_iff.2 ⟨before, reply, after, hlater, hdecision, hundecided⟩
      obtain rfl : outcome = outcome' := Option.some.inj (hfound.symm.trans hfound')
      exact hgone'
  · intro hgone
    obtain ⟨before, reply, after, hlater, hdecision, hundecided⟩ :=
      List.findSome?_eq_some_iff.1 hfound
    exact .polled hsuccess htarget hlater hundecided
      (saysGone_of_decision (targetOf_delete_ne_provisioningState url first) hdecision hgone)

/-! ### What deleting comes to -/

section

variable {σ : Type} {client : Network.Client σ} {scope : Stop.Scope} {id group name : String}
  {state : σ}

/-- Deleting ends at once when it cannot be begun. -/
theorem remove_of_begin_error {failure : Failure} {after : σ}
    (hid : parseId id = .ok (group, name))
    (hbegin : client.beginDelete scope group name state = (.error failure, after)) :
    (remove client scope id state).1 =
      if failure.isNotFound then .ok () else .error (.request .delete name group failure) := by
  simp only [remove, hid, bind, StateT.bind, hbegin]
  split <;> rfl

/-- Deleting ends with the wait once it has begun. -/
theorem remove_of_begin_ok {operation : Operation} {begun : σ}
    (hid : parseId id = .ok (group, name))
    (hbegin : client.beginDelete scope group name state = (.ok operation, begun)) :
    (remove client scope id state).1 =
      match (client.wait scope operation begun).1 with
      | .ok () => .ok ()
      | .error failure =>
        if failure.isNotFound then .ok () else .error (.wait .delete name group failure) := by
  simp only [remove, hid, bind, StateT.bind, hbegin]
  rcases client.wait scope operation begun with ⟨failure | ⟨⟩, after⟩
  · dsimp only
    split <;> rfl
  · rfl

end

variable (client : Manager.Client) {scope : Stop.Scope} {id group name : String} {server : Server}
  {replies : List Reply}

/-- Without a token, or to an address that cannot be requested, nothing is deleted. -/
theorem remove_of_not_reaches (hid : parseId id = .ok (group, name))
    (hend : scope.end? server.clock = none)
    (hreaches : ¬ Reaches server (client.endpointUrl group name)) :
    ∃ failure, (remove client.network scope id server).1 =
      .error (.request .delete name group failure) := by
  have hlive := Stop.Scope.interruption?_of_end?_eq_none hend
  have hfails : ∃ failure after, failure.isNotFound = false ∧
      client.send scope .delete (client.endpointUrl group name) none server =
        (.error failure, after) := by
    cases htoken : server.token with
    | error reason => exact ⟨_, _, rfl, Server.send_of_no_token hlive htoken⟩
    | ok token =>
      cases hpath : Url.requestTarget? (client.endpointUrl group name) with
      | none => exact ⟨_, _, rfl, Server.send_of_no_requestTarget? hlive htoken hpath⟩
      | some path => exact (hreaches ⟨token, path, htoken, hpath⟩).elim
  obtain ⟨failure, after, hfailure, hsend⟩ := hfails
  refine ⟨failure, ?_⟩
  rw [remove_of_begin_error hid (client.begin_of_send_error hsend), hfailure]
  rfl

section

variable {first : Reply} (hfirst : replies.headD Server.exhausted = first)
  (hend : scope.end? server.clock = none) (hturns : server.turns = replies.map .reply)
  (hreaches : Reaches server (client.endpointUrl group name))

include hfirst hend hturns hreaches

/-- The request to delete takes the first reply and leaves the others. -/
theorem send_delete : ∃ begun : Server,
    client.send scope .delete (client.endpointUrl group name) none server =
      (Server.judge first, begun) ∧
    scope.end? begun.clock = none ∧ begun.token = server.token ∧
    begun.turns = replies.tail.map .reply := by
  obtain ⟨token, path, htoken, hpath⟩ := hreaches
  subst hfirst
  exact ⟨_, Server.send_replies (Stop.Scope.interruption?_of_end?_eq_none hend) htoken hpath hturns,
    hend, rfl, rfl⟩

variable (hid : parseId id = .ok (group, name))

include hid

/-- A refusal of the request to delete is the fault, unless it says that there is nothing to
delete. -/
theorem remove_of_refused (hrefused : first.isSuccess = false) :
    (remove client.network scope id server).1 =
      if first.status = 404 then .ok ()
      else .error (.request .delete name group (Server.refusal first)) := by
  obtain ⟨begun, hsend, -⟩ := send_delete client hfirst hend hturns hreaches
  rw [Server.judge_of_not_isSuccess hrefused] at hsend
  rw [remove_of_begin_error hid (client.begin_of_send_error hsend), isNotFound_refusal]
  simp only [beq_iff_eq]

/-- A deletion that was over at once needs no poll. -/
theorem remove_of_completed (hsuccess : first.isSuccess = true)
    (htarget : targetOf .delete (client.endpointUrl group name) first = .completed) :
    (remove client.network scope id server).1 = .ok () := by
  obtain ⟨begun, hsend, -⟩ := send_delete client hfirst hend hturns hreaches
  rw [Server.judge_of_isSuccess hsuccess] at hsend
  rw [remove_of_begin_ok hid (client.begin_of_send_ok hsend)]
  have hwait : client.network.wait scope
      (operationBegun .delete (client.endpointUrl group name) first) begun = (.ok (), begun) := by
    show client.wait _ _ _ = _
    unfold Manager.Client.wait
    rw [Manager.Client.operationBegun_target, htarget]
  rw [hwait]

/-- Any other deletion ends as the first decisive one of the further replies decides. -/
theorem remove_of_polled {address watched : String} (hsuccess : first.isSuccess = true)
    (hurl : (targetOf .delete (client.endpointUrl group name) first).url? = some address)
    (hwatched : Url.requestTarget? address = some watched) :
    ∃ outcome,
      (given replies.tail).findSome?
          (decision? (targetOf .delete (client.endpointUrl group name) first)) = some outcome ∧
      (remove client.network scope id server).1 =
        match outcome with
        | .ok () => .ok ()
        | .error failure =>
          if failure.isNotFound then .ok () else .error (.wait .delete name group failure) := by
  obtain ⟨begun, hsend, hlasting, htoken, hleft⟩ := send_delete client hfirst hend hturns hreaches
  obtain ⟨token, -, hgiven, -⟩ := hreaches
  rw [Server.judge_of_isSuccess hsuccess] at hsend
  rw [remove_of_begin_ok hid (client.begin_of_send_ok hsend)]
  rw [← Manager.Client.operationBegun_target] at hurl ⊢
  exact ⟨_, (client.wait_agrees hurl hlasting (htoken.trans hgiven) hwatched hleft).1, rfl⟩

/-- What deleting comes to once the request for it goes out. -/
theorem remove_of_reaches
    (hheaders : ∀ address, first.header? "azure-asyncoperation" = some address ∨
      first.header? "location" = some address → (Url.requestTarget? address).isSome = true) :
    ((remove client.network scope id server).1 = .ok () ↔
      Deleted (client.endpointUrl group name) first (given replies.tail)) ∧
    (¬ Deleted (client.endpointUrl group name) first (given replies.tail) →
      Faulty (client.endpointUrl group name) name group first (given replies.tail)
        (remove client.network scope id server).1) := by
  cases hsuccess : first.isSuccess with
  | false =>
    rw [remove_of_refused client hfirst hend hturns hreaches hid hsuccess,
      deleted_iff_of_refused hsuccess]
    by_cases hstatus : first.status = 404
    · simp [hstatus]
    · simp only [hstatus, if_false, reduceCtorEq, not_false_eq_true, true_imp_iff, true_and]
      exact .refused hsuccess
  | true =>
    by_cases htarget : targetOf .delete (client.endpointUrl group name) first = .completed
    · have hdeleted : Deleted (client.endpointUrl group name) first (given replies.tail) :=
        deleted_of_completed hsuccess htarget
      exact ⟨iff_of_true
        (remove_of_completed client hfirst hend hturns hreaches hid hsuccess htarget) hdeleted,
        fun h => (h hdeleted).elim⟩
    · obtain ⟨address, hurl⟩ := Manager.Client.exists_url?_of_ne_completed htarget
      have hwatched : (Url.requestTarget? address).isSome = true := by
        obtain hmonitor | hlocation | rfl := Manager.Client.address_of_targetOf hurl
        · exact hheaders address (.inl hmonitor)
        · exact hheaders address (.inr hlocation)
        · obtain ⟨token, path, -, hpath⟩ := hreaches
          rw [hpath]
          rfl
      obtain ⟨watched, hwatched⟩ := Option.isSome_iff_exists.1 hwatched
      obtain ⟨outcome, hfound, houtcome⟩ :=
        remove_of_polled client hfirst hend hturns hreaches hid hsuccess hurl hwatched
      rw [houtcome, deleted_iff_of_polled hsuccess htarget hfound]
      rcases outcome with failure | ⟨⟩
      · obtain ⟨before, reply, after, hlater, hdecision, hundecided⟩ :=
          List.findSome?_eq_some_iff.1 hfound
        cases hgone : failure.isNotFound with
        | true => simp [isGone, hgone]
        | false =>
          simp only [isGone, hgone, if_false, reduceCtorEq, not_false_eq_true, true_imp_iff,
            true_and, Bool.false_eq_true]
          exact .failed hsuccess hlater hundecided hdecision
      · simp [isGone]

end

/-! ### The outcome by the replies -/

/-- **When an endpoint counts as deleted.** Nothing stops the scope, and the server only replies,
naming addresses that can be requested. The deletion succeeds just when the request for it goes out
and the replies say that the endpoint is gone. Otherwise it is a fault of the request if that does
not go out or is refused, and a fault of the wait if the first decisive one of the further replies
tells of a failure. -/
theorem remove_ok_iff (hid : parseId id = .ok (group, name))
    (hend : scope.end? server.clock = none) (hturns : server.turns = replies.map .reply)
    (hheaders : ∀ address,
      (replies.headD Server.exhausted).header? "azure-asyncoperation" = some address ∨
        (replies.headD Server.exhausted).header? "location" = some address →
      (Url.requestTarget? address).isSome = true) :
    let url := client.endpointUrl group name
    let first := replies.headD Server.exhausted
    let later := given replies.tail
    let outcome := (remove client.network scope id server).1
    (outcome = .ok () ↔ Reaches server url ∧ Deleted url first later) ∧
    (¬ Reaches server url → ∃ failure, outcome = .error (.request .delete name group failure)) ∧
    (Reaches server url → ¬ Deleted url first later →
      Faulty url name group first later outcome) := by
  intro url first later outcome
  by_cases hreaches : Reaches server url
  · obtain ⟨hok, hfault⟩ := remove_of_reaches client rfl hend hturns hreaches hid hheaders
    exact ⟨hok.trans (and_iff_right hreaches).symm, fun h => (h hreaches).elim, fun _ => hfault⟩
  · obtain ⟨failure, houtcome⟩ := remove_of_not_reaches client hid hend hreaches
    have hne : outcome ≠ .ok () := fun hok => nomatch hok.symm.trans houtcome
    exact ⟨iff_of_false hne fun h => hreaches h.1, fun _ => ⟨failure, houtcome⟩,
      fun h => (hreaches h).elim⟩

/-- An endpoint that is still there when it is asked for first, and then is not, is deleted. -/
theorem remove_ok_of_vanished :
    let client := Manager.Client.forSubscription "https://management.azure.com" "s" 1000
    let id := "/subscriptions/s/resourceGroups/g/providers/Microsoft.Network/privateEndpoints/e"
    let accepted : Reply := { status := 202 }
    let present : Reply := { status := 200 }
    let gone : Reply := { status := 404 }
    let server : Server := { token := .ok "t", turns := [accepted, present, gone].map .reply }
    (remove client.network .background id server).1 = .ok () := by
  intro client id accepted present gone server
  have hid : parseId id = .ok ("g", "e") := by decide +kernel
  have hpath : Url.requestTarget? (client.endpointUrl "g" "e") =
      some ("/subscriptions/s/resourceGroups/g/providers/Microsoft.Network/privateEndpoints/e" ++
        "?api-version=2019-06-01") := by decide +kernel
  have hheaders : ∀ address,
      accepted.header? "azure-asyncoperation" = some address ∨
        accepted.header? "location" = some address →
      (Url.requestTarget? address).isSome = true := by
    rintro address (h | h) <;> cases h
  have htarget : targetOf .delete (client.endpointUrl "g" "e") accepted =
      .resourceGone (client.endpointUrl "g" "e") := rfl
  have hdeleted : Deleted (client.endpointUrl "g" "e") accepted (given [present, gone]) := by
    refine .polled rfl (by rw [htarget]; exact nofun)
      (show given [present, gone] = [present] ++ gone :: [Server.exhausted] from rfl) ?_
      (.notFound rfl)
    simp [htarget, decision?, Reply.isSuccess, present]
  have hend : Stop.Scope.background.end? server.clock = none := rfl
  have hturns : server.turns = [accepted, present, gone].map .reply := rfl
  exact (remove_ok_iff client hid hend hturns hheaders).1.2 ⟨⟨"t", _, rfl, hpath⟩, hdeleted⟩

end PrivateLink.Endpoint
