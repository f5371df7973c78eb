import PrivateLink.Proofs.Endpoint.Timely
import PrivateLink.Proofs.Provider.Task

/-!
# Operations keep to their time

An operation has to be over at the stop signal, at the deadline of the provider, and when the time
that it may take has passed (`Ends`). Over a server that only replies, no request of the operation
is sent at one of these instants or later, the operation is over when the first of them is reached,
and the operations that they end fail by saying so.

* `timely_or_local`: a task keeps to the scope of its operation, or asks nothing of the service;
* `run_timely`: the same in terms of instants.
-/

namespace PrivateLink.Provider

open Manager Network Stop

/-- The interruption that an error tells of. -/
def Error.interruption? (error : Error) : Option Interruption :=
  error.cause.bind Endpoint.Fault.interruption?

/-- An error tells of an interruption exactly if that is the failure behind it. -/
theorem interruption?_eq_some_iff {error : Error} {cause : Interruption} :
    error.interruption? = some cause ↔
      error.cause.bind (·.source?) = some (.interrupted cause) := by
  have hfailure : ∀ failure : Failure,
      failure.interruption? = some cause ↔ failure = .interrupted cause := by
    intro failure
    cases failure <;> simp [Failure.interruption?]
  unfold Error.interruption? Endpoint.Fault.interruption?
  cases error.cause with
  | none => simp
  | some fault =>
    simp only [Option.bind_some]
    cases fault.source? with
    | none => simp
    | some failure => simpa using hfailure failure

/-- The error for a fault tells of the interruption that the fault tells of. -/
theorem interruption?_ofFault (fault : Endpoint.Fault) :
    (Error.ofFault fault).interruption? = fault.interruption? := by
  cases fault <;> rfl

/-! ### When an operation ends -/

/-- An operation that starts at the clock has to be over at the instant, by what ends it then. -/
inductive Ends {σ : Type} (provider : Provider σ) (clock : Clock) : Interruption → Millis → Prop
  | stop {instant : Millis} (hsignalled : provider.scope.signalled = true)
      (hstop : clock.stopAt = some instant) : Ends provider clock .cancelled instant
  | deadline {instant : Millis} (hdeadline : provider.scope.deadline = some instant) :
      Ends provider clock .deadlineExceeded instant
  | timeout (hlimit : clock.now + provider.settings.operationTimeout < Clock.limit) :
      Ends provider clock .deadlineExceeded (clock.now + provider.settings.operationTimeout)

/-- The deadline of a tightened scope is the earlier of its own and the one that `span` gives. -/
theorem lt_deadline_within_iff (scope : Scope) (clock : Clock) (span instant : Millis) :
    (∀ deadline ∈ (scope.within clock span).deadline, instant < deadline) ↔
      (∀ deadline ∈ scope.deadline, instant < deadline) ∧
        (clock.now + span < Clock.limit → instant < clock.now + span) := by
  unfold Scope.within Clock.after?
  by_cases h : clock.now + span < Clock.limit
  · rw [if_pos h]
    cases scope.deadline with
    | none => simp [h]
    | some deadline =>
      simp only [Option.elim_some, Option.mem_some_iff, forall_eq', h, true_imp_iff]
      exact Nat.lt_min.trans and_comm
  · rw [if_neg h]
    simp [h]

theorem within_signalled (scope : Scope) (clock : Clock) (span : Millis) :
    (scope.within clock span).signalled = scope.signalled := by
  unfold Scope.within
  split <;> rfl

variable {provider : Provider Server} {server : Server} {cause : Interruption}
  {instant : Millis}

/-- An instant is before the limit of an operation exactly if it is before everything that ends the
operation. -/
theorem lt_limit?_operationScope_iff (hclock : provider.client.clock = Server.clock)
    (instant : Millis) :
    (∀ limit ∈ (provider.operationScope server).limit? server.clock, instant < limit) ↔
      ∀ cause ending, Ends provider server.clock cause ending → instant < ending := by
  rw [Scope.lt_limit?_iff, operationScope, hclock, lt_deadline_within_iff, Scope.stopInstant?,
    within_signalled]
  constructor
  · rintro ⟨hstop, hdeadline, htimeout⟩ cause ending hends
    cases hends with
    | stop hsignalled h => exact hstop ending (by rw [if_pos hsignalled, h]; rfl)
    | deadline h => exact hdeadline ending h
    | timeout h => exact htimeout h
  · intro hends
    refine ⟨fun stop hstop => ?_, fun deadline h => hends _ _ (.deadline h),
      fun h => hends _ _ (.timeout h)⟩
    cases hsignalled : provider.scope.signalled with
    | false => simp [hsignalled] at hstop
    | true =>
      rw [if_pos hsignalled] at hstop
      exact hends _ _ (.stop hsignalled hstop)

/-- What ends an operation does not come before its limit. -/
theorem exists_limit_le_of_ends (hclock : provider.client.clock = Server.clock)
    (hends : Ends provider server.clock cause instant) :
    ∃ limit, (provider.operationScope server).limit? server.clock = some limit ∧
      limit ≤ instant := by
  cases hlimit : (provider.operationScope server).limit? server.clock with
  | none =>
    have hlt := (lt_limit?_operationScope_iff hclock instant).1 (by simp [hlimit])
      cause instant hends
    exact absurd hlt (Nat.lt_irrefl _)
  | some limit =>
    refine ⟨limit, rfl, Nat.le_of_not_lt fun hlt => ?_⟩
    have hlt := (lt_limit?_operationScope_iff hclock instant).1 (by simpa [hlimit] using hlt)
      cause instant hends
    exact absurd hlt (Nat.lt_irrefl _)

/-- What an operation is interrupted by at the end of a clock has come by then. -/
theorem exists_ends_of_interruption? (hclock : provider.client.clock = Server.clock) {after : Clock}
    (hstopAt : after.stopAt = server.clock.stopAt)
    (h : (provider.operationScope server).interruption? after = some cause) :
    ∃ instant, Ends provider server.clock cause instant ∧ instant ≤ after.now := by
  unfold Scope.interruption? at h
  split at h
  next hstopped =>
    cases h
    simp only [Scope.isStopped, Clock.isStopped, Bool.and_eq_true, Option.any_eq_true,
      decide_eq_true_eq, hstopAt, operationScope, within_signalled] at hstopped
    obtain ⟨hsignalled, stop, hstop, hle⟩ := hstopped
    exact ⟨stop, .stop hsignalled hstop, hle⟩
  next =>
    split at h
    next hdeadline =>
      cases h
      -- The deadline of the operation is one of several instants, so one of them has come.
      refine Classical.byContradiction fun hnone => ?_
      have hlt : ∀ instant, Ends provider server.clock .deadlineExceeded instant →
          after.now < instant :=
        fun instant hends => Nat.lt_of_not_le fun hle => hnone ⟨instant, hends, hle⟩
      have hbefore := (lt_deadline_within_iff provider.scope server.clock
        provider.settings.operationTimeout after.now).2
        ⟨fun deadline hmem => hlt deadline (.deadline hmem), fun hlimit => hlt _ (.timeout hlimit)⟩
      obtain ⟨deadline, hmem, hle⟩ := Option.any_eq_true _ _ |>.1 hdeadline
      rw [operationScope, hclock] at hmem
      exact absurd (hbefore deadline hmem) (Nat.not_lt.2 (of_decide_eq_true hle))
    next => cases h

/-! ### Tasks keep to their scope -/

theorem cutShort?_eq_some_iff {ε α : Type} {told? : ε → Option Interruption}
    {result : Except ε α} :
    cutShort? told? result = some cause ↔
      ∃ error, result = .error error ∧ told? error = some cause := by
  cases result <;> simp [cutShort?]

theorem cutShort?_map {ε α β : Type} (told? : ε → Option Interruption) (f : α → β)
    (result : Except ε α) : cutShort? told? (result.map f) = cutShort? told? result := by
  cases result <;> rfl

/-- Errors said of a resource tell of the interruption that the faults behind them tell of. -/
theorem cutShort?_mapError {α : Type} (address : Address) (result : Except Endpoint.Fault α) :
    cutShort? Error.interruption?
        (result.mapError fun fault => (Error.ofFault fault).forResource address) =
      cutShort? Endpoint.Fault.interruption? result := by
  cases result with
  | error fault => exact interruption?_ofFault fault
  | ok value => rfl

/-- A task that is one piece of work keeps to the scope of its operation or asks nothing of the
service if the work does so and what is shown of its result hides no interruption. -/
theorem timely_or_local_of_run {α : Type} (hreplies : server.Replies) {task : Task}
    {address : Address} {work : Scope → StateM Server (Except Endpoint.Fault α)}
    {shown : Except Error α → Answer}
    (hrun : task.run provider = do
      let result ← provider.run address work
      return shown result)
    (hwork : Endpoint.KeepsOrRefused work)
    (hshown : ∀ result, cutShort? Error.interruption? (shown result) =
      cutShort? Error.interruption? result) :
    task.IsLocal provider ∨
      Timely (provider.operationScope server) server
        (cutShort? Error.interruption? (task.run provider server).1)
        (task.run provider server).2 := by
  rw [Task.IsLocal, hrun]
  cases hwork with
  | inl hkeeps =>
    have htimely := hkeeps (provider.operationScope server) _ server hreplies rfl
    refine .inr ⟨htimely.toLeads, (hshown _).trans ?_⟩
    exact (cutShort?_mapError address _).trans htimely.cause
  | inr hrefused =>
    obtain ⟨fault, hwork⟩ := hrefused
    refine .inl ⟨shown (.error ((Error.ofFault fault).forResource address)), ?_⟩
    funext state
    simp only [Provider.run, hwork]
    rfl

/-- What is shown of an import hides no interruption. -/
theorem cutShort?_bind_stateImported (address : Address) (identifier : String)
    (result : Except Error (Option Endpoint.Observed)) :
    cutShort? Error.interruption? (result.bind (Task.stateImported address identifier)) =
      cutShort? Error.interruption? result := by
  rcases result with error | observed | observed <;> rfl

/-- **A task keeps to the scope of its operation**, or it asks nothing of the service. -/
theorem timely_or_local (hclient : KeepsScopes provider.client) (hreplies : server.Replies)
    (task : Task) :
    task.IsLocal provider ∨
      Timely (provider.operationScope server) server
        (cutShort? Error.interruption? (task.run provider server).1)
        (task.run provider server).2 := by
  cases task with
  | read address identifier =>
    cases htype : resourceType address with
    | error error => exact .inl ⟨_, Task.run_read_of_error htype⟩
    | ok found =>
      cases identifier with
      | none => exact .inl ⟨_, Task.run_read_none htype⟩
      | some identifier =>
        exact timely_or_local_of_run hreplies (Task.run_read htype)
          (Endpoint.keepsOrRefused_read hclient identifier) (cutShort?_map _ _)
  | create resource =>
    cases hspec : specOf resource with
    | error error => exact .inl ⟨_, Task.run_create_of_error hspec⟩
    | ok spec =>
      exact timely_or_local_of_run hreplies (Task.run_create hspec)
        (Endpoint.keepsOrRefused_apply hclient spec _) (cutShort?_map _ _)
  | update address identifier before desired =>
    cases hspec : updateSpec address identifier before desired with
    | error error => exact .inl ⟨_, Task.run_update_of_error hspec⟩
    | ok spec =>
      exact timely_or_local_of_run hreplies (Task.run_update hspec)
        (Endpoint.keepsOrRefused_apply hclient spec .update) (cutShort?_map _ _)
  | delete address identifier =>
    cases htype : resourceType address with
    | error error => exact .inl ⟨_, Task.run_delete_of_error htype⟩
    | ok found =>
      exact timely_or_local_of_run hreplies (Task.run_delete htype)
        (Endpoint.keepsOrRefused_remove hclient identifier) (cutShort?_map _ _)
  | importExisting address identifier =>
    cases htype : resourceType address with
    | error error => exact .inl ⟨_, Task.run_importExisting_of_error htype⟩
    | ok found =>
      refine timely_or_local_of_run hreplies (Task.run_importExisting htype)
        (Endpoint.keepsOrRefused_read hclient identifier) fun result => ?_
      rw [cutShort?_map, cutShort?_bind_stateImported]

/-! ### Tasks keep to their time -/

/-- **Operations keep to their time.** Over a server that only replies, whatever asks for the
operation to be over: nothing is asked of the service then or later, and the operation does not go
on after it. An operation that is not answered without the service fails when one of the instants
has been reached in the end, the failure being that it was cancelled if the stop signal has been
given by then and that its deadline has passed otherwise; and it fails so in no other case. -/
theorem run_timely (client : Manager.Client) (settings : Settings) (scope : Scope) (task : Task)
    (clock : Clock) (token : Except String String) (replies : List Reply)
    (exchanges : List Exchange) :
    let provider : Provider Server := { client := client.network, settings, scope }
    let server : Server := { clock, token, turns := replies.map .reply, exchanges }
    let answer := (task.run provider server).1
    let after := (task.run provider server).2
    (∃ sent, after.exchanges = exchanges ++ sent ∧
      ∀ exchange ∈ sent, ∀ cause instant, Ends provider clock cause instant →
        exchange.instant < instant) ∧
    (∀ cause instant, Ends provider clock cause instant →
      after.clock.now ≤ max clock.now instant) ∧
    (task.IsLocal provider ∨
      ((∃ cause instant, Ends provider clock cause instant ∧ instant ≤ after.clock.now) →
        ∃ error, answer = .error error ∧
          error.cause.bind (·.source?) = some (.interrupted
            (if scope.isStopped after.clock then .cancelled else .deadlineExceeded))) ∧
      ∀ error cause, answer = .error error →
        error.cause.bind (·.source?) = some (.interrupted cause) →
        ∃ instant, Ends provider clock cause instant ∧ instant ≤ after.clock.now) := by
  intro provider server answer after
  have hclock : provider.client.clock = Server.clock := rfl
  have hreplies : server.Replies := ⟨replies, rfl⟩
  have hclient : KeepsScopes provider.client := client.keepsScopes_network
  cases timely_or_local hclient hreplies task with
  | inl hlocal =>
    obtain ⟨shown, hrun⟩ := hlocal
    have hafter : after = server := by
      show (task.run provider server).2 = server
      rw [hrun]
      rfl
    refine ⟨⟨[], ?_, List.forall_mem_nil _⟩, ?_, .inl ⟨shown, hrun⟩⟩
    · rw [hafter, List.append_nil]
    · intro cause instant hends
      rw [hafter]
      exact Nat.le_max_left ..
  | inr htimely =>
    have hlimited : ∀ cause instant, Ends provider server.clock cause instant →
        ∃ limit, (provider.operationScope server).limit? server.clock = some limit ∧
          limit ≤ instant :=
      fun cause instant hends => exists_limit_le_of_ends hclock hends
    refine ⟨?_, ?_, .inr ⟨?_, ?_⟩⟩
    · obtain ⟨sent, hsent, hearly⟩ := htimely.exchanges
      refine ⟨sent, hsent, fun exchange hmem cause instant hends => ?_⟩
      obtain ⟨limit, hlimit, hle⟩ := hlimited cause instant hends
      exact Nat.lt_of_lt_of_le (hearly exchange hmem limit hlimit) hle
    · intro cause instant hends
      obtain ⟨limit, hlimit, hle⟩ := hlimited cause instant hends
      have hnow := htimely.now_le_limit limit hlimit
      exact Nat.le_trans hnow (Nat.max_le.2
        ⟨Nat.le_max_left .., Nat.le_trans hle (Nat.le_max_right ..)⟩)
    · rintro ⟨cause, instant, hends, hreached⟩
      obtain ⟨limit, hlimit, hle⟩ := hlimited cause instant hends
      have hcause := htimely.cause
      rw [Scope.interruption?_of_limit_le
        ((Scope.limit?_congr _ htimely.stopAt).trans hlimit) (Nat.le_trans hle hreached),
        Scope.isStopped, operationScope, within_signalled] at hcause
      obtain ⟨error, hanswer, htold⟩ := cutShort?_eq_some_iff.1 hcause
      exact ⟨error, hanswer, interruption?_eq_some_iff.1 htold⟩
    · intro error cause hanswer hcause
      have htold : cutShort? Error.interruption? answer = some cause :=
        cutShort?_eq_some_iff.2 ⟨error, hanswer, interruption?_eq_some_iff.2 hcause⟩
      exact exists_ends_of_interruption? hclock htimely.stopAt (htimely.cause.symm.trans htold)

end PrivateLink.Provider
