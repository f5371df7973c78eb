import PrivateLink.Proofs.Stop.Timeline

/-!
# The course of a timeline

A sleep in a scope ends by itself, with the stop signal or with the deadline, whichever comes first,
and takes the timeline where events take it. So a scope is worth what the events say, however events
and sleeps follow each other.

* `Follows.sleep_earliest`: a sleep ends with what comes first;
* `Follows.exists_applyAll_eq_sleep`: a sleep amounts to events;
* `applyAll_course`: what a scope is worth after a sequence of events.
-/

namespace PrivateLink.Stop

open History

/-! ### Sleeping -/

/-- How a sleep in the scope at the place may end, and when. The signal may be planned some time
ahead of its beginning, if the handle is held. A span whose end is not representable lasts thirty
years. -/
inductive History.SleepMayEnd (events : History) (place : Nat) (span : Millis)
    (ahead : Option Millis) : Except Interruption Unit → Millis → Prop
  | awake (hlimit : events.elapsed + span < Clock.limit) :
      SleepMayEnd events place span ahead (.ok ()) (events.elapsed + span)
  | awakeAtLast (hlimit : Clock.limit ≤ events.elapsed + span) :
      SleepMayEnd events place span ahead (.ok ()) (events.elapsed + Clock.farFuture)
  | stopped (hsignalled : events.Signalled) :
      SleepMayEnd events place span ahead (.error .cancelled) events.elapsed
  | stop {wait : Millis} (hahead : ahead = some wait) (hheld : .dropHandle ∉ events) :
      SleepMayEnd events place span ahead (.error .cancelled) (events.elapsed + wait)
  | deadline {instant : Millis} (hcandidate : events.Candidate place instant) :
      SleepMayEnd events place span ahead (.error .deadlineExceeded) instant

/-- A sleep in a scope of the timeline, with the stop signal planned some time ahead. -/
def Timeline.slept (timeline : Timeline) (scope : Scope) (span : Millis) (ahead : Option Millis) :
    Except Interruption Unit × Clock :=
  Timeline.withPlannedStop timeline.handle timeline.clock ahead fun clock => scope.sleep clock span

/-- The clock with the stop signal planned some time ahead, if the handle is held. -/
def Timeline.planned (handle : Bool) (clock : Clock) : Option Millis → Clock
  | some wait => if handle then clock.stopAtInstant (clock.now + wait) else clock
  | none => clock

/-- A clock on which nothing is planned for later has no plan to forget. -/
theorem forgetPlan_of_past {clock : Clock} (h : ∀ given ∈ clock.stopAt, given ≤ clock.now) :
    clock.forgetPlan = clock := by
  obtain ⟨now, stopAt⟩ := clock
  match stopAt with
  | none => rfl
  | some given =>
    have hkept : (some given).filter (fun instant => decide (instant ≤ now)) = some given :=
      Option.filter_some_pos (decide_eq_true (h given rfl))
    exact congrArg (Clock.mk now) hkept

namespace Timeline

variable {α : Type} {handle : Bool} {clock : Clock} {ahead : Option Millis}

theorem now_planned : (planned handle clock ahead).now = clock.now := by
  unfold planned
  split
  · split <;> rfl
  · rfl

theorem withPlannedStop_fst (work : Clock → α × Clock) :
    (withPlannedStop handle clock ahead work).1 = (work (planned handle clock ahead)).1 := by
  cases ahead <;> rfl

/-- What is left of the plan at the end is forgotten. -/
theorem withPlannedStop_snd (h : ∀ given ∈ clock.stopAt, given ≤ clock.now)
    {work : Clock → α × Clock} {instant : Millis} (hle : clock.now ≤ instant)
    (hwork : (work (planned handle clock ahead)).2 =
      ⟨instant, (planned handle clock ahead).stopAt⟩) :
    (withPlannedStop handle clock ahead work).2 =
      (Clock.mk instant (planned handle clock ahead).stopAt).forgetPlan := by
  match ahead with
  | some _ => exact congrArg Clock.forgetPlan hwork
  | none =>
    have hpast : ∀ given ∈ clock.stopAt, given ≤ instant :=
      fun given hgiven => Nat.le_trans (h given hgiven) hle
    exact hwork.trans (forgetPlan_of_past hpast).symm

theorem now_withPlannedStop (work : Clock → α × Clock) :
    (withPlannedStop handle clock ahead work).2.now =
      (work (planned handle clock ahead)).2.now := by
  cases ahead <;> rfl

end Timeline

namespace Clocked

variable {events : History} {clock : Clock} {handle : Bool} {ahead : Option Millis}

/-- What is given stays given, whatever is planned. -/
theorem planned_of_some (h : Clocked events clock handle) {given : Millis}
    (hgiven : clock.stopAt = some given) (ahead : Option Millis) :
    Timeline.planned handle clock ahead = clock := by
  have hpast : given ≤ clock.now := h.past given hgiven
  have hkept : ∀ wait, clock.stopAtInstant (clock.now + wait) = clock := by
    intro wait
    have hmin : min (clock.now + wait) given = given :=
      Nat.min_eq_right (Nat.le_add_right_of_le hpast)
    rw [Clock.stopAtInstant, hgiven, Option.elim_some, hmin, ← hgiven]
  unfold Timeline.planned
  split
  · rw [hkept, ite_self]
  · rfl

/-- Without a signal that is given, the signal is given as planned. -/
theorem stopAt_planned_of_none (h : Clocked events clock handle) (hnone : clock.stopAt = none)
    {instant : Millis} :
    (Timeline.planned handle clock ahead).stopAt = some instant ↔
      ∃ wait, ahead = some wait ∧ .dropHandle ∉ events ∧ instant = clock.now + wait := by
  unfold Timeline.planned
  split
  next wait =>
    by_cases hhandle : handle = true
    · simp [hhandle, Clock.stopAtInstant, hnone, h.handle.1 hhandle, eq_comm]
    · have hdropped : .dropHandle ∈ events := by simpa [hhandle] using h.handle
      simp [hhandle, hnone, hdropped]
  next => simp [hnone]

/-- A plan makes a difference only if no signal has been given. -/
theorem stopAt_planned_cases (h : Clocked events clock handle) (ahead : Option Millis) :
    (Timeline.planned handle clock ahead).stopAt = clock.stopAt ∨
      clock.stopAt = none ∧ ∃ wait, .dropHandle ∉ events ∧
        (Timeline.planned handle clock ahead).stopAt = some (clock.now + wait) := by
  match hgiven : clock.stopAt, hplanned : (Timeline.planned handle clock ahead).stopAt with
  | some given, planned =>
    rw [h.planned_of_some hgiven, hgiven] at hplanned
    exact .inl hplanned.symm
  | none, none => exact .inl rfl
  | none, some stop =>
    obtain ⟨wait, -, hheld, rfl⟩ := (h.stopAt_planned_of_none hgiven).1 hplanned
    exact .inr ⟨rfl, wait, hheld, rfl⟩

/-- The instant of the signal on a clock with a plan. -/
theorem mem_stopAt_planned_iff (h : Clocked events clock handle) {stop : Millis} :
    stop ∈ (Timeline.planned handle clock ahead).stopAt ↔
      stop ∈ clock.stopAt ∨ clock.stopAt = none ∧
        ∃ wait, ahead = some wait ∧ .dropHandle ∉ events ∧ stop = clock.now + wait := by
  match hgiven : clock.stopAt with
  | some given => simp [h.planned_of_some hgiven, hgiven]
  | none => simpa using h.stopAt_planned_of_none hgiven

/-- What is planned for later makes no difference to what is over now. -/
theorem isStopped_planned (h : Clocked events clock handle) (hahead : ∀ wait ∈ ahead, 0 < wait) :
    (Timeline.planned handle clock ahead).isStopped = clock.isStopped := by
  match hgiven : clock.stopAt with
  | some given => rw [h.planned_of_some hgiven]
  | none =>
    have hlater : (Timeline.planned handle clock ahead).isStopped = false := by
      rw [Bool.eq_false_iff]
      intro hstopped
      obtain ⟨instant, hmem, hle⟩ := (Option.any_eq_true _ _).1 hstopped
      obtain ⟨wait, hwait, -, rfl⟩ := (h.stopAt_planned_of_none hgiven).1 hmem
      rw [Timeline.now_planned] at hle
      exact Nat.not_le.2 (Nat.lt_add_of_pos_right (hahead wait hwait)) (of_decide_eq_true hle)
    rw [hlater, Clock.isStopped, hgiven]
    rfl

end Clocked

namespace Follows

variable {events : History} {timeline : Timeline} {place : Nat} {scope : Scope} {span : Millis}
  {ahead : Option Millis}

theorem stopInstant?_planned (h : Follows events timeline)
    (hscope : timeline.scopes[place]? = some scope) :
    scope.stopInstant? (Timeline.planned timeline.handle timeline.clock ahead) =
      (Timeline.planned timeline.handle timeline.clock ahead).stopAt := by
  rw [Scope.stopInstant?, if_pos (h.scopes.signalled scope (List.mem_of_getElem? hscope))]

/-- What may end a sleep of a scope is what the events say, or what has passed when it begins. -/
theorem exists_sleepMayEnd (h : Follows events timeline)
    (hscope : timeline.scopes[place]? = some scope) {result : Except Interruption Unit}
    {instant : Millis}
    (hend : scope.MayEnd (Timeline.planned timeline.handle timeline.clock ahead)
      (timeline.clock.wakeAfter span) result instant) :
    ∃ other, events.SleepMayEnd place span ahead result other ∧
      max events.elapsed instant = max events.elapsed other := by
  have hnow := h.time.now
  cases hend with
  | finished =>
    unfold Clock.wakeAfter Clock.after?
    by_cases hlimit : timeline.clock.now + span < Clock.limit
    · rw [if_pos hlimit, Option.getD_some, hnow]
      exact ⟨_, .awake (hnow ▸ hlimit), rfl⟩
    · rw [if_neg hlimit, Option.getD_none, hnow]
      exact ⟨_, .awakeAtLast (hnow ▸ Nat.le_of_not_lt hlimit), rfl⟩
  | stop hstop =>
    rw [h.stopInstant?_planned hscope, h.time.mem_stopAt_planned_iff] at hstop
    obtain hgiven | ⟨-, wait, hahead, hheld, rfl⟩ := hstop
    · have hsignalled : events.Signalled :=
        h.time.given.1 (Option.isSome_iff_exists.2 ⟨instant, hgiven⟩)
      have hle : instant ≤ events.elapsed := hnow ▸ h.time.past instant hgiven
      exact ⟨_, .stopped hsignalled, by rw [Nat.max_eq_left hle, Nat.max_self]⟩
    · rw [hnow]
      exact ⟨_, .stop hahead hheld, rfl⟩
  | deadline hdeadline =>
    exact ⟨_, .deadline ((h.scopes.deadline place scope hscope).mem hdeadline), rfl⟩

/-- What the events say may end a sleep, unless something else that may end it comes before. -/
theorem exists_mayEnd (h : Follows events timeline)
    (hscope : timeline.scopes[place]? = some scope) {result : Except Interruption Unit}
    {instant : Millis} (hend : events.SleepMayEnd place span ahead result instant) :
    ∃ cause other, scope.MayEnd (Timeline.planned timeline.handle timeline.clock ahead)
        (timeline.clock.wakeAfter span) cause other ∧
      max events.elapsed other ≤ max events.elapsed instant := by
  have hnow := h.time.now
  have hstopAt : ∀ given ∈ timeline.clock.stopAt, scope.MayEnd
      (Timeline.planned timeline.handle timeline.clock ahead) (timeline.clock.wakeAfter span)
        (.error .cancelled) given ∧ max events.elapsed given = events.elapsed := by
    intro given hgiven
    refine ⟨.stop ?_, Nat.max_eq_left (hnow ▸ h.time.past given hgiven)⟩
    rw [h.stopInstant?_planned hscope, h.time.mem_stopAt_planned_iff]
    exact .inl hgiven
  have hwake : ∀ finish, timeline.clock.wakeAfter span = finish → scope.MayEnd
      (Timeline.planned timeline.handle timeline.clock ahead) (timeline.clock.wakeAfter span)
        (.ok ()) finish := by
    rintro finish rfl
    exact .finished
  cases hend with
  | awake hlimit =>
    refine ⟨_, _, hwake _ ?_, Nat.le_refl _⟩
    rw [Clock.wakeAfter, Clock.after?, hnow, if_pos hlimit]
    rfl
  | awakeAtLast hlimit =>
    refine ⟨_, _, hwake _ ?_, Nat.le_refl _⟩
    rw [Clock.wakeAfter, Clock.after?, hnow, if_neg (Nat.not_lt.2 hlimit)]
    rfl
  | stopped hsignalled =>
    obtain ⟨given, hgiven⟩ := Option.isSome_iff_exists.1 (h.time.given.2 hsignalled)
    obtain ⟨hend, hmax⟩ := hstopAt given hgiven
    exact ⟨_, given, hend, by rw [hmax]; exact Nat.le_max_left ..⟩
  | stop hahead hheld =>
    match hgiven : timeline.clock.stopAt with
    | some given =>
      obtain ⟨hend, hmax⟩ := hstopAt given hgiven
      exact ⟨_, given, hend, by rw [hmax]; exact Nat.le_max_left ..⟩
    | none =>
      refine ⟨.error .cancelled, _, .stop ?_, Nat.le_refl _⟩
      rw [h.stopInstant?_planned hscope, h.time.mem_stopAt_planned_iff, hnow]
      exact .inr ⟨hgiven, _, hahead, hheld, rfl⟩
  | deadline hcandidate =>
    obtain ⟨first, hfirst, hle⟩ :=
      (h.scopes.deadline place scope hscope).exists_le hcandidate
    exact ⟨_, first, .deadline hfirst,
      Nat.max_le.2 ⟨Nat.le_max_left .., Nat.le_trans hle (Nat.le_max_right ..)⟩⟩

/-- **A sleep ends with what comes first**, but not before it begins. -/
theorem sleep_earliest (h : Follows events timeline)
    (hscope : timeline.scopes[place]? = some scope) (span : Millis) (ahead : Option Millis) :
    let slept := timeline.slept scope span ahead
    (∃ instant, events.SleepMayEnd place span ahead slept.1 instant ∧
      slept.2.now = max events.elapsed instant) ∧
    ∀ result instant, events.SleepMayEnd place span ahead result instant →
      slept.2.now ≤ max events.elapsed instant := by
  intro slept
  let planned := Timeline.planned timeline.handle timeline.clock ahead
  have hnow : planned.now = events.elapsed := Timeline.now_planned.trans h.time.now
  have hwake : planned.wakeAfter span = timeline.clock.wakeAfter span := by
    rw [Clock.wakeAfter, Clock.after?, Clock.wakeAfter, Clock.after?, Timeline.now_planned]
  have hresult : slept.1 = (scope.sleep planned span).1 := Timeline.withPlannedStop_fst _
  have hended : slept.2.now = (scope.sleep planned span).2.now := Timeline.now_withPlannedStop _
  obtain ⟨⟨instant, hend, hinstant⟩, hfirst⟩ :=
    scope.await_earliest planned (planned.wakeAfter span)
  rw [hwake] at hend hinstant hfirst
  rw [hnow] at hinstant hfirst
  rw [hresult, hended, Scope.sleep, hwake]
  constructor
  · obtain ⟨other, hother, hmax⟩ := h.exists_sleepMayEnd hscope hend
    exact ⟨other, hother, hinstant.trans hmax⟩
  · intro result instant hmay
    obtain ⟨cause, other, hother, hle⟩ := h.exists_mayEnd hscope hmay
    exact Nat.le_trans (hfirst cause other hother) hle

/-- In a scope that is over a sleep does not begin. -/
theorem sleep_of_over (h : Follows events timeline)
    (hscope : timeline.scopes[place]? = some scope) {cause : Interruption}
    (hover : events.Over place cause) (hahead : ∀ wait ∈ ahead, 0 < wait) (span : Millis) :
    let slept := timeline.slept scope span ahead
    slept.1 = .error cause ∧ slept.2.now = events.elapsed := by
  intro slept
  let planned := Timeline.planned timeline.handle timeline.clock ahead
  have hnow : planned.now = timeline.clock.now := Timeline.now_planned
  have hstopped : scope.isStopped planned = scope.isStopped timeline.clock := by
    rw [Scope.isStopped, Scope.isStopped, h.time.isStopped_planned hahead]
  have hcause : scope.interruption? planned = some cause := by
    rw [← (h.interruption?_eq_some_iff hscope cause).2 hover]
    simp only [Scope.interruption?, hstopped, hnow]
  have hslept : scope.sleep planned span = (.error cause, planned) := by
    simp only [Scope.sleep, Scope.await, hcause]
  refine ⟨?_, ?_⟩
  · exact (Timeline.withPlannedStop_fst _).trans (congrArg Prod.fst hslept)
  · rw [← h.time.now, ← hnow]
    exact (Timeline.now_withPlannedStop _).trans (congrArg (·.2.now) hslept)

/-- A sleep takes a timeline where events take it: time passes, and the signal is given if the sleep
lasts until then. -/
theorem exists_applyAll_eq_sleep (h : Follows events timeline)
    (hscope : timeline.scopes[place]? = some scope) (span : Millis) (ahead : Option Millis) :
    ∃ passed : History,
      { timeline with clock := (timeline.slept scope span ahead).2 } =
        timeline.applyAll passed := by
  obtain ⟨instant, hle, hslept⟩ := scope.exists_await_eq
    (Timeline.planned timeline.handle timeline.clock ahead)
    ((Timeline.planned timeline.handle timeline.clock ahead).wakeAfter span)
  have hfirst := (scope.await_earliest
    (Timeline.planned timeline.handle timeline.clock ahead)
    ((Timeline.planned timeline.handle timeline.clock ahead).wakeAfter span)).2
  rw [hslept, Timeline.now_planned] at hfirst
  rw [Timeline.now_planned] at hle
  rw [Timeline.slept, Timeline.withPlannedStop_snd h.time.past hle hslept]
  have hspan : timeline.clock.now + (instant - timeline.clock.now) = instant :=
    Nat.add_sub_of_le hle
  -- If the signal is not given meanwhile, nothing but time passes.
  have hpass (hkept : (Clock.mk instant (Timeline.planned timeline.handle timeline.clock
      ahead).stopAt).forgetPlan = ⟨instant, timeline.clock.stopAt⟩) :
      { timeline with clock := (Clock.mk instant (Timeline.planned timeline.handle timeline.clock
          ahead).stopAt).forgetPlan } =
        timeline.applyAll [.pass (instant - timeline.clock.now)] := by
    change _ = { timeline with clock := timeline.clock.advance (instant - timeline.clock.now) }
    rw [hkept, Clock.advance, hspan]
  obtain hsame | ⟨hnone, wait, hheld, hstop⟩ := h.time.stopAt_planned_cases ahead
  · have hpast : ∀ given ∈ timeline.clock.stopAt, given ≤ instant :=
      fun given hgiven => Nat.le_trans (h.time.past given hgiven) hle
    exact ⟨_, hpass (by rw [hsame]; exact forgetPlan_of_past hpast)⟩
  · by_cases hgiven : timeline.clock.now + wait ≤ instant
    · have hend : instant ≤ max timeline.clock.now (timeline.clock.now + wait) :=
        hfirst _ _ (.stop ((h.stopInstant?_planned hscope).trans hstop))
      have hmax : max timeline.clock.now (timeline.clock.now + wait) = timeline.clock.now + wait :=
        Nat.max_eq_right (Nat.le_add_right ..)
      obtain rfl : instant = timeline.clock.now + wait := Nat.le_antisymm (hmax ▸ hend) hgiven
      refine ⟨[.pass wait, .stop], ?_⟩
      have hstopped : timeline.applyAll [.pass wait, .stop] =
          { timeline with clock := (timeline.clock.advance wait).stop } :=
        if_pos (h.time.handle.2 hheld)
      have hclock : (timeline.clock.advance wait).stop =
          ⟨timeline.clock.now + wait, some (timeline.clock.now + wait)⟩ := by
        rw [Clock.stop, Clock.stopAtInstant, Clock.advance, hnone]
        rfl
      rw [hstopped, hclock, hstop, forgetPlan_of_past]
      rintro given ⟨⟩
      exact Nat.le_refl _
    · refine ⟨_, hpass ?_⟩
      rw [hstop, hnone, Clock.forgetPlan, Option.filter_some_neg (by simpa using hgiven)]

end Follows

/-! ### The course of a timeline -/

/-- What the scope at the place is worth after the events, on the timeline that they led to. -/
structure Worth (events : History) (place : Nat) (timeline : Timeline) (scope : Scope) : Prop where
  /-- The first deadline of those that were given is the one that counts. -/
  deadline : Earliest {instant | events.Candidate place instant} scope.deadline
  /-- Every scope is stopped by the signal. -/
  isStopped_iff : scope.isStopped timeline.clock = true ↔ events.Signalled
  /-- Work is not begun in a scope that is over. -/
  run_of_over : ∀ {σ α : Type} (clock : σ → Clock) (work : σ → α × σ) (state : σ),
    clock state = timeline.clock → ∀ cause, events.Over place cause →
      scope.run clock work state = (.error cause, state)
  /-- Work in any other scope has its own result. -/
  run_of_live : ∀ {σ α : Type} (clock : σ → Clock) (work : σ → α × σ) (state : σ),
    clock state = timeline.clock → (∀ cause, ¬ events.Over place cause) →
      scope.run clock work state = (.ok (work state).1, (work state).2)
  /-- A sleep ends with what comes first, but not before it begins. -/
  sleep_earliest : ∀ span ahead,
    let slept := timeline.slept scope span ahead
    (∃ instant, events.SleepMayEnd place span ahead slept.1 instant ∧
      slept.2.now = max events.elapsed instant) ∧
    ∀ result instant, events.SleepMayEnd place span ahead result instant →
      slept.2.now ≤ max events.elapsed instant
  /-- A sleep is not begun in a scope that is over. -/
  sleep_of_over : ∀ span ahead, (∀ wait ∈ ahead, 0 < wait) → ∀ cause, events.Over place cause →
    let slept := timeline.slept scope span ahead
    slept.1 = .error cause ∧ slept.2.now = events.elapsed
  /-- A sleep leads where events lead. -/
  sleep_passes : ∀ span ahead, ∃ passed : History,
    { timeline with clock := (timeline.slept scope span ahead).2 } = timeline.applyAll passed

/-- A timeline that keeps to its history has scopes that are worth what the history says. -/
theorem Follows.worth {events : History} {timeline : Timeline} {place : Nat} {scope : Scope}
    (h : Follows events timeline) (hscope : timeline.scopes[place]? = some scope) :
    Worth events place timeline scope where
  deadline := h.scopes.deadline place scope hscope
  isStopped_iff := h.isStopped_iff hscope
  run_of_over := by
    intro σ α clock work state hclock cause hover
    rw [Scope.run, hclock, (h.interruption?_eq_some_iff hscope cause).2 hover]
  run_of_live := by
    intro σ α clock work state hclock hlive
    rw [Scope.run, hclock, (h.interruption?_eq_none_iff hscope).2 hlive]
  sleep_earliest := h.sleep_earliest hscope
  sleep_of_over := fun span _ hahead _ hover => h.sleep_of_over hscope hover hahead span
  sleep_passes := h.exists_applyAll_eq_sleep hscope

/-- **Scopes over time.** After any sequence of events, each scope has the earliest of the deadlines
that were given to it or to a scope that it is a copy of, all scopes are stopped together, and work
and sleeps end as the events say. Whatever happens then, the deadline of the scope does not move
away and the scope does not come back once it is stopped. -/
theorem applyAll_course (events : History) (place : Nat) (hplace : place < events.count) :
    let timeline := Timeline.cancellable.applyAll events
    timeline.scopes.length = events.count ∧
    ∃ scope, timeline.scopes[place]? = some scope ∧ Worth events place timeline scope ∧
      ∀ more : History, ∃ later, (timeline.applyAll more).scopes[place]? = some later ∧
        Worth (events ++ more) place (timeline.applyAll more) later ∧
        (∀ deadline ∈ scope.deadline, ∃ sooner ∈ later.deadline, sooner ≤ deadline) ∧
        (scope.isStopped timeline.clock = true →
          later.isStopped (timeline.applyAll more).clock = true) := by
  intro timeline
  have h : Follows events timeline := follows_applyAll events
  obtain ⟨scope, hscope⟩ : ∃ scope, timeline.scopes[place]? = some scope :=
    ⟨_, List.getElem?_eq_getElem (h.scopes.count ▸ hplace)⟩
  refine ⟨h.scopes.count, scope, hscope, h.worth hscope, fun more => ?_⟩
  have hmore := h.applyAll more
  have hstill : place < (timeline.applyAll more).scopes.length := by
    rw [hmore.scopes.count]
    exact Nat.lt_of_lt_of_le hplace (count_le_count_append_more events more)
  have hlater : (timeline.applyAll more).scopes[place]? = some _ := List.getElem?_eq_getElem hstill
  refine ⟨_, hlater, hmore.worth hlater, ?_, ?_⟩
  · intro deadline hdeadline
    have hcandidate : events.Candidate place deadline :=
      (h.scopes.deadline place scope hscope).mem hdeadline
    exact (hmore.scopes.deadline place _ hlater).exists_le (hcandidate.append more)
  · intro hstopped
    exact (hmore.isStopped_iff hlater).2 (((h.isStopped_iff hscope).1 hstopped).append more)

/-- The deadline of a copy is that of its model until it is given an earlier one. -/
theorem applyAll_course_copy :
    let events : History := [.limit 0 100, .copy 0, .pass 10, .limit 1 50, .stop]
    1 < events.count ∧ ∃ scope, (Timeline.cancellable.applyAll events).scopes[1]? = some scope ∧
      scope.deadline = some 60 ∧
      scope.isStopped (Timeline.cancellable.applyAll events).clock = true := by
  intro events
  have hplace : 1 < events.count := by decide
  obtain ⟨-, scope, hscope, hworth, -⟩ := applyAll_course events 1 hplace
  obtain rfl : ({ signalled := true, deadline := some 60 } : Scope) = scope :=
    Option.some.inj (hscope ▸ rfl)
  have hsignalled : events.Signalled :=
    ⟨[.limit 0 100, .copy 0, .pass 10, .limit 1 50], [], rfl, by decide⟩
  exact ⟨hplace, _, hscope, rfl, hworth.isStopped_iff.2 hsignalled⟩

end PrivateLink.Stop
