import PrivateLink.Stop.Scope

/-!
# Stop scopes and time

Within one piece of work the stop signal is planned once and for all, so a scope has one limit: the
earlier of the stop signal and the deadline. Before the limit everything may start, from then on
nothing may, and no wait goes beyond it.

* `interruption?_eq_none_iff`: work may start exactly before the limit;
* `await_timely`: what a wait does to the clock, and when it is cut short;
* `await_earliest`: a wait ends with what comes first.
-/

namespace PrivateLink

/-- The clock after a wait of length `span` that nothing cuts short. -/
def Clock.slept (clock : Clock) (span : Millis) : Clock :=
  clock.reach (clock.wakeAfter span)

namespace Stop.Scope

/-! ### The limit of a scope -/

/-- The instant at which work that goes on for ever is ended. -/
def limit? (scope : Scope) (clock : Clock) : Option Millis :=
  (scope.end? clock).map (·.2)

/-- The end of a scope is a matter of the plan for the stop signal, not of the present instant. -/
theorem end?_congr (scope : Scope) {before after : Clock} (h : after.stopAt = before.stopAt) :
    scope.end? after = scope.end? before := by
  simp only [end?, stopInstant?, h]

theorem limit?_congr (scope : Scope) {before after : Clock} (h : after.stopAt = before.stopAt) :
    scope.limit? after = scope.limit? before := by
  rw [limit?, limit?, scope.end?_congr h]

/-- The limit is the earlier of the stop signal and the deadline. -/
theorem lt_limit?_iff (scope : Scope) (clock : Clock) (instant : Millis) :
    (∀ limit ∈ scope.limit? clock, instant < limit) ↔
      (∀ stop ∈ scope.stopInstant? clock, instant < stop) ∧
        ∀ deadline ∈ scope.deadline, instant < deadline := by
  unfold limit? end?
  cases scope.stopInstant? clock with
  | none => cases scope.deadline <;> simp
  | some stop =>
    cases scope.deadline with
    | none => simp
    | some deadline =>
      by_cases h : stop ≤ deadline
      · simp only [if_pos h, Option.map_some, Option.mem_some_iff, forall_eq']
        exact ⟨fun hlt => ⟨hlt, Nat.lt_of_lt_of_le hlt h⟩, And.left⟩
      · have hle : deadline ≤ stop := Nat.le_of_not_le h
        simp only [if_neg h, Option.map_some, Option.mem_some_iff, forall_eq']
        exact ⟨fun hlt => ⟨Nat.lt_of_lt_of_le hlt hle, hlt⟩, And.right⟩

theorem isStopped_eq_false_iff (scope : Scope) (clock : Clock) :
    scope.isStopped clock = false ↔ ∀ stop ∈ scope.stopInstant? clock, clock.now < stop := by
  unfold isStopped stopInstant? Clock.isStopped
  cases scope.signalled <;> cases clock.stopAt <;> simp

/-- Work may start exactly before the limit. -/
theorem interruption?_eq_none_iff (scope : Scope) (clock : Clock) :
    scope.interruption? clock = none ↔ ∀ limit ∈ scope.limit? clock, clock.now < limit := by
  rw [lt_limit?_iff, ← isStopped_eq_false_iff]
  unfold interruption?
  cases scope.isStopped clock <;> cases scope.deadline <;> simp

/-- A scope without an end lets everything start. -/
theorem interruption?_of_end?_eq_none {scope : Scope} {clock : Clock}
    (h : scope.end? clock = none) : scope.interruption? clock = none := by
  rw [interruption?_eq_none_iff, limit?, h]
  simp

/-- Once the limit is reached, what ends the work is the stop signal if it has been given. -/
theorem interruption?_of_limit_le {scope : Scope} {clock : Clock} {limit : Millis}
    (hlimit : scope.limit? clock = some limit) (hle : limit ≤ clock.now) :
    scope.interruption? clock =
      some (if scope.isStopped clock then .cancelled else .deadlineExceeded) := by
  have hsome : scope.interruption? clock ≠ none := by
    rw [Ne, interruption?_eq_none_iff, hlimit]
    simpa using hle
  cases hs : scope.isStopped clock with
  | true => simp [interruption?, hs]
  | false =>
    cases hd : scope.deadline.any (· ≤ clock.now) with
    | true => simp [interruption?, hs, hd]
    | false => exact absurd (by simp [interruption?, hs, hd]) hsome

/-! ### Waiting -/

/-- In a scope without an end a wait is over when it is meant to be. -/
theorem await_of_end?_eq_none {scope : Scope} {clock : Clock} (h : scope.end? clock = none)
    (finish : Millis) : scope.await clock finish = (.ok (), clock.reach finish) := by
  simp only [await, interruption?_of_end?_eq_none h, h]

theorem sleep_of_end?_eq_none {scope : Scope} {clock : Clock} (h : scope.end? clock = none)
    (span : Millis) : scope.sleep clock span = (.ok (), clock.slept span) :=
  await_of_end?_eq_none h _

/-- After such a wait the scope goes on. -/
theorem interruption?_slept {scope : Scope} {clock : Clock} (h : scope.end? clock = none)
    (span : Millis) : scope.interruption? (clock.slept span) = none :=
  interruption?_of_end?_eq_none ((scope.end?_congr rfl).trans h)

/-- What cuts a wait short is what the scope ends with at the end of a clock that has reached it. -/
theorem interruption?_reach_end {scope : Scope} {clock : Clock} {cause : Interruption}
    {instant : Millis} (hlive : scope.interruption? clock = none)
    (hend : scope.end? clock = some (cause, instant)) :
    scope.interruption? (clock.reach instant) = some cause := by
  have hlimit : scope.limit? clock = some instant := by rw [limit?, hend]; rfl
  have hlt : clock.now < instant := (interruption?_eq_none_iff ..).1 hlive instant hlimit
  have hnow : (clock.reach instant).now = instant := Nat.max_eq_right (Nat.le_of_lt hlt)
  have hstop : scope.stopInstant? (clock.reach instant) = scope.stopInstant? clock := rfl
  unfold end? at hend
  cases hs : scope.stopInstant? clock with
  | none =>
    have hfree : scope.isStopped (clock.reach instant) = false := by
      rw [isStopped_eq_false_iff, hstop, hs]
      simp
    cases hd : scope.deadline with
    | none => simp [hs, hd] at hend
    | some deadline =>
      simp only [hs, hd, Option.some.injEq, Prod.mk.injEq] at hend
      obtain ⟨rfl, rfl⟩ := hend
      simp [interruption?, hfree, hd, hnow]
  | some stop =>
    have hstopped : scope.isStopped (clock.reach instant) = decide (stop ≤ instant) := by
      rw [Bool.eq_iff_iff, ← Bool.not_eq_false, isStopped_eq_false_iff, hstop, hs, hnow]
      simp
    cases hd : scope.deadline with
    | none =>
      simp only [hs, hd, Option.some.injEq, Prod.mk.injEq] at hend
      obtain ⟨rfl, rfl⟩ := hend
      simp [interruption?, hstopped]
    | some deadline =>
      -- Of the two the earlier one counts, and the stop signal when they fall together.
      by_cases hle : stop ≤ deadline
      · simp only [hs, hd, if_pos hle, Option.some.injEq, Prod.mk.injEq] at hend
        obtain ⟨rfl, rfl⟩ := hend
        simp [interruption?, hstopped]
      · simp only [hs, hd, if_neg hle, Option.some.injEq, Prod.mk.injEq] at hend
        obtain ⟨rfl, rfl⟩ := hend
        simp [interruption?, hstopped, hle, hd, hnow]

/-- **What a wait does.** From a clock at which the scope is not over a wait keeps the plan for the
stop signal, goes forward, not beyond the limit, and what cuts it short is what the scope then ends
with. -/
theorem await_timely {scope : Scope} {clock : Clock} (hlive : scope.interruption? clock = none)
    (finish : Millis) :
    (scope.await clock finish).2.stopAt = clock.stopAt ∧
      clock.now ≤ (scope.await clock finish).2.now ∧
      (∀ limit ∈ scope.limit? clock, (scope.await clock finish).2.now ≤ limit) ∧
      ∀ cause, (scope.await clock finish).1 = .error cause →
        scope.interruption? (scope.await clock finish).2 = some cause := by
  have hbefore := (interruption?_eq_none_iff ..).1 hlive
  unfold await
  rw [hlive]
  cases hend : scope.end? clock with
  | none =>
    have hlimit : scope.limit? clock = none := by rw [limit?, hend]; rfl
    exact ⟨rfl, clock.now_le_reach finish, by simp [hlimit], by rintro _ ⟨⟩⟩
  | some found =>
    obtain ⟨cause, instant⟩ := found
    have hlimit : scope.limit? clock = some instant := by rw [limit?, hend]; rfl
    have hlt : clock.now < instant := hbefore instant hlimit
    simp only [hlimit, Option.mem_some_iff, forall_eq']
    split
    -- The clock stops at the limit when that comes first, and at the end of the wait otherwise.
    next hcut =>
      have hnow : (clock.reach instant).now ≤ instant :=
        Nat.max_le.2 ⟨Nat.le_of_lt hlt, Nat.le_refl _⟩
      refine ⟨rfl, clock.now_le_reach instant, hnow, ?_⟩
      rintro _ ⟨⟩
      exact interruption?_reach_end hlive hend
    next hover =>
      have hnow : (clock.reach finish).now ≤ instant :=
        Nat.max_le.2 ⟨Nat.le_of_lt hlt, Nat.le_of_not_lt hover⟩
      exact ⟨rfl, clock.now_le_reach finish, hnow, by rintro _ ⟨⟩⟩

/-- A wait changes nothing about the clock but that time passes. -/
theorem exists_await_eq (scope : Scope) (clock : Clock) (finish : Millis) :
    ∃ instant, clock.now ≤ instant ∧
      (scope.await clock finish).2 = { clock with now := instant } := by
  unfold await
  split
  · exact ⟨clock.now, Nat.le_refl _, rfl⟩
  · split
    · split
      · exact ⟨_, clock.now_le_reach _, rfl⟩
      · exact ⟨_, clock.now_le_reach _, rfl⟩
    · exact ⟨_, clock.now_le_reach _, rfl⟩

/-- How a wait that is meant to be over at `finish` may end, and when: by itself, with the stop
signal, or with the deadline. -/
inductive MayEnd (scope : Scope) (clock : Clock) (finish : Millis) :
    Except Interruption Unit → Millis → Prop
  | finished : MayEnd scope clock finish (.ok ()) finish
  | stop {instant : Millis} (hstop : instant ∈ scope.stopInstant? clock) :
      MayEnd scope clock finish (.error .cancelled) instant
  | deadline {instant : Millis} (hdeadline : instant ∈ scope.deadline) :
      MayEnd scope clock finish (.error .deadlineExceeded) instant

/-- What ends a wait comes neither before the wait is meant to be over nor before the limit of the
scope, whichever is first. -/
theorem MayEnd.ge {scope : Scope} {clock : Clock} {finish bound instant : Millis}
    {result : Except Interruption Unit} (h : scope.MayEnd clock finish result instant)
    (hfinish : bound ≤ finish) (hlimit : ∀ limit ∈ scope.limit? clock, bound ≤ limit) :
    bound ≤ instant := by
  refine Nat.le_of_not_lt fun hlt => ?_
  obtain ⟨hstops, hdeadlines⟩ := (scope.lt_limit?_iff clock instant).1 fun limit hmem =>
    Nat.lt_of_lt_of_le hlt (hlimit limit hmem)
  cases h with
  | finished => exact Nat.not_lt.2 hfinish hlt
  | stop hstop => exact Nat.lt_irrefl _ (hstops instant hstop)
  | deadline hdeadline => exact Nat.lt_irrefl _ (hdeadlines instant hdeadline)

/-- What the scope ends work with is the stop signal or the deadline. -/
theorem mayEnd_of_end?_eq_some {scope : Scope} {clock : Clock} {cause : Interruption}
    {instant : Millis} (h : scope.end? clock = some (cause, instant)) (finish : Millis) :
    scope.MayEnd clock finish (.error cause) instant := by
  unfold end? at h
  split at h
  next stop deadline hstop hdeadline =>
    split at h
    · cases h
      exact .stop hstop
    · cases h
      exact .deadline hdeadline
  next hstop _ =>
    cases h
    exact .stop hstop
  next hdeadline =>
    cases h
    exact .deadline hdeadline
  next => cases h

/-- So is what a scope is over by, and it has come. -/
theorem exists_mayEnd_of_interruption?_eq_some {scope : Scope} {clock : Clock}
    {cause : Interruption} (h : scope.interruption? clock = some cause) (finish : Millis) :
    ∃ instant, scope.MayEnd clock finish (.error cause) instant ∧ instant ≤ clock.now := by
  unfold interruption? at h
  split at h
  next hstopped =>
    cases h
    simp only [isStopped, Clock.isStopped, Bool.and_eq_true, Option.any_eq_true,
      decide_eq_true_eq] at hstopped
    obtain ⟨hsignalled, stop, hstop, hle⟩ := hstopped
    exact ⟨stop, .stop (by rw [stopInstant?, if_pos hsignalled, hstop]; rfl), hle⟩
  next =>
    split at h
    next hexpired =>
      cases h
      obtain ⟨deadline, hdeadline, hle⟩ := (Option.any_eq_true _ _).1 hexpired
      exact ⟨deadline, .deadline hdeadline, of_decide_eq_true hle⟩
    next => cases h

/-- **A wait ends with what comes first** of its own end, the stop signal and the deadline, but not
before it begins. -/
theorem await_earliest (scope : Scope) (clock : Clock) (finish : Millis) :
    (∃ instant, scope.MayEnd clock finish (scope.await clock finish).1 instant ∧
      (scope.await clock finish).2.now = max clock.now instant) ∧
    ∀ result instant, scope.MayEnd clock finish result instant →
      (scope.await clock finish).2.now ≤ max clock.now instant := by
  cases hover : scope.interruption? clock with
  | some cause =>
    obtain ⟨instant, hend, hle⟩ := exists_mayEnd_of_interruption?_eq_some hover finish
    simp only [await, hover]
    exact ⟨⟨instant, hend, (Nat.max_eq_left hle).symm⟩, fun _ _ _ => Nat.le_max_left ..⟩
  | none =>
    -- Until the limit the scope is not over, so nothing that may end the wait has come yet.
    have hearliest : ∀ bound, bound ≤ finish → (∀ limit ∈ scope.limit? clock, bound ≤ limit) →
        ∀ result instant, scope.MayEnd clock finish result instant →
          max clock.now bound ≤ max clock.now instant :=
      fun bound hbound hlimit result instant hend =>
        Nat.max_le.2 ⟨Nat.le_max_left .., Nat.le_trans (hend.ge hbound hlimit)
          (Nat.le_max_right ..)⟩
    cases hend : scope.end? clock with
    | none =>
      have hlimit : scope.limit? clock = none := by rw [limit?, hend]; rfl
      simp only [await, hover, hend]
      exact ⟨⟨finish, .finished, rfl⟩, hearliest finish (Nat.le_refl _) (by simp [hlimit])⟩
    | some found =>
      obtain ⟨cause, limit⟩ := found
      have hlimit : scope.limit? clock = some limit := by rw [limit?, hend]; rfl
      simp only [await, hover, hend]
      split
      next hcut =>
        exact ⟨⟨limit, mayEnd_of_end?_eq_some hend finish, rfl⟩,
          hearliest limit (Nat.le_of_lt hcut) (by simp [hlimit])⟩
      next hover =>
        exact ⟨⟨finish, .finished, rfl⟩,
          hearliest finish (Nat.le_refl _) (by simpa [hlimit] using hover)⟩

end Stop.Scope

end PrivateLink
