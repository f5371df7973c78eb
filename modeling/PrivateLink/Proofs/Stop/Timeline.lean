import Mathlib.Data.List.Induction
import Mathlib.Order.Bounds.Basic
import PrivateLink.Proofs.Stop.Scope
import PrivateLink.Stop.Timeline

/-!
# Timelines and what happened on them

What may still be done in a scope is told by the events that led to it (`History`): the deadline of
a scope is the earliest of all that it has been given, or that a scope which it is a copy of had
been given by then, and the scopes of a timeline are stopped together, when the signal is given
while the handle is held. A timeline that begins with one scope keeps to this, event by event
(`Follows`).

* `Follows.apply`, `follows_applyAll`: timelines keep to what happened on them;
* `Follows.interruption?_eq_some_iff`: what a scope is over by.
-/

namespace PrivateLink.Stop

/-! ### Histories -/

/-- The time that an event takes. -/
def Event.span : Event → Millis
  | .pass span => span
  | _ => 0

/-- How many scopes there are after the event: only a scope that is there can be copied. -/
def Event.countAfter (count : Nat) : Event → Nat
  | .copy place => if place < count then count + 1 else count
  | _ => count

/-- What has happened to one scope and its copies, the first event first. -/
abbrev History := List Event

namespace History

/-- The instant at which the events are over. -/
def elapsed (events : History) : Millis :=
  events.foldl (fun now event => now + event.span) 0

/-- The number of scopes after the events. -/
def count (events : History) : Nat :=
  events.foldl Event.countAfter 1

/-- The stop signal was given before the handle was dropped. -/
def Signalled (events : History) : Prop :=
  ∃ before after, events = before ++ .stop :: after ∧ .dropHandle ∉ before

/-- The scope at the place was given this deadline, itself or as a copy of a scope that had it. -/
inductive Candidate : History → Nat → Millis → Prop
  | limit {events : History} {place : Nat} {span : Millis} (hplace : place < events.count)
      (hlimit : events.elapsed + span < Clock.limit) :
      Candidate (events ++ [.limit place span]) place (events.elapsed + span)
  | copy {events : History} {model : Nat} {instant : Millis}
      (hmodel : Candidate events model instant) :
      Candidate (events ++ [.copy model]) events.count instant
  | kept {events : History} {place : Nat} {instant : Millis} (event : Event)
      (hplace : Candidate events place instant) : Candidate (events ++ [event]) place instant

variable {events : History} {event : Event} {place : Nat} {instant : Millis}

theorem elapsed_append (events : History) (event : Event) :
    elapsed (events ++ [event]) = events.elapsed + event.span := by
  simp [elapsed]

theorem count_append (events : History) (event : Event) :
    count (events ++ [event]) = event.countAfter events.count := by
  simp [count]

theorem count_le_count_append (events : History) (event : Event) :
    events.count ≤ count (events ++ [event]) := by
  rw [count_append]
  unfold Event.countAfter
  split
  · split <;> omega
  · exact Nat.le_refl _

theorem signalled_append_iff :
    Signalled (events ++ [event]) ↔
      events.Signalled ∨ event = .stop ∧ .dropHandle ∉ events := by
  constructor
  · rintro ⟨before, after, heq, hheld⟩
    obtain rfl | ⟨rest, last, rfl⟩ := List.eq_nil_or_concat after
    · obtain ⟨rfl, hlast⟩ := List.append_inj' heq rfl
      exact .inr ⟨List.singleton_inj.1 hlast, hheld⟩
    · have heq' : events ++ [event] = (before ++ .stop :: rest) ++ [last] := by simpa using heq
      exact .inl ⟨before, rest, (List.append_inj' heq' rfl).1, hheld⟩
  · rintro (⟨before, after, rfl, hheld⟩ | ⟨rfl, hheld⟩)
    · exact ⟨before, after ++ [event], by simp, hheld⟩
    · exact ⟨events, [], rfl, hheld⟩

theorem not_candidate_nil : ¬ Candidate [] place instant := by
  intro h
  generalize hnil : ([] : History) = events at h
  cases h <;> exact absurd hnil.symm (List.append_ne_nil_of_right_ne_nil _ (List.cons_ne_nil _ _))

theorem candidate_append_iff :
    Candidate (events ++ [event]) place instant ↔
      events.Candidate place instant ∨
      (∃ span, event = .limit place span ∧ place < events.count ∧
        events.elapsed + span < Clock.limit ∧ instant = events.elapsed + span) ∨
      ∃ model, event = .copy model ∧ place = events.count ∧ events.Candidate model instant := by
  constructor
  · intro h
    generalize hall : events ++ [event] = all at h
    cases h with
    | limit hplace hlimit =>
      obtain ⟨rfl, hlast⟩ := List.append_inj' hall rfl
      exact .inr (.inl ⟨_, List.singleton_inj.1 hlast, hplace, hlimit, rfl⟩)
    | copy hmodel =>
      obtain ⟨rfl, hlast⟩ := List.append_inj' hall rfl
      exact .inr (.inr ⟨_, List.singleton_inj.1 hlast, rfl, hmodel⟩)
    | kept last hplace =>
      obtain ⟨rfl, -⟩ := List.append_inj' hall rfl
      exact .inl hplace
  · rintro (h | ⟨span, rfl, hplace, hlimit, rfl⟩ | ⟨model, rfl, rfl, hmodel⟩)
    · exact .kept event h
    · exact .limit hplace hlimit
    · exact .copy hmodel

/-- Only scopes that are there are given deadlines. -/
theorem Candidate.lt_count (h : events.Candidate place instant) : place < events.count := by
  induction h with
  | limit hplace hlimit => exact Nat.lt_of_lt_of_le hplace (count_le_count_append _ _)
  | copy hmodel ih => rw [count_append, Event.countAfter, if_pos ih]; exact Nat.lt_succ_self _
  | kept event hplace ih => exact Nat.lt_of_lt_of_le ih (count_le_count_append _ _)

/-- A deadline that was given stays one of those that count. -/
theorem Candidate.append (h : events.Candidate place instant) (more : History) :
    Candidate (events ++ more) place instant := by
  induction more generalizing events with
  | nil => rwa [List.append_nil]
  | cons event more ih =>
    rw [List.append_cons]
    exact ih (.kept event h)

theorem Signalled.append (h : events.Signalled) (more : History) :
    Signalled (events ++ more) := by
  obtain ⟨before, after, rfl, hheld⟩ := h
  exact ⟨before, after ++ more, by simp, hheld⟩

theorem count_le_count_append_more (events more : History) :
    events.count ≤ count (events ++ more) := by
  induction more generalizing events with
  | nil => rw [List.append_nil]
  | cons event more ih =>
    rw [List.append_cons]
    exact Nat.le_trans (events.count_le_count_append event) (ih _)

end History

/-! ### The earliest of several instants -/

/-- There is a deadline exactly if there are instants, and it is the first of them. -/
def Earliest (instants : Set Millis) : Option Millis → Prop
  | none => instants = ∅
  | some instant => IsLeast instants instant

theorem Earliest.insert {instants : Set Millis} {deadline : Option Millis}
    (h : Earliest instants deadline) (candidate : Millis) :
    Earliest (insert candidate instants) (some (deadline.elim candidate (min candidate))) := by
  match deadline, h with
  | none, (h : instants = ∅) =>
    rw [h, insert_empty_eq]
    exact isLeast_singleton
  | some _, h => exact IsLeast.insert candidate h

theorem Earliest.mem {instants : Set Millis} {deadline : Option Millis}
    (h : Earliest instants deadline) {instant : Millis} (hdeadline : instant ∈ deadline) :
    instant ∈ instants := by
  obtain rfl := Option.mem_def.1 hdeadline
  exact h.1

theorem Earliest.exists_le {instants : Set Millis} {deadline : Option Millis}
    (h : Earliest instants deadline) {candidate : Millis} (hmem : candidate ∈ instants) :
    ∃ instant ∈ deadline, instant ≤ candidate := by
  match deadline, h with
  | none, (h : instants = ∅) => exact absurd (h ▸ hmem) (Set.notMem_empty _)
  | some instant, h => exact ⟨instant, rfl, h.2 hmem⟩

/-- A tightened scope has one more candidate for its deadline, if that is representable. -/
theorem Scope.earliest_within {scope : Scope} {instants : Set Millis}
    (h : Earliest instants scope.deadline) (clock : Clock) (span : Millis) :
    Earliest {instant | instant ∈ instants ∨
        clock.now + span < Clock.limit ∧ instant = clock.now + span}
      (scope.within clock span).deadline := by
  unfold within Clock.after?
  by_cases hlimit : clock.now + span < Clock.limit
  · have hset : {instant | instant ∈ instants ∨
        clock.now + span < Clock.limit ∧ instant = clock.now + span} =
          insert (clock.now + span) instants := by
      ext instant
      simp [hlimit, or_comm]
    rw [if_pos hlimit, hset]
    exact h.insert _
  · rw [if_neg hlimit]
    simpa [hlimit] using h

theorem Scope.signalled_within (scope : Scope) (clock : Clock) (span : Millis) :
    (scope.within clock span).signalled = scope.signalled := by
  unfold within
  split <;> rfl

/-! ### Timelines keep to their histories -/

/-- The clock and the handle are as they have to be after the events. -/
structure Clocked (events : History) (clock : Clock) (handle : Bool) : Prop where
  now : clock.now = events.elapsed
  handle : handle = true ↔ .dropHandle ∉ events
  given : clock.stopAt.isSome = true ↔ events.Signalled
  /-- Nothing is planned for later. -/
  past : ∀ instant ∈ clock.stopAt, instant ≤ clock.now

/-- The scopes are as they have to be after the events. -/
structure Scoped (events : History) (scopes : List Scope) : Prop where
  count : scopes.length = events.count
  signalled : ∀ scope ∈ scopes, scope.signalled = true
  deadline : ∀ place scope, scopes[place]? = some scope →
    Earliest {instant | events.Candidate place instant} scope.deadline

/-- The timeline is as it has to be after the events, which began with one scope. -/
structure Follows (events : History) (timeline : Timeline) : Prop where
  time : Clocked events timeline.clock timeline.handle
  scopes : Scoped events timeline.scopes

open History

namespace Clocked

variable {events : History} {event : Event} {clock : Clock} {handle : Bool}

/-- The signal has been given exactly if the events say so. -/
theorem isStopped_iff (h : Clocked events clock handle) :
    clock.isStopped = true ↔ events.Signalled := by
  rw [← h.given, Clock.isStopped, Option.any_eq_true, Option.isSome_iff_exists]
  constructor
  · rintro ⟨instant, hmem, -⟩
    exact ⟨instant, hmem⟩
  · rintro ⟨instant, hmem⟩
    exact ⟨instant, hmem, decide_eq_true (h.past instant hmem)⟩

/-- Events that concern scopes leave clock and handle alone. -/
theorem keep (h : Clocked events clock handle) (hspan : event.span = 0) (hstop : event ≠ .stop)
    (hdrop : event ≠ .dropHandle) : Clocked (events ++ [event]) clock handle where
  now := by rw [elapsed_append, hspan]; exact h.now
  handle := by simpa [hdrop.symm] using h.handle
  given := by simpa [signalled_append_iff, hstop] using h.given
  past := h.past

theorem pass (h : Clocked events clock handle) (span : Millis) :
    Clocked (events ++ [.pass span]) (clock.advance span) handle where
  now := by rw [elapsed_append, ← h.now]; rfl
  handle := by simpa using h.handle
  given := by
    change clock.stopAt.isSome = true ↔ _
    simpa [signalled_append_iff] using h.given
  past := fun instant hmem => Nat.le_add_right_of_le (h.past instant hmem)

theorem dropHandle (h : Clocked events clock handle) :
    Clocked (events ++ [.dropHandle]) clock false where
  now := by rw [elapsed_append]; exact h.now
  handle := by simp
  given := by simpa [signalled_append_iff] using h.given
  past := h.past

theorem stop_of_handle (h : Clocked events clock true) :
    Clocked (events ++ [.stop]) clock.stop true where
  now := by rw [elapsed_append]; exact h.now
  handle := by simpa using h.handle
  given := by simp [signalled_append_iff, h.handle.1 rfl, Clock.stop, Clock.stopAtInstant]
  past := by
    intro instant hmem
    obtain rfl : clock.stopAt.elim clock.now (min clock.now) = instant := Option.some.inj hmem
    cases clock.stopAt with
    | none => exact Nat.le_refl _
    | some given => exact Nat.min_le_left ..

theorem stop_of_no_handle (h : Clocked events clock false) :
    Clocked (events ++ [.stop]) clock false where
  now := by rw [elapsed_append]; exact h.now
  handle := by simpa using h.handle
  given := by
    have hdropped : .dropHandle ∈ events := by simpa using h.handle
    simpa [signalled_append_iff, hdropped] using h.given
  past := h.past

end Clocked

namespace Scoped

variable {events : History} {event : Event} {scopes : List Scope}

/-- Other events than those that concern scopes leave the scopes alone. -/
theorem keep (h : Scoped events scopes) (hlimit : ∀ place span, event ≠ .limit place span)
    (hcopy : ∀ model, event ≠ .copy model) : Scoped (events ++ [event]) scopes where
  count := by
    rw [count_append, h.count]
    unfold Event.countAfter
    split
    · exact absurd rfl (hcopy _)
    · rfl
  signalled := h.signalled
  deadline := by simpa [candidate_append_iff, hlimit, hcopy] using h.deadline

theorem limit (h : Scoped events scopes) {clock : Clock} (hclock : clock.now = events.elapsed)
    (place : Nat) (span : Millis) :
    Scoped (events ++ [.limit place span])
      (scopes.modify place fun scope => scope.within clock span) where
  count := by rw [List.length_modify, h.count, count_append]; rfl
  signalled := by
    intro scope hscope
    obtain ⟨other, hother⟩ := List.getElem?_of_mem hscope
    rw [List.getElem?_modify] at hother
    obtain ⟨before, hbefore, rfl⟩ := Option.map_eq_some_iff.1 hother
    have hsignalled := h.signalled before (List.mem_of_getElem? hbefore)
    split
    · rwa [Scope.signalled_within]
    · exact hsignalled
  deadline := by
    intro other scope hscope
    rw [List.getElem?_modify] at hscope
    obtain ⟨before, hbefore, rfl⟩ := Option.map_eq_some_iff.1 hscope
    have hdeadline := h.deadline other before hbefore
    by_cases hplace : place = other
    · subst hplace
      have hthere : place < events.count := by
        rw [← h.count]
        exact (List.getElem?_eq_some_iff.1 hbefore).1
      have hset : {instant | Candidate (events ++ [.limit place span]) place instant} =
          {instant | instant ∈ {instant | events.Candidate place instant} ∨
            clock.now + span < Clock.limit ∧ instant = clock.now + span} := by
        ext instant
        simp [candidate_append_iff, hthere, hclock]
      rw [if_pos rfl, hset]
      exact Scope.earliest_within hdeadline clock span
    · have hset : {instant | Candidate (events ++ [.limit place span]) other instant} =
          {instant | events.Candidate other instant} := by
        ext instant
        simp [candidate_append_iff, hplace]
      rwa [if_neg hplace, hset]

/-- A copy comes last, with the deadline of its model; if there is no model, there is no copy. -/
theorem copy (h : Scoped events scopes) (model : Nat) :
    Scoped (events ++ [.copy model]) (scopes ++ scopes[model]?.toList) := by
  by_cases hmodel : model < scopes.length
  · have hlast : scopes[model]?.toList = [scopes[model]] := by
      rw [List.getElem?_eq_getElem hmodel]
      rfl
    rw [hlast]
    refine ⟨?_, ?_, ?_⟩
    · rw [count_append, Event.countAfter, ← h.count, if_pos hmodel, List.length_append]
      rfl
    · exact List.forall_mem_append.2
        ⟨h.signalled, List.forall_mem_singleton.2 (h.signalled _ (List.getElem_mem hmodel))⟩
    · intro place scope hscope
      obtain hplace | rfl | hplace := Nat.lt_trichotomy place scopes.length
      · have hset : {instant | Candidate (events ++ [.copy model]) place instant} =
            {instant | events.Candidate place instant} := by
          ext instant
          simp [candidate_append_iff, ← h.count, hplace.ne]
        rw [List.getElem?_append_left hplace] at hscope
        rw [hset]
        exact h.deadline place scope hscope
      · have hset : {instant | Candidate (events ++ [.copy model]) scopes.length instant} =
            {instant | events.Candidate model instant} := by
          ext instant
          have hfresh : ¬ events.Candidate scopes.length instant := fun hold =>
            Nat.lt_irrefl _ (h.count ▸ hold.lt_count)
          simp [candidate_append_iff, hfresh, ← h.count]
        rw [List.getElem?_concat_length] at hscope
        rw [hset]
        exact h.deadline model scope ((List.getElem?_eq_getElem hmodel).trans hscope)
      · have hnone : (scopes ++ [scopes[model]])[place]? = none :=
          List.getElem?_eq_none (by simpa using Nat.succ_le_of_lt hplace)
        exact absurd (hnone.symm.trans hscope) nofun
  · have hnone : scopes[model]? = none := List.getElem?_eq_none (Nat.le_of_not_lt hmodel)
    have hkept : ∀ place instant,
        Candidate (events ++ [.copy model]) place instant ↔ events.Candidate place instant := by
      intro place instant
      have habsent : ¬ events.Candidate model instant := fun hold =>
        hmodel (h.count ▸ hold.lt_count)
      simp [candidate_append_iff, habsent]
    rw [hnone, Option.toList_none, List.append_nil]
    refine ⟨?_, h.signalled, ?_⟩
    · rw [count_append, Event.countAfter, ← h.count, if_neg hmodel]
    · simpa only [hkept] using h.deadline

end Scoped

namespace Follows

variable {events : History} {timeline : Timeline}

theorem cancellable : Follows [] .cancellable where
  time :=
    { now := rfl
      handle := by simp [Timeline.cancellable]
      given := by simp [Timeline.cancellable, Signalled]
      past := nofun }
  scopes :=
    { count := rfl
      signalled := List.forall_mem_singleton.2 rfl
      deadline := by
        intro place scope hscope
        have hmem : scope ∈ Timeline.cancellable.scopes := List.mem_of_getElem? hscope
        obtain rfl := List.mem_singleton.1 hmem
        exact Set.eq_empty_iff_forall_notMem.2 fun instant => not_candidate_nil }

/-- **A timeline keeps to what happens on it.** -/
theorem apply (h : Follows events timeline) (event : Event) :
    Follows (events ++ [event]) (timeline.apply event) := by
  obtain ⟨htime, hscopes⟩ := h
  cases event with
  | limit place span =>
    exact ⟨htime.keep rfl nofun nofun, hscopes.limit htime.now place span⟩
  | copy model => exact ⟨htime.keep rfl nofun nofun, hscopes.copy model⟩
  | pass span => exact ⟨htime.pass span, hscopes.keep nofun nofun⟩
  | stop =>
    have hkept : Scoped (events ++ [.stop]) timeline.scopes := hscopes.keep nofun nofun
    by_cases hhandle : timeline.handle = true
    · rw [Timeline.apply, if_pos hhandle]
      rw [hhandle] at htime
      refine ⟨?_, hkept⟩
      simpa only [hhandle] using htime.stop_of_handle
    · rw [Timeline.apply, if_neg hhandle]
      rw [Bool.not_eq_true] at hhandle
      rw [hhandle] at htime
      refine ⟨?_, hkept⟩
      rw [hhandle]
      exact htime.stop_of_no_handle
  | dropHandle => exact ⟨htime.dropHandle, hscopes.keep nofun nofun⟩

theorem applyAll (h : Follows events timeline) (more : History) :
    Follows (events ++ more) (timeline.applyAll more) := by
  induction more generalizing events timeline with
  | nil => rwa [List.append_nil]
  | cons event more ih =>
    rw [List.append_cons]
    exact ih (h.apply event)

end Follows

/-- A timeline that began with one scope is as the events say. -/
theorem follows_applyAll (events : History) :
    Follows events (Timeline.cancellable.applyAll events) :=
  Follows.cancellable.applyAll events

/-! ### What is over -/

/-- Nothing may start any more in the scope at the place. The signal counts before the deadline. -/
inductive History.Over (events : History) (place : Nat) : Interruption → Prop
  | stopped (hsignalled : events.Signalled) : Over events place .cancelled
  | expired {instant : Millis} (hlive : ¬ events.Signalled)
      (hcandidate : events.Candidate place instant) (hle : instant ≤ events.elapsed) :
      Over events place .deadlineExceeded

namespace Follows

variable {events : History} {timeline : Timeline} {place : Nat} {scope : Scope}

/-- All scopes are stopped together. -/
theorem isStopped_iff (h : Follows events timeline)
    (hscope : timeline.scopes[place]? = some scope) :
    scope.isStopped timeline.clock = true ↔ events.Signalled := by
  have hsignalled := h.scopes.signalled scope (List.mem_of_getElem? hscope)
  rw [Scope.isStopped, hsignalled, Bool.true_and]
  exact h.time.isStopped_iff

theorem interruption?_eq_some_iff (h : Follows events timeline)
    (hscope : timeline.scopes[place]? = some scope) (cause : Interruption) :
    scope.interruption? timeline.clock = some cause ↔ events.Over place cause := by
  have hstopped := h.isStopped_iff hscope
  have hdeadline := h.scopes.deadline place scope hscope
  have hexpired : (scope.deadline.any fun deadline => decide (deadline ≤ timeline.clock.now)) =
      true ↔ ∃ instant, events.Candidate place instant ∧ instant ≤ events.elapsed := by
    rw [Option.any_eq_true, ← h.time.now]
    constructor
    · rintro ⟨deadline, hmem, hle⟩
      exact ⟨deadline, hdeadline.mem hmem, of_decide_eq_true hle⟩
    · rintro ⟨instant, hcandidate, hle⟩
      obtain ⟨deadline, hmem, hfirst⟩ := hdeadline.exists_le hcandidate
      exact ⟨deadline, hmem, decide_eq_true (Nat.le_trans hfirst hle)⟩
  unfold Scope.interruption?
  by_cases hsignalled : events.Signalled
  · rw [if_pos (hstopped.2 hsignalled)]
    constructor
    · rintro ⟨⟩
      exact .stopped hsignalled
    · rintro (_ | ⟨hlive, -, -⟩)
      · rfl
      · exact absurd hsignalled hlive
  · rw [if_neg (mt hstopped.1 hsignalled)]
    constructor
    · intro hcause
      split at hcause
      next hpast =>
        cases hcause
        obtain ⟨instant, hcandidate, hle⟩ := hexpired.1 hpast
        exact .expired hsignalled hcandidate hle
      next => cases hcause
    · rintro (hgiven | ⟨-, hcandidate, hle⟩)
      · exact absurd hgiven hsignalled
      · rw [if_pos (hexpired.2 ⟨_, hcandidate, hle⟩)]

theorem interruption?_eq_none_iff (h : Follows events timeline)
    (hscope : timeline.scopes[place]? = some scope) :
    scope.interruption? timeline.clock = none ↔ ∀ cause, ¬ events.Over place cause := by
  rw [Option.eq_none_iff_forall_ne_some]
  exact forall_congr' fun cause => not_congr (h.interruption?_eq_some_iff hscope cause)

end Follows

end PrivateLink.Stop
