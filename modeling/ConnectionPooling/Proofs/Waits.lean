/-
# What the totals of waiting count

A call that finds nothing sleeps, wakes and looks again, perhaps many times, and returns a
handle or an error in the end. The pool counts the calls that have slept, adds up how long they
slept, and adds up how long those took that have returned a handle.

This module reads the same off a run, without looking at the totals. `dozes` says who falls
asleep in a step, `naps` whose sleep ends in it, and `services` who returns a handle. A sleep that
has begun has ended or is under way, so that none is lost and none counts twice. Since a call
sleeps between its beginning and its return, it has slept for no longer than it took.
-/

import ConnectionPooling.Proofs.Calls
import Mathlib.Data.Finset.Card

namespace ConnectionPooling

/-- A stretch of time in the life of a call. -/
structure Span where
  /-- The call. -/
  ticket : Ticket
  /-- When it began. -/
  since : Instant
  /-- When it ended. -/
  upTo : Instant
  deriving DecidableEq

namespace Span

/-- How long the stretch lasted. -/
def time (span : Span) : Duration :=
  span.upTo - span.since

/-- How long some stretches lasted together. -/
def total (spans : List Span) : Duration :=
  (spans.map time).sum

theorem total_append (first second : List Span) :
    total (first ++ second) = total first + total second := by
  unfold total
  rw [List.map_append, List.sum_append]

/-- Whose it is, and when it began. -/
def began (span : Span) : Ticket × Instant :=
  (span.ticket, span.since)

end Span

/-- Who sleeps, and since when. -/
def Sleeper.began (sleeper : Sleeper) : Ticket × Instant :=
  (sleeper.ticket, sleeper.since)

/-- How many calls begin to wait when one that had waited before, or had not, got so far. -/
def Progress.newWaits (waited : Bool) : Progress → Nat
  | .asleep _ => if waited then 0 else 1
  | _ => 0

/-- The time that a call is charged for which took so long and got so far. -/
def Progress.charge (took : Duration) : Progress → Duration
  | .granted _ => took
  | _ => 0

variable {σ α : Type}

namespace Pool

/-! ## The totals of a pool -/

/-- From `before` to `after` the totals grew by so many waiting calls, so long a time of waiting,
and so long a time of requests. -/
structure Bills (waits : Nat) (waitTime requestTime : Duration) (before after : Pool σ) :
    Prop where
  waits : after.counters.waits = before.counters.waits + waits
  waitTime : after.counters.waitTime = before.counters.waitTime + waitTime
  requestTime : after.counters.requestTime = before.counters.requestTime + requestTime

theorem bills_of_counters_eq {before after : Pool σ} (same : after.counters = before.counters) :
    Bills 0 0 0 before after :=
  ⟨congrArg _ same, congrArg _ same, congrArg _ same⟩

section

variable {waits more : Nat} {waitTime slept requestTime took : Duration}
  {before mid after : Pool σ}

theorem Bills.trans (first : Bills waits waitTime requestTime before mid)
    (second : Bills more slept took mid after) :
    Bills (waits + more) (waitTime + slept) (requestTime + took) before after where
  waits := by rw [second.waits, first.waits, Nat.add_assoc]
  waitTime := by rw [second.waitTime, first.waitTime, Nat.add_assoc]
  requestTime := by rw [second.requestTime, first.requestTime, Nat.add_assoc]

/-- What does not change the totals may come before what bills something. -/
theorem Bills.of_mid (first : Bills 0 0 0 before mid)
    (second : Bills waits waitTime requestTime mid after) :
    Bills waits waitTime requestTime before after := by
  have both := first.trans second
  rwa [Nat.zero_add, Nat.zero_add, Nat.zero_add] at both

/-- What does not change the totals may come after what bills something. -/
theorem Bills.to_end (first : Bills waits waitTime requestTime before mid)
    (second : Bills 0 0 0 mid after) : Bills waits waitTime requestTime before after :=
  first.trans second

end

theorem Finds.bills [Driver σ] {settings : Settings} {who : Credentials} {pool after : Pool σ}
    {result : Except PoolError Candidate} (finds : Finds settings who pool result after) :
    Bills 0 0 0 pool after := by
  cases finds <;> exact ⟨rfl, rfl, rfl⟩

variable [Driver σ]

/-- A candidate that is rejected is neither waited for nor handed out. -/
theorem Owns.bills_reject {settings : Settings} {who : Credentials} {pool found vetted : Pool σ}
    {w : WrapperId} {rejection : Rejection} (owns : pool.Owns [])
    (search : pool.nextCandidate settings who = (.ok (.ready w), found))
    (vet : found.vet settings.policy w = (.error rejection, vetted)) :
    Bills 0 0 0 pool (vetted.countBad.note (.candidateRejected rejection)) := by
  have finds := owns.search search
  have checks := (finds.owns owns).vet vet
  have both := finds.bills.to_end (bills_of_counters_eq checks.counters)
  exact ⟨both.waits, both.waitTime, both.requestTime⟩

omit [Driver σ] in
theorem bills_fallAsleep (policy : Policy) (acquisition : Acquisition) (pool : Pool σ) :
    Bills (if acquisition.waited then 0 else 1) 0 0 pool
      (pool.fallAsleep policy acquisition).2 := by
  unfold fallAsleep
  cases acquisition.waited with
  | true => exact ⟨rfl, rfl, rfl⟩
  | false => exact ⟨rfl, rfl, rfl⟩

/-- An acquisition is counted as waiting when it falls asleep for the first time, and it is
charged for the time since it started when it gets a connection. -/
theorem Acquires.bills {settings : Settings} {acquisition : Acquisition} {budget : Nat}
    {pool after : Pool σ} {progress : Progress}
    (acquires : Acquires settings acquisition budget pool progress after)
    (owns : pool.Owns []) :
    Bills (progress.newWaits acquisition.waited) 0
      (progress.charge (after.now - acquisition.started)) pool after := by
  induction acquires with
  | failed search => exact (owns.search search).bills
  | @asleep acquisition _ _ found search =>
    exact (owns.search search).bills.of_mid (bills_fallAsleep settings.policy acquisition found)
  | @granted acquisition _ _ _ vetted w search vet =>
    have finds := owns.search search
    have checks := (finds.owns owns).vet vet
    have before := finds.bills.to_end (bills_of_counters_eq checks.counters)
    have handed : Bills 0 0 (vetted.now - acquisition.started) vetted
        (vetted.handOut (settings.source.fingerprintFor acquisition.who)
          acquisition.started w) := ⟨rfl, rfl, rfl⟩
    exact before.of_mid handed
  | gaveUp search vet =>
    have rejected := owns.bills_reject search vet
    exact ⟨rejected.waits, rejected.waitTime, rejected.requestTime⟩
  | again search vet _ ih =>
    exact (owns.bills_reject search vet).of_mid (ih (owns.reject search vet).1)

/-- An acquisition sleeps as the request that it was, which started when it did. -/
theorem Acquires.started_eq {settings : Settings} {acquisition again : Acquisition}
    {budget : Nat} {pool after : Pool σ} {progress : Progress}
    (acquires : Acquires settings acquisition budget pool progress after)
    (asleep : progress = .asleep again) : again.started = acquisition.started := by
  induction acquires with
  | failed | granted | gaveUp => cases asleep
  | asleep =>
    cases asleep
    rfl
  | again _ _ _ ih => exact ih asleep

theorem Owns.bills_acquire {pool : Pool σ} (owns : pool.Owns []) (settings : Settings)
    (acquisition : Acquisition) :
    Bills ((pool.acquire settings acquisition).1.newWaits acquisition.waited) 0
      ((pool.acquire settings acquisition).1.charge
        ((pool.acquire settings acquisition).2.now - acquisition.started)) pool
      (pool.acquire settings acquisition).2 := by
  rcases acquire_cases settings acquisition pool with ⟨-, refused⟩ | ⟨-, acquires⟩
  · rw [refused]
    exact bills_of_counters_eq rfl
  · exact acquires.bills owns

theorem started_of_asleep {settings : Settings} {acquisition again : Acquisition} {pool : Pool σ}
    (asleep : (pool.acquire settings acquisition).1 = .asleep again) :
    again.started = acquisition.started := by
  rcases acquire_cases settings acquisition pool with ⟨-, refused⟩ | ⟨-, acquires⟩
  · rw [refused] at asleep
    cases asleep
  · exact acquires.started_eq asleep

/-- Taking a connection back is no matter of waiting. -/
theorem Owns.bills_release {pool : Pool σ} (owns : pool.Owns []) (policy : Policy)
    {w : WrapperId} (busy : w ∉ pool.idle) : Bills 0 0 0 pool (pool.release policy w) := by
  rcases owns.release_eq policy busy with
    ⟨-, left, same, -, refused⟩ | ⟨-, -, ⟨_, -, checked⟩, ⟨_, _, holds⟩, put⟩
  · have kept : Bills 0 0 0 pool left := bills_of_counters_eq same
    rw [refused]
    exact ⟨kept.waits, kept.waitTime, kept.requestTime⟩
  · have ended : Bills 0 0 0 pool (pool.tallied policy w) := by
      unfold tallied
      rw [checked]
      exact ⟨rfl, rfl, rfl⟩
    rw [put]
    exact ended.to_end (bills_of_counters_eq (holds.counters_putAway policy))

omit [Driver σ] in
theorem bills_withConnection (pool : Pool σ) (w : WrapperId) (work : ConnId → Exchange σ α) :
    Bills 0 0 0 pool ((pool.withConnection w work).2.touch w) := by
  unfold withConnection
  cases pool.reach w with
  | none => exact bills_of_counters_eq rfl
  | some conn => exact bills_of_counters_eq rfl

theorem bills_forceCloseAll (pool : Pool σ) (source : DataSource) :
    Bills 0 0 0 pool (pool.forceCloseAll source) :=
  bills_of_counters_eq (pool.forceCloseAll_same source).1

end Pool

namespace World

variable [Driver σ]

/-! ## What happens in a step -/

/-- The sleep that ends in a step: a sleeper wakes. -/
def naps (step : Step σ) (world : World σ) : List Span :=
  match step with
  | .act _ => []
  | .wake place => (world.sleepers[place]?.map fun sleeper =>
      { ticket := sleeper.ticket, since := sleeper.since, upTo := world.pool.now }).toList

/-- Who falls asleep in a step, and when. -/
def dozes (step : Step σ) (world : World σ) : List (Ticket × Instant) :=
  match world.call step, world.progress step with
  | some (ticket, _), some (.asleep _) => [(ticket, (world.take step).pool.now)]
  | _, _ => []

/-- The call that returns a handle in a step, with the time from its start to its return. -/
def services (step : Step σ) (world : World σ) : List Span :=
  match world.call step, world.progress step with
  | some (ticket, acquisition), some (.granted _) =>
      [{ ticket := ticket, since := acquisition.started, upTo := (world.take step).pool.now }]
  | _, _ => []

variable {step : Step σ} {world : World σ} {ticket : Ticket} {acquisition : Acquisition}

omit [Driver σ] in
theorem naps_wake {place : Nat} {sleeper : Sleeper}
    (found : world.sleepers[place]? = some sleeper) :
    world.naps (.wake place) =
      [{ ticket := sleeper.ticket, since := sleeper.since, upTo := world.pool.now }] := by
  rw [naps, found]
  rfl

omit [Driver σ] in
theorem exists_of_mem_naps {nap : Span} (woken : nap ∈ world.naps step) :
    ∃ place sleeper, step = .wake place ∧ world.sleepers[place]? = some sleeper ∧
      nap = { ticket := sleeper.ticket, since := sleeper.since, upTo := world.pool.now } := by
  cases step with
  | act action => cases woken
  | wake place =>
    cases found : world.sleepers[place]? with
    | none =>
      rw [naps, found] at woken
      cases woken
    | some sleeper =>
      rw [naps_wake found] at woken
      exact ⟨place, sleeper, rfl, found, List.mem_singleton.1 woken⟩

omit [Driver σ] in
/-- Only the call that works may have slept until then. -/
theorem call_of_nap {nap : Span} (woken : nap ∈ world.naps step) :
    ∃ acquisition, world.call step = some (nap.ticket, acquisition) := by
  obtain ⟨place, sleeper, rfl, found, rfl⟩ := exists_of_mem_naps woken
  refine ⟨sleeper.acquisition, ?_⟩
  rw [call, found, Option.map_some]

omit [Driver σ] in
theorem naps_of_quiet (quiet : world.call step = none) : world.naps step = [] := by
  rw [List.eq_nil_iff_forall_not_mem]
  intro nap woken
  obtain ⟨acquisition, called⟩ := call_of_nap woken
  rw [quiet] at called
  cases called

theorem dozes_of_quiet (quiet : world.call step = none) : world.dozes step = [] := by
  unfold dozes
  rw [quiet]

theorem services_of_quiet (quiet : world.call step = none) : world.services step = [] := by
  unfold services
  rw [quiet]

theorem exists_of_mem_services {service : Span} (served : service ∈ world.services step) :
    ∃ acquisition w, world.call step = some (service.ticket, acquisition) ∧
      world.progress step = some (.granted w) ∧ service.since = acquisition.started ∧
      service.upTo = (world.take step).pool.now := by
  unfold services at served
  split at served
  · rename_i called granted
    cases List.mem_singleton.1 served
    exact ⟨_, _, called, granted, rfl, rfl⟩
  · cases served

/-- As many handles are returned in a step as connections are handed out. -/
theorem length_services (step : Step σ) (world : World σ) :
    (world.services step).length = world.grants step := by
  cases reached : world.progress step with
  | none =>
    unfold services grants
    rw [reached]
    cases world.call step <;> rfl
  | some progress =>
    obtain ⟨ticket, acquisition, called⟩ := exists_call_of_progress reached
    unfold services grants
    rw [reached, called]
    cases progress <;> rfl

/-! ## The totals in a step -/

/-- An operation that does not look for a connection is no matter of waiting. -/
theorem Operates.bills {pool : Pool σ} (operates : Operates step world pool)
    (orderly : world.Orderly) (quiet : world.asks step = Option.none) :
    Pool.Bills 0 0 0 world.pool pool := by
  cases operates with
  | none => exact Pool.bills_of_counters_eq rfl
  | begun begins =>
    subst begins
    cases quiet
  | woken wakes found =>
    subst wakes
    simp [World.asks, found] at quiet
  | used => exact Pool.bills_withConnection _ _ _
  | returned _ out => exact orderly.owns.bills_release _ (orderly.busy_of_checkout out)
  | emptied => exact Pool.bills_forceCloseAll _ _
  | shut =>
    have closed := Pool.bills_forceCloseAll { world.pool with closed := true }
      world.settings.source
    exact ⟨closed.waits, closed.waitTime, closed.requestTime⟩
  | aside => exact Pool.bills_of_counters_eq rfl

theorem Ends.bills {waits : Nat} {waitTime requestTime : Duration} {before pool after : Pool σ}
    (ends : Ends world pool after) (bills : Pool.Bills waits waitTime requestTime before pool) :
    Pool.Bills waits waitTime requestTime before after := by
  cases ends with
  | reached same => exact same ▸ bills
  | abandoned owns ended => exact ended ▸ bills.to_end (Pool.bills_forceCloseAll _ _)

/-- How many calls begin to wait in a step. -/
def newWaits (step : Step σ) (world : World σ) : Nat :=
  match world.call step, world.progress step with
  | some (_, acquisition), some progress => progress.newWaits acquisition.waited
  | _, _ => 0

omit [Driver σ] in
theorem bills_ready (called : world.call step = some (ticket, acquisition)) :
    Pool.Bills 0 (Span.total (world.naps step)) 0 world.pool (world.ready step).pool := by
  rcases call_cases called with ⟨who, rfl, -, -⟩ | ⟨place, sleeper, rfl, found, -, -⟩
  · exact Pool.bills_of_counters_eq rfl
  · rw [ready_wake found, naps_wake found]
    exact ⟨rfl, rfl, rfl⟩

theorem total_services (called : world.call step = some (ticket, acquisition))
    {progress : Progress} (reached : world.progress step = some progress) :
    Span.total (world.services step) =
      progress.charge ((world.parted step).now - acquisition.started) := by
  unfold services
  rw [called, reached]
  cases progress with
  | granted w =>
    rw [← parted_of_granted reached]
    rfl
  | failed error => rfl
  | asleep again => rfl

/-- In a step the totals grow by what happens in it. -/
theorem Orderly.bills (orderly : world.Orderly) (step : Step σ) :
    Pool.Bills (world.newWaits step) (Span.total (world.naps step))
      (Span.total (world.services step)) world.pool (world.take step).pool := by
  unfold newWaits
  cases called : world.call step with
  | none =>
    obtain ⟨pool, operates, ends⟩ := orderly.operates step
    rw [naps_of_quiet called, services_of_quiet called]
    exact ends.bills (operates.bills orderly (asks_of_quiet called))
  | some works =>
    obtain ⟨ticket, acquisition⟩ := works
    have reached := progress_of_call called
    have searched := (orderly.ready step).owns.bills_acquire world.settings acquisition
    rw [← parted_of_call called, ← total_services called reached] at searched
    have all := (bills_ready called).trans searched
    rw [Nat.zero_add, Nat.zero_add] at all
    rw [reached]
    rcases pool_take_of_call called with same | ⟨-, ended⟩
    · rw [same]
      exact all
    · rw [ended]
      exact all.to_end (Pool.bills_forceCloseAll _ _)

/-! ## The queue in a step -/

/-- The call that works joins the queue as the last one if it falls asleep, and nobody joins it
otherwise. -/
theorem sleepers_of_call (called : world.call step = some (ticket, acquisition)) :
    (∃ last : Sleeper, world.progress step = some (.asleep last.acquisition) ∧
      last.began = (ticket, (world.take step).pool.now) ∧
      last.acquisition.started = acquisition.started ∧
      (world.take step).sleepers = (world.ready step).sleepers ++ [last]) ∨
    ((∀ again, world.progress step ≠ some (.asleep again)) ∧
      (world.take step).sleepers = (world.ready step).sleepers) := by
  have settings := (ready_frame step world).2.1
  have queued : (world.take step).sleepers =
      ((world.ready step).proceed ticket acquisition).sleepers := by
    rcases take_of_call called with taken | taken
    · rw [taken]
    · rw [taken, (tearDown_queue _).1]
  cases reached : ((world.ready step).pool.acquire (world.ready step).settings acquisition).1 with
  | asleep again =>
    have asleep : world.progress step = some (.asleep again) := by
      rw [progress_of_call called, ← settings, reached]
    have now : (world.take step).pool.now =
        ((world.ready step).pool.acquire (world.ready step).settings acquisition).2.now := by
      rw [parted_of_asleep asleep, parted_of_call called, settings]
    unfold World.proceed at queued
    rw [reached] at queued
    refine .inl ⟨_, asleep, ?_, Pool.started_of_asleep reached, queued⟩
    rw [now]
    rfl
  | granted w | failed error =>
    unfold World.proceed at queued
    rw [reached] at queued
    refine .inr ⟨fun again asleep => ?_, queued⟩
    rw [progress_of_call called, ← settings, reached] at asleep
    cases asleep

theorem dozes_of_awake (awake : ∀ again, world.progress step ≠ some (.asleep again)) :
    world.dozes step = [] := by
  unfold dozes
  split
  · rename_i again _ asleep
    exact absurd asleep (awake again)
  · rfl

theorem dozes_of_asleep (called : world.call step = some (ticket, acquisition))
    {again : Acquisition} (asleep : world.progress step = some (.asleep again)) :
    world.dozes step = [(ticket, (world.take step).pool.now)] := by
  unfold dozes
  rw [called, asleep]

omit [Driver σ] in
/-- Who slept before the call took the pool sleeps still, or it is the call that woke. -/
theorem perm_ready (called : world.call step = some (ticket, acquisition)) :
    (world.sleepers.map Sleeper.began).Perm
      ((world.naps step).map Span.began ++ (world.ready step).sleepers.map Sleeper.began) := by
  rcases call_cases called with ⟨who, rfl, -, -⟩ | ⟨place, sleeper, rfl, found, -, -⟩
  · exact .refl _
  · rw [ready_wake found, naps_wake found]
    exact (perm_eraseIdx found).map Sleeper.began

/-- No sleep is lost in a step, and none is made up: those that were under way or begin in it are
those that end in it or are under way afterwards. -/
theorem Sound.perm_sleeps (sound : world.Sound) (step : Step σ) :
    (world.sleepers.map Sleeper.began ++ world.dozes step).Perm
      ((world.naps step).map Span.began ++ (world.take step).sleepers.map Sleeper.began) := by
  cases called : world.call step with
  | none =>
    rw [naps_of_quiet called, dozes_of_quiet called, (sound.queue_of_quiet called).1,
      List.append_nil]
    exact .refl _
  | some works =>
    obtain ⟨ticket, acquisition⟩ := works
    have before := (perm_ready called).append_right (world.dozes step)
    rw [List.append_assoc] at before
    rcases sleepers_of_call called with ⟨last, asleep, began, -, queued⟩ | ⟨awake, queued⟩
    · rw [dozes_of_asleep called asleep] at before ⊢
      rwa [queued, List.map_append, List.map_singleton, began]
    · rw [dozes_of_awake awake] at before ⊢
      rw [List.append_nil, List.append_nil] at before
      rwa [queued, List.append_nil]

/-! ## Runs -/

/-- What happened in the steps of a run, the earliest first. -/
def gather {β : Type} (happens : Step σ → World σ → List β) :
    List (World σ × Step σ) → List β
  | [] => []
  | (world, step) :: past => gather happens past ++ happens step world

omit [Driver σ] in
theorem gather_cons {β : Type} (happens : Step σ → World σ → List β) (step : Step σ)
    (world : World σ) (past : List (World σ × Step σ)) :
    gather happens ((world, step) :: past) = gather happens past ++ happens step world := rfl

omit [Driver σ] in
theorem gather_append {β : Type} (happens : Step σ → World σ → List β)
    (more past : List (World σ × Step σ)) :
    gather happens (more ++ past) = gather happens past ++ gather happens more := by
  induction more with
  | nil => exact (List.append_nil _).symm
  | cons visit rest ih =>
    rw [List.cons_append, gather_cons, gather_cons, ih, List.append_assoc]

/-- The calls that have slept. -/
def dozers (past : List (World σ × Step σ)) : Finset Ticket :=
  ((gather dozes past).map Prod.fst).toFinset

/-- How long a call has slept, in all its sleeps that have ended. -/
def slept (ticket : Ticket) (past : List (World σ × Step σ)) : Duration :=
  Span.total ((gather naps past).filter (·.ticket = ticket))

/-- The call began at this time in the past. -/
def Started (past : List (World σ × Step σ)) (ticket : Ticket) (t : Instant) : Prop :=
  ∃ mid who, (mid, .act (.acquire who)) ∈ past ∧ mid.nextTicket = ticket ∧ mid.pool.now = t

section

variable {settings : Settings} {driver : σ} {past : List (World σ × Step σ)}
  (leads : (World.start settings driver).Leads past world)

/-! ### Who has slept -/

theorem dozers_of_asleep (past : List (World σ × Step σ))
    (called : world.call step = some (ticket, acquisition))
    {again : Acquisition} (asleep : world.progress step = some (.asleep again)) :
    dozers ((world, step) :: past) = insert ticket (dozers past) := by
  unfold dozers
  rw [gather_cons, dozes_of_asleep called asleep, List.map_append, List.toFinset_append,
    List.map_singleton, List.toFinset_cons, List.toFinset_nil, insert_empty_eq,
    Finset.union_comm, Finset.singleton_union]

theorem dozers_of_nil (past : List (World σ × Step σ)) (none : world.dozes step = []) :
    dozers ((world, step) :: past) = dozers past := by
  unfold dozers
  rw [gather_cons, none, List.append_nil]

include leads

/-- All sleeps that have begun have ended or are under way. -/
theorem Leads.perm_sleeps : (gather dozes past).Perm
    ((gather naps past).map Span.began ++ world.sleepers.map Sleeper.began) := by
  induction leads with
  | refl => exact .refl _
  | @step past world earlier step _ ih =>
    have sound := earlier.sound (sound_start settings driver)
    have here := (sound.perm_sleeps step).append_left ((gather naps past).map Span.began)
    rw [gather_cons, gather_cons, List.map_append, List.append_assoc]
    refine (ih.append_right _).trans ?_
    rwa [List.append_assoc]

/-- Only calls that have begun have slept. -/
theorem Leads.dozers_lt : ∀ ticket ∈ dozers past, ticket < world.nextTicket := by
  induction leads with
  | refl => simp [dozers, gather]
  | @step past world earlier step _ ih =>
    have reachable := earlier.reachable .start
    intro ticket slept
    cases called : world.call step with
    | none =>
      rw [dozers_of_nil past (dozes_of_quiet called)] at slept
      rw [(reachable.sound.queue_of_quiet called).2.1]
      exact ih ticket slept
    | some works =>
      obtain ⟨own, acquisition⟩ := works
      obtain ⟨le, lt⟩ := reachable.lined.lt_nextTicket called
      rcases sleepers_of_call called with ⟨last, asleep, -⟩ | ⟨awake, -⟩
      · rw [dozers_of_asleep past called asleep, Finset.mem_insert] at slept
        rcases slept with rfl | earlier
        · exact lt
        · exact Nat.lt_of_lt_of_le (ih ticket earlier) le
      · rw [dozers_of_nil past (dozes_of_awake awake)] at slept
        exact Nat.lt_of_lt_of_le (ih ticket slept) le

/-- Whoever sleeps has slept. -/
theorem Leads.mem_dozers {sleeper : Sleeper} (sleeps : sleeper ∈ world.sleepers) :
    sleeper.ticket ∈ dozers past := by
  have began : sleeper.began ∈ gather dozes past :=
    leads.perm_sleeps.mem_iff.2 (List.mem_append_right _ (List.mem_map_of_mem sleeps))
  exact List.mem_toFinset.2 (List.mem_map_of_mem (f := Prod.fst) began)

/-- A call knows whether it has slept. -/
theorem Leads.waited_iff (called : world.call step = some (ticket, acquisition)) :
    acquisition.waited = true ↔ ticket ∈ dozers past := by
  have lined := (leads.reachable .start).lined
  rcases call_cases called with ⟨who, -, rfl, rfl⟩ | ⟨place, sleeper, -, found, rfl, rfl⟩
  · constructor
    · rintro ⟨⟩
    · intro slept
      exact absurd (leads.dozers_lt _ slept) (Nat.lt_irrefl _)
  · have sleeps := List.mem_of_getElem? found
    exact ⟨fun _ => leads.mem_dozers sleeps, fun _ => lined.waited sleeper sleeps⟩

/-- A call is counted when it sleeps for the first time. -/
theorem Leads.card_dozers (step : Step σ) :
    (dozers ((world, step) :: past)).card = (dozers past).card + world.newWaits step := by
  cases called : world.call step with
  | none =>
    rw [dozers_of_nil past (dozes_of_quiet called), newWaits, called]
    rfl
  | some works =>
    obtain ⟨ticket, acquisition⟩ := works
    have known := leads.waited_iff called
    rcases sleepers_of_call called with ⟨last, asleep, -⟩ | ⟨awake, -⟩
    · rw [dozers_of_asleep past called asleep, newWaits, called, asleep]
      dsimp only [Progress.newWaits]
      by_cases waited : acquisition.waited = true
      · rw [if_pos waited, Finset.insert_eq_of_mem (known.1 waited), Nat.add_zero]
      · rw [if_neg waited, Finset.card_insert_of_notMem fun slept => waited (known.2 slept)]
    · rw [dozers_of_nil past (dozes_of_awake awake), newWaits, called]
      cases reached : world.progress step with
      | none => rfl
      | some progress =>
        cases progress with
        | asleep again => exact absurd reached (awake again)
        | granted w => rfl
        | failed error => rfl

/-- The totals are those of what happened in the run. -/
theorem Leads.bills : Pool.Bills (dozers past).card (Span.total (gather naps past))
    (Span.total (gather services past)) (World.start settings driver).pool world.pool := by
  induction leads with
  | refl => exact Pool.bills_of_counters_eq rfl
  | @step past world earlier step _ ih =>
    have sound := earlier.sound (sound_start settings driver)
    have both := ih.trans (sound.toOrderly.bills step)
    rwa [gather_cons, gather_cons, Span.total_append, Span.total_append,
      earlier.card_dozers step]

end

/-! ### How long a call has slept -/

omit [Driver σ] in
/-- Only a call that works may have slept until then. -/
theorem slept_of_idle (past : List (World σ × Step σ))
    (idle : ∀ acquisition, world.call step ≠ some (ticket, acquisition)) :
    slept ticket ((world, step) :: past) = slept ticket past := by
  have none : (world.naps step).filter (·.ticket = ticket) = [] := by
    rw [List.filter_eq_nil_iff]
    intro nap woken own
    obtain ⟨acquisition, called⟩ := call_of_nap woken
    rw [of_decide_eq_true own] at called
    exact idle acquisition called
  unfold slept
  rw [gather_cons, List.filter_append, none, List.append_nil]

omit [Driver σ] in
theorem slept_wake (past : List (World σ × Step σ)) {place : Nat} {sleeper : Sleeper}
    (found : world.sleepers[place]? = some sleeper) :
    slept sleeper.ticket ((world, .wake place) :: past) =
      slept sleeper.ticket past + (world.pool.now - sleeper.since) := by
  have own : ∀ nap ∈ world.naps (.wake place), decide (nap.ticket = sleeper.ticket) = true := by
    rw [naps_wake found]
    exact List.forall_mem_singleton.2 (decide_eq_true rfl)
  unfold slept
  rw [gather_cons, List.filter_append, List.filter_eq_self.2 own, naps_wake found,
    Span.total_append]
  rfl

/-- The call began at the one time, and until the other one it has slept for no longer than there
was time in between. -/
structure Fits (past : List (World σ × Step σ)) (ticket : Ticket) (t upTo : Instant) :
    Prop where
  started : Started past ticket t
  slept_le : t + slept ticket past ≤ upTo

omit [Driver σ] in
theorem Fits.of_idle {past : List (World σ × Step σ)} {t upTo : Instant}
    (fits : Fits past ticket t upTo)
    (idle : ∀ acquisition, world.call step ≠ some (ticket, acquisition)) :
    Fits ((world, step) :: past) ticket t upTo := by
  obtain ⟨mid, who, passed, began⟩ := fits.started
  refine ⟨⟨mid, who, List.mem_cons_of_mem _ passed, began⟩, ?_⟩
  rw [slept_of_idle past idle]
  exact fits.slept_le

/-- The calls of a run have slept between their beginning and their return. -/
structure Rests (past : List (World σ × Step σ)) (world : World σ) : Prop where
  /-- A call that has not begun has not slept. -/
  future : ∀ ticket, world.nextTicket ≤ ticket → slept ticket past = 0
  /-- A sleeper has slept before it fell asleep for the last time. -/
  asleep : ∀ sleeper ∈ world.sleepers,
    Fits past sleeper.ticket sleeper.acquisition.started sleeper.since ∧
      sleeper.since ≤ world.pool.now
  /-- A call that has returned a handle has slept before, and will not sleep any more. -/
  served : ∀ service ∈ gather services past,
    Fits past service.ticket service.since service.upTo ∧ ¬ Pends service.ticket world

variable {past : List (World σ × Step σ)}

/-- A call that works has slept until then. -/
theorem Rests.of_call (rests : Rests past world)
    (called : world.call step = some (ticket, acquisition)) :
    Fits ((world, step) :: past) ticket acquisition.started world.pool.now := by
  rcases call_cases called with ⟨who, rfl, rfl, rfl⟩ | ⟨place, sleeper, rfl, found, rfl, rfl⟩
  · have new : slept world.nextTicket ((world, .act (.acquire who)) :: past) = 0 := by
      have none : world.naps (.act (.acquire who)) = [] := rfl
      rw [slept, gather_cons, none, List.append_nil]
      exact rests.future world.nextTicket (Nat.le_refl _)
    exact ⟨⟨world, who, List.mem_cons_self, rfl, rfl⟩, Nat.le_of_eq (congrArg _ new)⟩
  · obtain ⟨⟨⟨mid, who, passed, began⟩, before⟩, since⟩ :=
      rests.asleep sleeper (List.mem_of_getElem? found)
    refine ⟨⟨mid, who, List.mem_cons_of_mem _ passed, began⟩, ?_⟩
    rw [slept_wake past found, ← Nat.add_assoc]
    exact Nat.le_trans (Nat.add_le_add_right before _) (Nat.le_of_eq (Nat.add_sub_of_le since))

/-- Whoever sleeps after a step slept before it and did not work in it, or it is the call that
worked and has fallen asleep. -/
theorem Sound.sleeper_cases (sound : world.Sound) (lined : world.Lined) {sleeper : Sleeper}
    (sleeps : sleeper ∈ (world.take step).sleepers) :
    (sleeper ∈ world.sleepers ∧
      ∀ acquisition, world.call step ≠ some (sleeper.ticket, acquisition)) ∨
    ∃ acquisition, world.call step = some (sleeper.ticket, acquisition) ∧
      sleeper.acquisition.started = acquisition.started ∧
      sleeper.since = (world.take step).pool.now := by
  cases called : world.call step with
  | none =>
    rw [(sound.queue_of_quiet called).1] at sleeps
    exact .inl ⟨sleeps, fun _ same => by cases same⟩
  | some works =>
    obtain ⟨ticket, acquisition⟩ := works
    have old (left : sleeper ∈ (world.ready step).sleepers) :
        sleeper ∈ world.sleepers ∧
          ∀ other, some (ticket, acquisition) ≠ some (sleeper.ticket, other) := by
      refine ⟨mem_of_mem_ready called left, ?_⟩
      rintro other ⟨⟩
      exact lined.awake_ready called sleeper left rfl
    rcases sleepers_of_call called with ⟨last, -, began, started, queued⟩ | ⟨-, queued⟩
    · rw [queued] at sleeps
      rcases List.mem_append.1 sleeps with left | new
      · exact .inl (old left)
      · cases List.mem_singleton.1 new
        obtain ⟨rfl, now⟩ := Prod.mk.inj began
        exact .inr ⟨acquisition, rfl, started, now⟩
    · rw [queued] at sleeps
      exact .inl (old sleeps)

/-- A call that has returned does not pend. -/
theorem Lined.not_pends_of_granted (lined : world.Lined)
    (called : world.call step = some (ticket, acquisition)) {w : WrapperId}
    (granted : world.progress step = some (.granted w)) : ¬ Pends ticket (world.take step) := by
  intro pends
  obtain ⟨again, asleep⟩ := lined.asleep_of_pends called pends
  rw [granted] at asleep
  cases asleep

/-- What the calls have slept fits their lives after every step. -/
theorem Rests.take (rests : Rests past world) (sound : world.Sound) (lined : world.Lined)
    (step : Step σ) : Rests ((world, step) :: past) (world.take step) := by
  have clock : world.pool.now ≤ (world.take step).pool.now := (sound.turn step).extends.clock
  have works {ticket : Ticket} {acquisition : Acquisition}
      (called : world.call step = some (ticket, acquisition)) :
      Fits ((world, step) :: past) ticket acquisition.started (world.take step).pool.now := by
    obtain ⟨started, fits⟩ := rests.of_call called
    exact ⟨started, Nat.le_trans fits clock⟩
  constructor
  case future =>
    intro ticket future
    have unborn : world.nextTicket ≤ ticket := by
      cases called : world.call step with
      | none => rwa [(sound.queue_of_quiet called).2.1] at future
      | some => exact Nat.le_trans (lined.lt_nextTicket called).1 future
    rw [slept_of_idle past fun _ called =>
      Nat.not_lt.2 future (lined.lt_nextTicket called).2]
    exact rests.future ticket unborn
  case asleep =>
    intro sleeper sleeps
    rcases sound.sleeper_cases lined sleeps with
      ⟨slept, idle⟩ | ⟨acquisition, called, started, since⟩
    · obtain ⟨fits, before⟩ := rests.asleep sleeper slept
      exact ⟨fits.of_idle idle, Nat.le_trans before clock⟩
    · rw [started, since]
      exact ⟨works called, Nat.le_refl _⟩
  case served =>
    intro service listed
    rw [gather_cons] at listed
    rcases List.mem_append.1 listed with old | new
    · obtain ⟨fits, ended⟩ := rests.served service old
      exact ⟨fits.of_idle fun _ called => ended (pends_of_call called),
        fun pends => ended (sound.pends_of_take lined pends)⟩
    · obtain ⟨acquisition, w, called, granted, since, upTo⟩ := exists_of_mem_services new
      rw [since, upTo]
      exact ⟨works called, lined.not_pends_of_granted called granted⟩

theorem Leads.rests {settings : Settings} {driver : σ}
    (leads : (World.start settings driver).Leads past world) : Rests past world := by
  induction leads with
  | refl => exact ⟨fun _ _ => rfl, by simp [World.start], by simp [gather]⟩
  | step earlier step _ ih =>
    have reachable := earlier.reachable .start
    exact ih.take reachable.sound reachable.lined step

/-! ### Who has returned -/

/-- A call that does not work in a step does not return in it. -/
theorem Sound.pends_take (sound : world.Sound)
    (idle : ∀ acquisition, world.call step ≠ some (ticket, acquisition))
    (pends : Pends ticket world) : Pends ticket (world.take step) := by
  cases called : world.call step with
  | none =>
    obtain ⟨sleepers, next, -⟩ := sound.queue_of_quiet called
    unfold Pends Sleeps
    rwa [sleepers, next]
  | some works =>
    obtain ⟨own, acquisition⟩ := works
    have other : ticket ≠ own := by
      rintro rfl
      exact idle acquisition called
    rcases pends with future | ⟨sleeper, sleeps, same⟩
    · left
      rw [nextTicket_of_call called]
      rcases call_cases called with ⟨who, rfl, rfl, -⟩ | ⟨place, sleeper, rfl, found, -, -⟩
      · exact Nat.lt_of_le_of_ne future other.symm
      · rw [ready_wake found]
        exact future
    · have left := mem_ready_of_ne called sleeps (same ▸ other)
      refine .inr ⟨sleeper, ?_, same⟩
      rcases sleepers_of_call called with ⟨last, -, -, -, queued⟩ | ⟨-, queued⟩
      · rw [queued]
        exact List.mem_append_left _ left
      · rwa [queued]

/-- What a call came to is never forgotten. -/
theorem Sound.finished_subset (sound : world.Sound) (lined : world.Lined) (step : Step σ) :
    world.finished ⊆ (world.take step).finished := by
  cases called : world.call step with
  | none =>
    rw [(sound.queue_of_quiet called).2.2]
    exact List.Subset.refl _
  | some works =>
    obtain ⟨progress, reached⟩ := exists_progress called
    cases lined.reports called reached with
    | granted finished | failed finished =>
      rw [finished]
      exact List.subset_cons_self _ _
    | asleep finished =>
      rw [finished]
      exact List.Subset.refl _

/-- In a step those calls return a handle that are recorded to have done so. -/
theorem Sound.returned_take (sound : world.Sound) (lined : world.Lined) (step : Step σ) :
    ((world.take step).finished.filter (·.2.isOk)).map Prod.fst =
      ((world.services step).map Span.ticket).reverse ++
        (world.finished.filter (·.2.isOk)).map Prod.fst := by
  cases called : world.call step with
  | none =>
    rw [(sound.queue_of_quiet called).2.2, services_of_quiet called]
    rfl
  | some works =>
    obtain ⟨ticket, acquisition⟩ := works
    obtain ⟨progress, reached⟩ := exists_progress called
    unfold services
    rw [called, reached]
    cases lined.reports called reached with
    | granted finished =>
      rw [finished]
      rfl
    | failed finished =>
      rw [finished]
      rfl
    | asleep finished =>
      rw [finished]
      rfl

section

variable {settings : Settings} {driver : σ}
  (leads : (World.start settings driver).Leads past world)

include leads

theorem Leads.returned : (world.finished.filter (·.2.isOk)).map Prod.fst =
    ((gather services past).map Span.ticket).reverse := by
  induction leads with
  | refl => rfl
  | step earlier step _ ih =>
    have reachable := earlier.reachable .start
    rw [reachable.sound.returned_take reachable.lined step, ih, gather_cons, List.map_append,
      List.reverse_append]

/-- A call that has begun and does not sleep has returned. -/
theorem Leads.pends_or_finished (ticket : Ticket) :
    Pends ticket world ∨ ∃ outcome, (ticket, outcome) ∈ world.finished := by
  induction leads with
  | refl => exact .inl (.inl (Nat.zero_le _))
  | @step past world earlier step _ ih =>
    have reachable := earlier.reachable .start
    have sound := reachable.sound
    by_cases works : ∃ acquisition, world.call step = some (ticket, acquisition)
    · obtain ⟨acquisition, called⟩ := works
      obtain ⟨progress, reached⟩ := exists_progress called
      cases reachable.lined.reports called reached with
      | granted finished | failed finished => exact .inr ⟨_, finished ▸ List.mem_cons_self⟩
      | asleep _ sleeps own => exact .inl (.inr ⟨_, sleeps, own⟩)
    · refine ih.imp (sound.pends_take fun acquisition called => works ⟨acquisition, called⟩) ?_
      rintro ⟨outcome, listed⟩
      exact ⟨outcome, sound.finished_subset reachable.lined step listed⟩

/-- No call returns a handle twice. -/
theorem Leads.nodup_services : ((gather services past).map Span.ticket).Nodup := by
  induction leads with
  | refl => exact List.nodup_nil
  | @step past world earlier step _ ih =>
    have ended := earlier.rests.served
    rw [gather_cons, List.map_append, List.nodup_append]
    refine ⟨ih, ?_, ?_⟩
    · unfold services
      split
      · exact List.nodup_singleton _
      · exact List.nodup_nil
    · rintro ticket old other new rfl
      obtain ⟨service, served, rfl⟩ := List.mem_map.1 old
      obtain ⟨again, serves, same⟩ := List.mem_map.1 new
      obtain ⟨acquisition, w, called, -⟩ := exists_of_mem_services serves
      rw [same] at called
      exact (ended service served).2 (pends_of_call called)

/-- As many requests are counted in a run as handles were returned. -/
theorem Leads.requests : world.pool.counters.requests = (gather services past).length := by
  have grants : ∀ past : List (World σ × Step σ),
      tally grants past = (gather services past).length := by
    intro past
    induction past with
    | nil => rfl
    | cons visit past ih =>
      rw [gather_cons, List.length_append, length_services, ← ih]
      rfl
  have books := (leads.books (sound_start settings driver)).requests
  rw [books, grants past]
  exact Nat.zero_add _

/-- No sleep ended before it began. -/
theorem Leads.naps_forward : ∀ nap ∈ gather naps past, nap.since ≤ nap.upTo := by
  induction leads with
  | refl => simp [gather]
  | @step past world earlier step _ ih =>
    intro nap listed
    rw [gather_cons] at listed
    rcases List.mem_append.1 listed with old | new
    · exact ih nap old
    · obtain ⟨place, sleeper, rfl, found, rfl⟩ := exists_of_mem_naps new
      exact (earlier.rests.asleep sleeper (List.mem_of_getElem? found)).2

end

/-! ## The totals of a run -/

/-- The totals of waiting and of requests are those of what happened in the run. -/
structure CountsWaits (past : List (World σ × Step σ)) (world : World σ) : Prop where
  /-- Each call that has slept counts once, however often it slept. It sleeps still, or it has
  returned a handle or an error. -/
  waits : world.pool.counters.waits = (dozers past).card
  fate : ∀ ticket ∈ dozers past,
    Sleeps ticket world ∨ ∃ outcome, (ticket, outcome) ∈ world.finished
  /-- The time of waiting is that of all sleeps that have ended. These are the sleeps that have
  begun, but for those that are under way. -/
  waitTime : world.pool.counters.waitTime = Span.total (gather naps past)
  sleeps : (gather dozes past).Perm
    ((gather naps past).map Span.began ++ world.sleepers.map Sleeper.began)
  /-- A request is counted for each call that has returned a handle, and for no other. -/
  requests : world.pool.counters.requests = (gather services past).length
  returned : (world.finished.filter (·.2.isOk)).map Prod.fst =
    ((gather services past).map Span.ticket).reverse
  once : ((gather services past).map Span.ticket).Nodup
  /-- The time of requests is that of these calls, from the beginning of each to its return. -/
  requestTime : world.pool.counters.requestTime = Span.total (gather services past)
  started : ∀ service ∈ gather services past, Started past service.ticket service.since
  /-- No stretch of time ends before it begins, and a call that has returned a handle has slept
  for no longer than it took. -/
  forward : ∀ span ∈ gather naps past ++ gather services past, span.since ≤ span.upTo
  slept_le : ∀ service ∈ gather services past, slept service.ticket past ≤ service.time
  /-- Where no call waited, there was no time of waiting. -/
  waitTime_of_waits : world.pool.counters.waits = 0 → world.pool.counters.waitTime = 0

/-- In every run, with any number of calls at a time, the totals are exact. -/
theorem countsWaits_of_leads {settings : Settings} {driver : σ}
    (leads : (World.start settings driver).Leads past world) : CountsWaits past world := by
  have bills := leads.bills
  have rests := leads.rests
  have sleeps := leads.perm_sleeps
  have waits : world.pool.counters.waits = (dozers past).card :=
    bills.waits.trans (Nat.zero_add _)
  have waitTime : world.pool.counters.waitTime = Span.total (gather naps past) :=
    bills.waitTime.trans (Nat.zero_add _)
  constructor
  case waits => exact waits
  case fate =>
    intro ticket slept
    rcases leads.pends_or_finished ticket with (future | sleeps) | finished
    · exact absurd (leads.dozers_lt ticket slept) (Nat.not_lt.2 future)
    · exact .inl sleeps
    · exact .inr finished
  case waitTime => exact waitTime
  case sleeps => exact sleeps
  case requests => exact leads.requests
  case returned => exact leads.returned
  case once => exact leads.nodup_services
  case requestTime => exact bills.requestTime.trans (Nat.zero_add _)
  case started => exact fun service served => (rests.served service served).1.started
  case forward =>
    intro span listed
    rcases List.mem_append.1 listed with nap | served
    · exact leads.naps_forward span nap
    · exact Nat.le_trans (Nat.le_add_right _ _) (rests.served span served).1.slept_le
  case slept_le =>
    intro service served
    exact Nat.le_sub_of_add_le' (rests.served service served).1.slept_le
  case waitTime_of_waits =>
    intro none
    rw [waits, Finset.card_eq_zero, dozers, List.toFinset_eq_empty_iff, List.map_eq_nil_iff] at none
    rw [none] at sleeps
    have ended := (List.append_eq_nil_iff.1 sleeps.nil_eq.symm).1
    rw [waitTime, List.map_eq_nil_iff.1 ended]
    rfl

/-- Two calls sleep while both connections are out. One of them wakes in vain, sleeps again and
gets the connection that is given back, after 5 moments. The other one sleeps once, and learns
after 7 moments that the pool was closed. -/
def sleepySteps : List (Step Simulation.State) :=
  [.act (.acquire none), .act (.acquire none), .act (.acquire none), .act (.elapse 2),
    .act (.acquire none), .act (.elapse 4), .wake 0, .act (.elapse 5), .act (.drop 0), .wake 1,
    .act .shutDown, .act (.elapse 9), .wake 0]

/-- The two sleeping calls of `sleepySteps` count as having waited, each once, for all three
sleeps together. -/
theorem countsWaits_sleepy : ∃ world,
    (World.start tightSettings {}).follow sleepySteps = some world ∧
    world.pool.counters.waits = 2 ∧ world.pool.counters.waitTime = 12 ∧
    world.pool.counters.requests = 3 ∧ world.pool.counters.requestTime = 5 ∧
    gather naps ((World.start tightSettings {}).trail sleepySteps []) =
      [{ ticket := 2, since := 0, upTo := 4 }, { ticket := 2, since := 4, upTo := 5 },
        { ticket := 3, since := 2, upTo := 9 }] ∧
    CountsWaits ((World.start tightSettings {}).trail sleepySteps []) world := by
  have run : ((World.start tightSettings ({} : Simulation.State)).follow sleepySteps).map
      (fun world => (world.pool.counters.waits, world.pool.counters.waitTime,
        world.pool.counters.requests, world.pool.counters.requestTime)) =
      some (2, 12, 3, 5) := by decide +kernel
  obtain ⟨world, found, seen⟩ := Option.map_eq_some_iff.1 run
  simp only [Prod.mk.injEq] at seen
  exact ⟨world, found, seen.1, seen.2.1, seen.2.2.1, seen.2.2.2, by decide +kernel,
    countsWaits_of_leads (Leads.refl.follow found)⟩

end World

end ConnectionPooling
