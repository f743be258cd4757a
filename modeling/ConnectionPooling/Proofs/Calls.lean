/-
# One call of a pool

A call for a connection works in those steps of a run in which it has the pool to itself:
in the step in which it begins, and in each step in which it wakes after it slept. This
module gives such a step its parts. `call` says which call works and how far it got before,
`ready` is the world when it has taken the pool, and `parted` is the pool when it lets go of
it again, before anything that the step may do to a pool that nobody can reach.

What the call comes to in the step is kept outside the pool, and `Reports` says where. The
module does not claim anything about what a call does to the pool.
-/

import ConnectionPooling.Proofs.Stays
import ConnectionPooling.Proofs.Queue

namespace ConnectionPooling

variable {σ : Type}

namespace World

/-! ## The parts of a step -/

/-- The call that works in a step, with what is known of it when it takes the pool. -/
def call (step : Step σ) (world : World σ) : Option (Ticket × Acquisition) :=
  match step with
  | .act (.acquire who) =>
      some (world.nextTicket,
        { who := who.getD world.settings.source.who, started := world.pool.now })
  | .wake place => world.sleepers[place]?.map fun sleeper => (sleeper.ticket, sleeper.acquisition)
  | _ => none

/-- The world when the call that works in a step has taken the pool: a new call has its
ticket, and a sleeper has left the queue. -/
def ready (step : Step σ) (world : World σ) : World σ :=
  match step with
  | .act (.acquire _) => { world with nextTicket := world.nextTicket + 1 }
  | .wake place => world.sleepers[place]?.elim world fun sleeper => world.roused place sleeper
  | _ => world

section

variable {step : Step σ} {world : World σ} {ticket : Ticket} {acquisition : Acquisition}

/-- A step in which a call works is its beginning, or the waking of a sleeper. -/
theorem call_cases (called : world.call step = some (ticket, acquisition)) :
    (∃ who, step = .act (.acquire who) ∧ ticket = world.nextTicket ∧
      acquisition =
        { who := who.getD world.settings.source.who, started := world.pool.now }) ∨
    ∃ place sleeper, step = .wake place ∧ world.sleepers[place]? = some sleeper ∧
      sleeper.ticket = ticket ∧ sleeper.acquisition = acquisition := by
  cases step with
  | wake place =>
    obtain ⟨sleeper, found, same⟩ := Option.map_eq_some_iff.1 called
    cases same
    exact .inr ⟨place, sleeper, rfl, found, rfl, rfl⟩
  | act action =>
    cases action with
    | acquire who =>
      cases called
      exact .inl ⟨who, rfl, rfl, rfl⟩
    | _ => cases called

theorem asks_of_call (called : world.call step = some (ticket, acquisition)) :
    world.asks step = some acquisition.who := by
  rcases call_cases called with ⟨who, rfl, -, rfl⟩ | ⟨place, sleeper, rfl, found, -, rfl⟩
  · rfl
  · rw [asks, found, Option.map_some]

/-- Who asks for a connection is a call. -/
theorem exists_call {who : Credentials} (asks : world.asks step = some who) :
    ∃ ticket acquisition, world.call step = some (ticket, acquisition) ∧
      acquisition.who = who := by
  cases step with
  | wake place =>
    obtain ⟨sleeper, found, rfl⟩ := Option.map_eq_some_iff.1 asks
    refine ⟨sleeper.ticket, sleeper.acquisition, ?_, rfl⟩
    rw [call, found, Option.map_some]
  | act action =>
    cases action with
    | acquire asked =>
      cases asks
      exact ⟨_, _, rfl, rfl⟩
    | _ => cases asks

theorem asks_of_quiet (quiet : world.call step = none) : world.asks step = none := by
  rw [Option.eq_none_iff_forall_ne_some]
  intro who asks
  obtain ⟨ticket, acquisition, called, -⟩ := exists_call asks
  rw [quiet] at called
  cases called

theorem ready_wake {place : Nat} {sleeper : Sleeper}
    (found : world.sleepers[place]? = some sleeper) :
    world.ready (.wake place) = world.roused place sleeper := by
  rw [ready, found, Option.elim_some]

/-- Taking the pool changes nothing about it but the time that callers waited. -/
theorem ready_frame (step : Step σ) (world : World σ) :
    (∃ slept, (world.ready step).pool = waitedFor slept world.pool) ∧
      (world.ready step).settings = world.settings ∧
      (world.ready step).handles = world.handles ∧
      (world.ready step).finished = world.finished := by
  have idle : world.pool = waitedFor 0 world.pool := rfl
  unfold ready
  split
  · exact ⟨⟨0, idle⟩, rfl, rfl, rfl⟩
  · rename_i place
    cases world.sleepers[place]? with
    | none => exact ⟨⟨0, idle⟩, rfl, rfl, rfl⟩
    | some sleeper => exact ⟨⟨_, rfl⟩, rfl, rfl, rfl⟩
  · exact ⟨⟨0, idle⟩, rfl, rfl, rfl⟩

theorem Orderly.ready {world : World σ} (orderly : world.Orderly) (step : Step σ) :
    (world.ready step).Orderly := by
  obtain ⟨⟨slept, pool⟩, settings, handles, -⟩ := ready_frame step world
  have waited := orderly.keep (world.pool.keeps_count fun c =>
    { c with waitTime := c.waitTime + slept })
  exact waited.congr settings pool handles

/-- A call that has taken the pool does not sleep. -/
theorem Lined.awake_ready (lined : world.Lined)
    (called : world.call step = some (ticket, acquisition)) :
    ∀ sleeper ∈ (world.ready step).sleepers, sleeper.ticket ≠ ticket := by
  intro sleeper sleeps
  rcases call_cases called with ⟨who, rfl, rfl, -⟩ | ⟨place, own, rfl, found, rfl, -⟩
  · exact Nat.ne_of_lt (lined.started sleeper sleeps)
  · rw [ready_wake found] at sleeps
    exact fun twice => (lined.roused found).2 (List.mem_map.2 ⟨sleeper, sleeps, twice⟩)

/-- Taking the pool wakes nobody but the call itself. -/
theorem mem_ready_of_ne (called : world.call step = some (ticket, acquisition))
    {sleeper : Sleeper} (sleeps : sleeper ∈ world.sleepers) (other : sleeper.ticket ≠ ticket) :
    sleeper ∈ (world.ready step).sleepers := by
  rcases call_cases called with ⟨who, rfl, -, -⟩ | ⟨place, own, rfl, found, rfl, -⟩
  · exact sleeps
  · rw [ready_wake found]
    rcases List.mem_cons.1 ((perm_eraseIdx found).mem_iff.1 sleeps) with rfl | left
    · exact absurd rfl other
    · exact left

theorem mem_of_mem_ready (called : world.call step = some (ticket, acquisition))
    {sleeper : Sleeper} (sleeps : sleeper ∈ (world.ready step).sleepers) :
    sleeper ∈ world.sleepers := by
  rcases call_cases called with ⟨who, rfl, -, -⟩ | ⟨place, own, rfl, found, -, -⟩
  · exact sleeps
  · rw [ready_wake found] at sleeps
    exact List.mem_of_mem_eraseIdx sleeps

end

variable [Driver σ]

/-- The pool when the call that works in a step lets go of it: it returns then, or it falls
asleep. -/
def parted (step : Step σ) (world : World σ) : Pool σ :=
  (world.call step).elim world.pool fun call =>
    ((world.ready step).pool.acquire world.settings call.2).2

section

variable {step : Step σ} {world : World σ} {ticket : Ticket} {acquisition : Acquisition}

theorem parted_of_call (called : world.call step = some (ticket, acquisition)) :
    world.parted step =
      ((world.ready step).pool.acquire world.settings acquisition).2 := by
  rw [parted, called, Option.elim_some]

theorem progress_of_call (called : world.call step = some (ticket, acquisition)) :
    world.progress step =
      some ((world.ready step).pool.acquire world.settings acquisition).1 := by
  rcases call_cases called with ⟨who, rfl, -, rfl⟩ | ⟨place, sleeper, rfl, found, -, rfl⟩
  · rfl
  · rw [progress, ready_wake found, found, Option.map_some]

theorem exists_progress (called : world.call step = some (ticket, acquisition)) :
    ∃ progress, world.progress step = some progress :=
  ⟨_, progress_of_call called⟩

theorem searches_of_call (called : world.call step = some (ticket, acquisition)) :
    world.searches step =
      (world.ready step).pool.lookups world.settings acquisition := by
  rcases call_cases called with ⟨who, rfl, -, rfl⟩ | ⟨place, sleeper, rfl, found, -, rfl⟩
  · rfl
  · rw [searches, ready_wake found, found]
    rfl

/-- Where something is made of an acquisition, there is a call. -/
theorem exists_call_of_progress {progress : Progress}
    (reached : world.progress step = some progress) :
    ∃ ticket acquisition, world.call step = some (ticket, acquisition) := by
  cases asks : world.asks step with
  | none =>
    rw [progress_of_quiet asks] at reached
    cases reached
  | some who =>
    obtain ⟨ticket, acquisition, called, -⟩ := exists_call asks
    exact ⟨ticket, acquisition, called⟩

/-- The step goes on from there with the call, after which the pool may be given up. -/
theorem take_of_call (called : world.call step = some (ticket, acquisition)) :
    world.take step = (world.ready step).proceed ticket acquisition ∨
      world.take step = ((world.ready step).proceed ticket acquisition).tearDown := by
  rcases call_cases called with ⟨who, rfl, rfl, rfl⟩ | ⟨place, sleeper, rfl, found, rfl, rfl⟩
  · left
    exact acquire_eq (who.getD world.settings.source.who) world
  · right
    rw [ready_wake found]
    exact wakeAt_eq found

/-- The pool after the step is the one that the call lets go of, unless it is given up. -/
theorem pool_take_of_call (called : world.call step = some (ticket, acquisition)) :
    (world.take step).pool = world.parted step ∨ ((world.take step).isAbandoned = true ∧
      (world.take step).pool = (world.parted step).forceCloseAll world.settings.source) := by
  have settings := (ready_frame step world).2.1
  obtain ⟨pool, same⟩ := (world.ready step).proceed_frame ticket acquisition
  rw [settings, ← parted_of_call called] at pool
  rcases take_of_call called with taken | taken
  · exact .inl ((congrArg World.pool taken).trans pool)
  · have ended := ((world.ready step).proceed ticket acquisition).tearDown_pool
    rwa [pool, same, settings, ← taken] at ended

/-! ## What becomes of the call -/

/-- What is known of a call outside the pool after a step in which it worked. A call that
has come to an end does not sleep. -/
inductive Reports (ticket : Ticket) (world after : World σ) : Progress → Prop
  /-- It has returned a handle. -/
  | granted {w : WrapperId}
      (finished : after.finished = (ticket, .ok world.handles.size) :: world.finished)
      (awake : ∀ sleeper ∈ after.sleepers, sleeper.ticket ≠ ticket) :
      Reports ticket world after (.granted w)
  /-- It has returned an error. -/
  | failed {error : PoolError}
      (finished : after.finished = (ticket, .error error) :: world.finished)
      (awake : ∀ sleeper ∈ after.sleepers, sleeper.ticket ≠ ticket) :
      Reports ticket world after (.failed error)
  /-- It sleeps, and it has not returned. -/
  | asleep {again : Acquisition} {sleeper : Sleeper} (finished : after.finished = world.finished)
      (sleeps : sleeper ∈ after.sleepers) (own : sleeper.ticket = ticket)
      (goesOn : sleeper.acquisition = again) :
      Reports ticket world after (.asleep again)

omit [Driver σ] in
theorem reports_record {ready : World σ} (finished : ready.finished = world.finished)
    (handles : ready.handles = world.handles)
    (awake : ∀ sleeper ∈ ready.sleepers, sleeper.ticket ≠ ticket) (progress : Progress) :
    Reports ticket world (ready.record ticket progress) progress := by
  cases progress with
  | granted w =>
    refine .granted ?_ awake
    rw [← finished, ← handles]
    rfl
  | failed error =>
    refine .failed ?_ awake
    rw [← finished]
    rfl
  | asleep again =>
    refine .asleep finished (List.mem_append_right _ List.mem_cons_self) ?_ ?_
    · rfl
    · rfl

omit [Driver σ] in
/-- It is on record that a call has failed exactly if it has. -/
theorem Reports.failed_iff {after : World σ} {progress : Progress}
    (reports : Reports ticket world after progress) (error : PoolError) :
    after.finished = (ticket, .error error) :: world.finished ↔ progress = .failed error := by
  cases reports with
  | granted finished => simp [finished]
  | failed finished => simp [finished]
  | asleep finished => simp [finished]

/-- The call sleeps. -/
def Sleeps (ticket : Ticket) (world : World σ) : Prop :=
  ∃ sleeper ∈ world.sleepers, sleeper.ticket = ticket

omit [Driver σ] in
theorem Reports.sleeps_iff {after : World σ} {progress : Progress}
    (reports : Reports ticket world after progress) :
    Sleeps ticket after ↔ ∃ again, progress = .asleep again := by
  cases reports with
  | granted _ awake | failed _ awake =>
    constructor
    · rintro ⟨sleeper, listed, own⟩
      exact absurd own (awake sleeper listed)
    · rintro ⟨again, ⟨⟩⟩
  | @asleep again sleeper _ listed own =>
    exact ⟨fun _ => ⟨again, rfl⟩, fun _ => ⟨sleeper, listed, own⟩⟩

omit [Driver σ] in
/-- A call that does not fall asleep has returned. -/
theorem Reports.returned {after : World σ} {progress : Progress}
    (reports : Reports ticket world after progress) (awake : ∀ again, progress ≠ .asleep again) :
    ∃ outcome, after.finished = (ticket, outcome) :: world.finished := by
  cases reports with
  | granted finished => exact ⟨_, finished⟩
  | failed finished => exact ⟨_, finished⟩
  | @asleep again => exact absurd rfl (awake again)

theorem Reports.tearDown {after : World σ} {progress : Progress}
    (reports : Reports ticket world after progress) :
    Reports ticket world after.tearDown progress := by
  obtain ⟨sleepers, -, finished⟩ := after.tearDown_queue
  cases reports with
  | granted gone awake => exact .granted (finished.trans gone) (sleepers ▸ awake)
  | failed gone awake => exact .failed (finished.trans gone) (sleepers ▸ awake)
  | asleep same sleeps own goesOn =>
    exact .asleep (finished.trans same) (sleepers ▸ sleeps) own goesOn

/-- After a step in which a call worked, it is known what it came to. -/
theorem Lined.reports (lined : world.Lined)
    (called : world.call step = some (ticket, acquisition)) {progress : Progress}
    (reached : world.progress step = some progress) :
    Reports ticket world (world.take step) progress := by
  obtain ⟨-, settings, handles, finished⟩ := ready_frame step world
  rw [progress_of_call called, ← settings] at reached
  cases reached
  have awake := lined.awake_ready called
  have reports : Reports ticket world ((world.ready step).proceed ticket acquisition)
      ((world.ready step).pool.acquire (world.ready step).settings acquisition).1 := by
    unfold World.proceed
    apply reports_record
    · exact finished
    · exact handles
    · exact awake
  rcases take_of_call called with taken | taken
  · rw [taken]
    exact reports
  · rw [taken]
    exact reports.tearDown

/-- A call that worked in a step sleeps after it exactly if it fell asleep. -/
theorem Lined.sleeps_iff (lined : world.Lined)
    (called : world.call step = some (ticket, acquisition)) :
    Sleeps ticket (world.take step) ↔ ∃ again, world.progress step = some (.asleep again) := by
  have reports := lined.reports called (progress_of_call called)
  rw [reports.sleeps_iff, progress_of_call called]
  simp only [Option.some.injEq]

/-- Whoever sleeps after the step slept before, or it is the call that worked. -/
theorem mem_sleepers_of_call (called : world.call step = some (ticket, acquisition))
    {sleeper : Sleeper} (sleeps : sleeper ∈ (world.take step).sleepers) :
    sleeper ∈ world.sleepers ∨
      (sleeper.ticket = ticket ∧ world.progress step = some (.asleep sleeper.acquisition)) := by
  have settings := (ready_frame step world).2.1
  have recorded : sleeper ∈ ((world.ready step).proceed ticket acquisition).sleepers := by
    rcases take_of_call called with taken | taken
    · rwa [taken] at sleeps
    · rwa [taken, (tearDown_queue _).1] at sleeps
  rw [progress_of_call called, ← settings]
  unfold World.proceed at recorded
  cases reached : ((world.ready step).pool.acquire (world.ready step).settings acquisition).1 with
  | granted w =>
    rw [reached] at recorded
    exact .inl (mem_of_mem_ready called recorded)
  | failed error =>
    rw [reached] at recorded
    exact .inl (mem_of_mem_ready called recorded)
  | asleep again =>
    rw [reached] at recorded
    rcases List.mem_append.1 recorded with old | new
    · exact .inl (mem_of_mem_ready called old)
    · cases List.mem_singleton.1 new
      exact .inr ⟨rfl, rfl⟩

/-- Where no call works, the queue stays as it is. -/
theorem Sound.queue_of_quiet (sound : world.Sound) (quiet : world.call step = none) :
    (world.take step).sleepers = world.sleepers ∧
      (world.take step).nextTicket = world.nextTicket ∧
      (world.take step).finished = world.finished := by
  cases sound.queues step with
  | same _ sleepers next finished => exact ⟨sleepers, next, finished⟩
  | begun begins =>
    subst begins
    cases quiet
  | woken wakes found =>
    subst wakes
    rw [call, found] at quiet
    cases quiet

/-- A call takes its ticket when it begins. -/
theorem nextTicket_of_call (called : world.call step = some (ticket, acquisition)) :
    (world.take step).nextTicket = (world.ready step).nextTicket := by
  rcases take_of_call called with taken | taken
  · rw [taken, proceed_nextTicket]
  · rw [taken, (tearDown_queue _).2.1, proceed_nextTicket]

/-- A call that works has its ticket after the step. -/
theorem Lined.lt_nextTicket (lined : world.Lined)
    (called : world.call step = some (ticket, acquisition)) :
    world.nextTicket ≤ (world.take step).nextTicket ∧ ticket < (world.take step).nextTicket := by
  rw [nextTicket_of_call called]
  rcases call_cases called with ⟨who, rfl, rfl, -⟩ | ⟨place, own, rfl, found, rfl, -⟩
  · exact ⟨Nat.le_succ _, Nat.lt_succ_self _⟩
  · rw [ready_wake found]
    exact ⟨Nat.le_refl _, lined.started own (List.mem_of_getElem? found)⟩

/-! ## Calls that have not returned -/

/-- The call has not returned: it sleeps, or it has not begun. -/
def Pends (ticket : Ticket) (world : World σ) : Prop :=
  world.nextTicket ≤ ticket ∨ Sleeps ticket world

omit [Driver σ] in
theorem pends_of_call (called : world.call step = some (ticket, acquisition)) :
    Pends ticket world := by
  rcases call_cases called with ⟨-, -, rfl, -⟩ | ⟨_, own, -, found, same, -⟩
  · exact .inl (Nat.le_refl _)
  · exact .inr ⟨own, List.mem_of_getElem? found, same⟩

/-- Whatever is done in a step, a call that has returned stays so. -/
theorem Sound.pends_of_take (sound : world.Sound) (lined : world.Lined)
    (pends : Pends ticket (world.take step)) : Pends ticket world := by
  cases called : world.call step with
  | none =>
    obtain ⟨sleepers, next, -⟩ := sound.queue_of_quiet called
    unfold Pends Sleeps at pends
    rwa [sleepers, next] at pends
  | some works =>
    obtain ⟨own, acquisition⟩ := works
    rcases pends with future | ⟨sleeper, sleeps, same⟩
    · exact .inl (Nat.le_trans (lined.lt_nextTicket called).1 future)
    · rcases mem_sleepers_of_call called sleeps with slept | ⟨works, -⟩
      · exact .inr ⟨sleeper, slept, same⟩
      · rw [← same, works]
        exact pends_of_call called

/-- A call that worked and has not returned sleeps. -/
theorem Lined.asleep_of_pends (lined : world.Lined)
    (called : world.call step = some (ticket, acquisition))
    (pends : Pends ticket (world.take step)) :
    ∃ again, world.progress step = some (.asleep again) := by
  rcases pends with future | sleeps
  · exact absurd (lined.lt_nextTicket called).2 (Nat.not_lt.2 future)
  · exact (lined.sleeps_iff called).1 sleeps

/-- Where the pool is not given up, it is after the step as the call lets go of it. -/
theorem parted_of_stays (called : world.call step = some (ticket, acquisition))
    (stays : ((world.ready step).proceed ticket acquisition).tearDown =
      (world.ready step).proceed ticket acquisition) :
    (world.take step).pool = world.parted step := by
  have settings := (ready_frame step world).2.1
  rw [parted_of_call called, ← settings, ← (proceed_frame ticket acquisition _).1]
  rcases take_of_call called with taken | taken
  · rw [taken]
  · rw [taken, stays]

/-- While somebody sleeps, the pool is not given up. -/
theorem parted_of_asleep {again : Acquisition}
    (asleep : world.progress step = some (.asleep again)) :
    (world.take step).pool = world.parted step := by
  obtain ⟨ticket, acquisition, called⟩ := exists_call_of_progress asleep
  rw [progress_of_call called, ← (ready_frame step world).2.1] at asleep
  apply parted_of_stays called
  apply tearDown_of_sleepers
  unfold World.proceed
  rw [Option.some.inj asleep]
  exact List.append_ne_nil_of_right_ne_nil _ (List.cons_ne_nil _ _)

/-- A call that returns a handle leaves the pool as it let go of it, because somebody has that
handle and the pool is not given up. -/
theorem parted_of_granted {w : WrapperId} (granted : world.progress step = some (.granted w)) :
    (world.take step).pool = world.parted step := by
  obtain ⟨ticket, acquisition, called⟩ := exists_call_of_progress granted
  rw [progress_of_call called, ← (ready_frame step world).2.1] at granted
  apply parted_of_stays called
  apply tearDown_of_reached
  unfold World.proceed
  rw [Option.some.inj granted]
  exact isAbandoned_of_handle Array.getElem?_push_size Stage.noConfusion

end

end World

end ConnectionPooling
