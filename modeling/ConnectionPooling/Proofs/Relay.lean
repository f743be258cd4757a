/-
# Passing connections on

Nobody sleeps beside an idle connection once a step is completed. A connection becomes
idle only when it is given back, and then one sleeper is notified; whoever wakes first,
every acquisition begins by taking what has been idle longest, so that nothing is idle any
more when the first sleeper has gone on. `Serving` is the invariant while sleepers go on:
beside a sleeper one connection may be idle, but then somebody is called.

Where the sleeper in front is the one who is notified, a connection that is given back and
becomes idle goes to that sleeper, and to nobody else.
-/

import ConnectionPooling.Proofs.Closing
import ConnectionPooling.Proofs.Handover

namespace ConnectionPooling

variable {σ : Type} [Driver σ]

namespace Pool

/-! ## What an acquisition takes first -/

/-- A search takes the connection that has been idle longest, if one is idle. -/
theorem Finds.idle_eq {settings : Settings} {who : Credentials} {pool after : Pool σ}
    {result : Except PoolError Candidate} (finds : Finds settings who pool result after) :
    after.idle = pool.idle.tail := by
  have same (none : pool.idle = []) : pool.idle = pool.idle.tail := by
    rw [none, List.tail_nil]
  cases finds with
  | idle idle =>
    rw [idle]
    rfl
  | opened idle | refused idle | noCapacity idle | mustWait idle | claimed idle => exact same idle

/-- An acquisition takes at least the connection that has been idle longest. -/
theorem Acquires.idle_suffix {settings : Settings} {acquisition : Acquisition} {budget : Nat}
    {pool after : Pool σ} {progress : Progress}
    (acquires : Acquires settings acquisition budget pool progress after)
    (owns : pool.Owns []) : after.idle <:+ pool.idle.tail := by
  cases acquires with
  | failed search => exact (owns.search search).idle_eq ▸ List.suffix_rfl
  | @asleep _ _ _ found search =>
    rw [← (owns.search search).idle_eq]
    exact (draws_fallAsleep settings.policy acquisition found).idle
  | granted search vet =>
    have finds := owns.search search
    rw [← finds.idle_eq, ← ((finds.owns owns).vet vet).idle]
    exact List.suffix_rfl
  | gaveUp search vet =>
    have finds := owns.search search
    rw [← finds.idle_eq, ← ((finds.owns owns).vet vet).idle]
    exact List.suffix_rfl
  | again search vet rest =>
    have finds := owns.search search
    rw [← finds.idle_eq, ← ((finds.owns owns).vet vet).idle]
    exact (rest.leaves (owns.reject search vet).1).idle

/-- Where at most one connection is idle, none is left after an acquisition. -/
theorem Owns.acquire_idle {pool : Pool σ} (owns : pool.Owns [])
    (isOver : pool.closed = true → pool.Over) (few : pool.idle.length ≤ 1) (settings : Settings)
    (acquisition : Acquisition) : (pool.acquire settings acquisition).2.idle = [] := by
  rcases acquire_cases settings acquisition pool with ⟨closed, refused⟩ | ⟨-, acquires⟩
  · rw [refused]
    exact (isOver closed).idle
  · have none : pool.idle.tail = [] := by
      rw [← List.length_eq_zero_iff, List.length_tail]
      omega
    exact List.suffix_nil.1 (none ▸ acquires.idle_suffix owns)

theorem Move.closed {errand : Errand σ} {pool after : Pool σ} (move : Move errand pool after) :
    after.closed = pool.closed := by
  cases move <;> rfl

theorem Moves.closed {errand : Errand σ} {pool after : Pool σ}
    (moves : Moves errand pool after) : after.closed = pool.closed := by
  induction moves with
  | refl => rfl
  | tail _ move ih => exact move.closed.trans ih

end Pool

namespace World

/-- A closed pool lists nothing, whatever the next step is. -/
theorem Sound.over_take {world : World σ} (sound : world.Sound)
    (isOver : world.pool.closed = true → world.pool.Over) (step : Step σ)
    (closed : (world.take step).pool.closed = true) : (world.take step).pool.Over := by
  cases sound.turn step with
  | moved moves =>
    have before := isOver (moves.closed ▸ closed)
    exact before.rest (sound.rests_take before step)
  | drained _ drains => exact ⟨closed, drains.idle, drains.active⟩

/-! ## While sleepers go on -/

omit [Driver σ] in
/-- Nothing is idle beside a sleeper, but for one connection that is left for one of those
called. -/
def Attends (called : List Ticket) (world : World σ) : Prop :=
  world.sleepers = [] ∨ world.pool.idle = [] ∨
    (world.pool.idle.length ≤ 1 ∧ ∃ sleeper ∈ world.sleepers, sleeper.ticket ∈ called)

omit [Driver σ] in
/-- The invariant while sleepers go on. -/
structure Serving (called : List Ticket) (world : World σ) : Prop extends Sound world where
  isOver : world.pool.closed = true → world.pool.Over
  attends : world.Attends called

omit [Driver σ] in
/-- Where nobody is called, nothing is idle beside a sleeper. -/
theorem Serving.idle_eq_nil {world : World σ} (serving : world.Serving [])
    (asleep : world.sleepers ≠ []) : world.pool.idle = [] := by
  rcases serving.attends with none | none | ⟨-, sleeper, -, called⟩
  · exact absurd none asleep
  · exact none
  · exact absurd called List.not_mem_nil

omit [Driver σ] in
theorem Serving.few {called : List Ticket} {world : World σ} (serving : world.Serving called)
    (asleep : world.sleepers ≠ []) : world.pool.idle.length ≤ 1 := by
  rcases serving.attends with none | none | ⟨few, -⟩
  · exact absurd none asleep
  · simp [none]
  · exact few

/-- Ending an abandoned pool leaves nothing idle that was not so before. -/
theorem tearDown_idle {world : World σ} (orderly : world.Orderly) (none : world.pool.idle = []) :
    world.tearDown.pool.idle = [] := by
  rcases orderly.tearDown_cases with same | ⟨-, pool, drains, ended⟩
  · rw [same]
    exact none
  · rw [ended]
    exact drains.idle

/-- When a sleeper has gone on, nothing is idle. -/
theorem Serving.wakeAt_idle {called : List Ticket} {world : World σ}
    (serving : world.Serving called) {place : Nat} {sleeper : Sleeper}
    (found : world.sleepers[place]? = some sleeper) : (world.wakeAt place).pool.idle = [] := by
  have asleep : world.sleepers ≠ [] := by
    intro none
    simp [none] at found
  have woken := serving.toOrderly.roused place sleeper
  rw [wakeAt_eq found]
  apply tearDown_idle (woken.proceed _ _)
  rw [(proceed_frame sleeper.ticket sleeper.acquisition (world.roused place sleeper)).1]
  apply woken.owns.acquire_idle _ (serving.few asleep)
  intro closed
  have isOver := serving.isOver closed
  exact ⟨isOver.closed, isOver.idle, isOver.active⟩

theorem Serving.wakeAt {called later : List Ticket} {world : World σ}
    (serving : world.Serving called) {place : Nat} {sleeper : Sleeper}
    (found : world.sleepers[place]? = some sleeper) : (world.wakeAt place).Serving later where
  toSound := serving.toSound.wakeAt place
  isOver := serving.toSound.over_take serving.isOver (.wake place)
  attends := .inr (.inl (serving.wakeAt_idle found))

theorem Serving.elapse {called : List Ticket} {world : World σ} (serving : world.Serving called)
    (target : Instant) : (world.advanceTo target).Serving called where
  toSound := serving.toSound.keep (world.pool.keeps_talk (Environment.talks_elapse target _))
  isOver := serving.toSound.over_take serving.isOver (.act (.elapse target))
  attends := serving.attends

/-- When all who were called have gone on, nobody who sleeps is called. -/
theorem Settles.serving {called : List Ticket} {world after : World σ}
    (settles : Settles called world after) (serving : world.Serving called) :
    after.Serving [] := by
  induction settles with
  | @done called world quiet =>
    refine ⟨serving.toSound, serving.isOver, ?_⟩
    rcases serving.attends with none | none | ⟨-, sleeper, asleep, isCalled⟩
    · exact .inl none
    · exact .inr (.inl none)
    · exact absurd isCalled (quiet sleeper asleep).1
  | pass target _ ih => exact ih (serving.elapse target)
  | wake found _ ih => exact ih (serving.wakeAt found)

/-! ## What somebody does -/

/-- How giving a handle back may fill the idle queue: the connection that the handle stood
for has joined it in the next wrapper. -/
theorem Orderly.giveBack_idle {world : World σ} (orderly : world.Orderly) (h : HandleId)
    (stage : Stage) :
    (world.giveBack h stage).2.pool.idle = world.pool.idle ∨
      ∃ conn, world.reach h = some conn ∧ (world.giveBack h stage).1 = .one ∧
        (world.giveBack h stage).2.pool.idle =
          world.pool.idle ++ [world.pool.wrappers.size] ∧
        (world.giveBack h stage).2.pool.slot world.pool.wrappers.size = some conn := by
  unfold World.giveBack
  cases found : world.handles[h]? with
  | none => exact .inl rfl
  | some handle =>
    dsimp only
    by_cases held : handle.stage = .held
    · rw [if_pos held]
      rcases orderly.owns.release_cases world.settings.policy handle.wrapper with
        ⟨-, refused⟩ | ⟨-, returns⟩
      · left
        dsimp only
        rw [refused]
        rfl
      · dsimp only
        generalize world.pool.release world.settings.policy handle.wrapper = released at returns ⊢
        cases returns with
        | closed => exact .inl rfl
        | @kept _ old conn _ _ holds =>
          refine .inr ⟨conn, ?_, rfl, rfl, ?_⟩
          · have before : world.pool.Holds handle.wrapper old conn :=
              ⟨holds.found, holds.valid, holds.held⟩
            exact reach_eq_some.2
              ⟨_, checkout_eq_some.2 ⟨handle, found, held, rfl⟩, before.reach⟩
          · exact (Pool.slot_renew _ _ _ old conn).trans (if_pos rfl)
    · rw [if_neg held]
      exact .inl rfl

/-- The one connection that may become idle when a handle is given back is left for the
sleeper that is notified. -/
theorem Serving.attends_giveBack {called : List Ticket} {world : World σ}
    (serving : world.Serving []) (h : HandleId) (stage : Stage)
    (calls : (world.giveBack h stage).1.Calls (world.giveBack h stage).2.sleepers called) :
    (world.giveBack h stage).2.Attends called := by
  obtain ⟨sleepers, -⟩ := serving.toOrderly.giveBack_cases h stage
  by_cases awake : world.sleepers = []
  · exact .inl (sleepers.trans awake)
  · have none := serving.idle_eq_nil awake
    rcases serving.toOrderly.giveBack_idle h stage with same | ⟨conn, -, one, joined, -⟩
    · exact .inr (.inl (same.trans none))
    · rw [one] at calls
      rcases calls with ⟨empty, -⟩ | ⟨sleeper, asleep, rfl⟩
      · exact .inl empty
      · refine .inr (.inr ⟨?_, sleeper, asleep, List.mem_singleton_self _⟩)
        rw [joined, none]
        exact Nat.le_refl 1

theorem Serving.attends_acquire {called : List Ticket} {world : World σ}
    (serving : world.Serving []) (who : Option Credentials) :
    (world.take (.act (.acquire who))).Attends called := by
  have orderly := serving.toOrderly
  cases serving.toSound.queues (.act (.acquire who)) with
  | same quiet => cases quiet
  | woken wakes => cases wakes
  | begun _ _ _ _ goesOn =>
    cases goesOn with
    | asleep _ _ _ _ _ _ idle => exact .inr (.inl idle)
    | ended sleepers =>
      by_cases awake : world.sleepers = []
      · exact .inl (sleepers.trans awake)
      · have none := serving.idle_eq_nil awake
        refine .inr (.inl ?_)
        show (world.acquire (who.getD world.settings.source.who)).2.pool.idle = []
        rw [acquire_eq, (proceed_frame _ _ _).1]
        exact orderly.owns.acquire_idle serving.isOver (by simp [none]) _ _

/-- Whatever somebody does while nothing is idle beside a sleeper, at most one connection
is idle beside a sleeper then, and it is left for one of those called. -/
theorem Serving.attends_act {called : List Ticket} {world : World σ}
    (serving : world.Serving []) {action : Action σ}
    (calls : (world.act action).1.Calls (world.act action).2.sleepers called) :
    (world.act action).2.Attends called := by
  have orderly := serving.toOrderly
  have still : world.sleepers = [] ∨ world.pool.idle = [] := by
    by_cases awake : world.sleepers = []
    · exact .inl awake
    · exact .inr (serving.idle_eq_nil awake)
  have kept {after : World σ} (sleepers : after.sleepers = world.sleepers)
      (idle : after.pool.idle = world.pool.idle) : after.Attends called :=
    still.imp sleepers.trans fun none => .inl (idle.trans none)
  cases action with
  | acquire who => exact serving.attends_acquire who
  | request h request =>
    change (world.request h request).2.1.Calls (world.request h request).2.2.sleepers called
      at calls
    show (world.request h request).2.2.Attends called
    rcases world.request_cases h request with ⟨-, closed⟩ | ⟨pool, keeps, after⟩
    · rw [closed] at calls ⊢
      exact serving.attends_giveBack h .closed calls
    · rw [after]
      exact kept rfl keeps.idle
  | converse h dialogue =>
    obtain ⟨pool, keeps, after⟩ := world.exists_withConnection h dialogue.within_hold
    show (world.withConnection h dialogue.hold).2.Attends called
    rw [after]
    exact kept rfl keeps.idle
  | drop h =>
    change (world.giveBack h .dropped).1.Calls (world.giveBack h .dropped).2.tearDown.sleepers
      called at calls
    show (world.giveBack h .dropped).2.tearDown.Attends called
    by_cases awake : (world.giveBack h .dropped).2.sleepers = []
    · exact .inl ((tearDown_queue _).1.trans awake)
    · rw [tearDown_of_sleepers awake] at calls ⊢
      exact serving.attends_giveBack h .dropped calls
  | forceCloseAll => exact .inr (.inl (orderly.owns.forceCloseAll _).idle)
  | shutDown => exact .inr (.inl serving.toSound.over_shutDown.idle)
  | change change =>
    show (world.reconfigure change).2.Attends called
    unfold World.reconfigure
    dsimp only
    split
    · exact .inr (.inl (orderly.owns.forceCloseAll _).idle)
    · exact kept rfl rfl
  | dropClone =>
    have same : Orderly { world with clones := world.clones - 1 } := orderly.congr rfl rfl rfl
    exact still.imp (tearDown_queue _).1.trans fun none => .inl (tearDown_idle same none)
  | addClone | elapse | disturb => exact kept rfl rfl

theorem Serving.act {called : List Ticket} {world : World σ} (serving : world.Serving [])
    {action : Action σ} (permitted : world.permits action = true)
    (calls : (world.act action).1.Calls (world.act action).2.sleepers called) :
    (world.act action).2.Serving called where
  toSound := serving.toSound.act permitted
  isOver := serving.toSound.over_take serving.isOver (.act action)
  attends := serving.attends_act calls

/-- Between completed steps nothing is idle beside a sleeper. -/
theorem Run.serving {settings : Settings} {driver : σ} {world : World σ}
    {history : List (World σ)} (run : Run settings driver world history) :
    world.Serving [] := by
  induction run with
  | start => exact ⟨sound_start settings driver, by simp [World.start], .inl rfl⟩
  | @step world after history action _ completes ih =>
    obtain ⟨permitted, called, calls, settles⟩ := completes
    have begun : Serving [] { world with finished := [] } :=
      ⟨⟨ih.congr rfl rfl rfl, ih.abandoned⟩, ih.isOver, ih.attends⟩
    exact settles.serving (begun.act permitted calls)

/-! ## To whom a connection is passed on -/

omit [Driver σ] in
/-- Whomever there is to notify, somebody can be called. -/
theorem exists_calls (signal : Signal) (sleepers : List Sleeper) :
    ∃ called, signal.Calls sleepers called := by
  cases signal with
  | none => exact ⟨[], rfl⟩
  | all => exact ⟨_, rfl⟩
  | one =>
    cases sleepers with
    | nil => exact ⟨[], .inl ⟨rfl, rfl⟩⟩
    | cons first rest => exact ⟨[first.ticket], .inr ⟨first, List.mem_cons_self, rfl⟩⟩

/-- Once nothing is idle, it stays so until all have gone on. -/
theorem Settles.idle_eq_nil {called : List Ticket} {world after : World σ}
    (settles : Settles called world after) (serving : world.Serving called)
    (none : world.pool.idle = []) : after.pool.idle = [] := by
  induction settles with
  | done => exact none
  | pass target _ ih => exact ih (serving.elapse target) none
  | wake found _ ih => exact ih (serving.wakeAt found) (serving.wakeAt_idle found)

/-- Giving a handle back while somebody sleeps does not end the pool. -/
theorem Orderly.act_of_returns {world : World σ} (orderly : world.Orderly) {action : Action σ}
    {h : HandleId} (returns : Step.returns (.act action) = some h)
    (asleep : world.sleepers ≠ []) : ∃ stage, world.act action = world.giveBack h stage := by
  cases action with
  | drop g =>
    cases returns
    refine ⟨.dropped, ?_⟩
    have still : (world.giveBack h .dropped).2.sleepers ≠ [] := by
      rwa [(orderly.giveBack_cases h .dropped).1]
    exact Prod.ext rfl (tearDown_of_sleepers still)
  | request g request =>
    cases request with
    | close =>
      cases returns
      exact ⟨.closed, rfl⟩
    | _ => cases returns
  | _ => cases returns

/-- How the sleeper `first` in front of the queue gets the connection that was given back
with the handle `h` in the world `world`. What that came to is `given`: whom it notifies,
and the world after it. -/
structure HandsOn (h : HandleId) (first : Sleeper) (world : World σ)
    (given : Signal × World σ) : Prop where
  /-- One sleeper is notified, and it wakes before anybody else does anything. -/
  notifies : given.1 = .one
  front : given.2.sleepers[0]? = some first
  wakes : given.2.notify given.1 = given.2.take (.wake 0)
  /-- The connection that the handle reached is the only idle one, and it is the first
  candidate that the sleeper finds. -/
  candidate : ∃ w conn search, world.reach h = some conn ∧ given.2.pool.idle = [w] ∧
    given.2.pool.slot w = some conn ∧ (given.2.searches (.wake 0)).head? = some search ∧
    (search.nextCandidate given.2.settings first.acquisition.who).1 = .ok (.ready w)
  /-- Until the step is completed nobody else finds an idle connection, and no two
  handles ever reach one connection. -/
  taken : ∀ called after, Settles called (given.2.notify given.1) after →
    after.pool.idle = [] ∧ ∀ g k conn, after.reach g = some conn → after.reach k = some conn → g = k

/-- Connections that are given back are passed on to those who sleep. -/
structure PassesOn (world : World σ) : Prop where
  /-- Nothing is idle beside a sleeper. -/
  idle : world.sleepers ≠ [] → world.pool.idle = []
  /-- A connection that is given back and becomes idle while others sleep goes to the
  sleeper in front. -/
  handsOn : ∀ action h, Step.returns (.act action) = some h → world.permits action = true →
    ∀ first rest, world.sleepers = first :: rest → (world.act action).2.pool.idle ≠ [] →
      HandsOn h first world (world.act action)

/-- The first search of a sleeper that wakes at an open pool finds what has been idle
longest. -/
theorem exists_search_wake {world : World σ} {place : Nat} {sleeper : Sleeper}
    (found : world.sleepers[place]? = some sleeper) (stillOpen : world.pool.closed = false)
    {w : WrapperId} {rest : List WrapperId} (idle : world.pool.idle = w :: rest) :
    ∃ search, (world.searches (.wake place)).head? = some search ∧
      (search.nextCandidate world.settings sleeper.acquisition.who).1 = .ok (.ready w) := by
  refine ⟨(world.roused place sleeper).pool, ?_, ?_⟩
  · rw [show world.searches (.wake place) = (world.roused place sleeper).pool.lookups
      world.settings sleeper.acquisition from (errand_wake found).2]
    unfold Pool.lookups
    rw [if_neg (by simp [World.roused, Pool.count, stillOpen])]
    unfold Pool.searches
    rfl
  · unfold Pool.nextCandidate
    rw [show (world.roused place sleeper).pool.idle = w :: rest from idle]
    rfl

/-- In every world between completed steps, connections are passed on. -/
theorem passesOn_of_run {settings : Settings} {driver : σ} {world : World σ}
    {history : List (World σ)} (run : Run settings driver world history) : world.PassesOn where
  idle := run.serving.idle_eq_nil
  handsOn action h returns permitted first rest sleepers filled := by
    have serving := run.serving
    have orderly := serving.toOrderly
    have asleep : world.sleepers ≠ [] := by simp [sleepers]
    have none := serving.idle_eq_nil asleep
    have isOver := serving.toSound.over_take serving.isOver (.act action)
    change (world.act action).2.pool.closed = true → (world.act action).2.pool.Over at isOver
    obtain ⟨called, calls⟩ := exists_calls (world.act action).1 (world.act action).2.sleepers
    have after := serving.act permitted calls
    obtain ⟨stage, acts⟩ := orderly.act_of_returns returns asleep
    rw [acts] at filled isOver after ⊢
    obtain ⟨same, -⟩ := orderly.giveBack_cases h stage
    have front : (world.giveBack h stage).2.sleepers[0]? = some first := by
      rw [same, sleepers]
      rfl
    have stillOpen : (world.giveBack h stage).2.pool.closed = false := by
      rw [← Bool.not_eq_true]
      exact fun closed => filled (isOver closed).idle
    rcases orderly.giveBack_idle h stage with unchanged | ⟨conn, reach, one, joined, slot⟩
    · exact absurd (unchanged.trans none) filled
    · rw [none] at joined
      obtain ⟨search, head, ready⟩ := exists_search_wake front stillOpen joined
      constructor
      case notifies => exact one
      case front => exact front
      case wakes => rw [one]; rfl
      case candidate => exact ⟨_, conn, search, reach, joined, slot, head, ready⟩
      case taken =>
        intro called' later settles
        rw [one] at settles
        have woken : Serving called' ((world.giveBack h stage).2.wakeAt 0) := after.wakeAt front
        refine ⟨settles.idle_eq_nil woken (after.wakeAt_idle front), ?_⟩
        exact fun g k conn' => (settles.serving woken).toOrderly.reach_inj

/-- One of three callers has the only connection and the others sleep. When it is given
back, the one who slept first gets it, and the other one sleeps on. -/
theorem passesOn_asleep : ∃ world history,
    completeQuietly [.acquire none, .acquire none, .acquire none]
      (.start singleSettings ({} : Simulation.State)) [] = some (world, history) ∧
    world.sleepers.map Sleeper.ticket = [1, 2] ∧ world.reach 0 = some 0 ∧
    (world.act (.drop 0)).2.pool.idle = [1] ∧
    ((world.act (.drop 0)).2.notify .one).reach 1 = some 0 ∧
    ((world.act (.drop 0)).2.notify .one).sleepers.map Sleeper.ticket = [2] ∧
    world.PassesOn := by
  have run : (completeQuietly [.acquire none, .acquire none, .acquire none]
      (.start singleSettings ({} : Simulation.State)) []).any (fun result =>
        result.1.sleepers.map Sleeper.ticket = [1, 2] && result.1.reach 0 = some 0 &&
          (result.1.act (.drop 0)).2.pool.idle = [1] &&
          ((result.1.act (.drop 0)).2.notify .one).reach 1 = some 0 &&
          ((result.1.act (.drop 0)).2.notify .one).sleepers.map Sleeper.ticket = [2]) = true := by
    decide +kernel
  obtain ⟨⟨world, history⟩, found, seen⟩ := (Option.any_eq_true _ _).1 run
  simp only [Bool.and_eq_true, decide_eq_true_eq] at seen
  obtain ⟨⟨⟨⟨asleep, reach⟩, idle⟩, passed⟩, left⟩ := seen
  exact ⟨world, history, found, asleep, reach, idle, passed, left,
    passesOn_of_run (Run.start.completeQuietly found)⟩

end World

end ConnectionPooling
