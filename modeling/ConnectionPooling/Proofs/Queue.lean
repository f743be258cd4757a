/-
# The queue of sleepers

An acquisition joins the queue when there is nothing to be had, and leaves it to look
again. `GoesOn` says what becomes of the queue when one acquisition works: it comes to an
end, or it is the last in the queue, the same request as before. `Queues` says the same
of a step, in which at most one acquisition works.

From this follows what holds of the queue in every world: no ticket stands in it twice,
each of them was given out, and whoever sleeps counts as having waited. The steps by which
a completed step goes on are steps of a run like all others.
-/

import ConnectionPooling.Proofs.Sleepers
import ConnectionPooling.Proofs.History

namespace ConnectionPooling

variable {σ : Type} [Driver σ]

namespace Pool

/-- An acquisition falls asleep as the request that it was, which has waited from then
on. At that moment nothing is idle. -/
theorem Acquires.asleep_cases {settings : Settings} {acquisition again : Acquisition}
    {budget : Nat} {pool after : Pool σ} {progress : Progress}
    (acquires : Acquires settings acquisition budget pool progress after)
    (owns : pool.Owns []) (asleep : progress = .asleep again) :
    again.who = acquisition.who ∧ again.waited = true ∧ after.idle = [] := by
  induction acquires with
  | failed | granted | gaveUp => cases asleep
  | @asleep acquisition _ pool found search =>
    cases asleep
    refine ⟨rfl, rfl, ?_⟩
    have none : found.idle = [] := by
      cases owns.search search with
      | mustWait idle => exact idle
    rw [← none]
    unfold fallAsleep
    split <;> rfl
  | again search vet _ ih => exact ih (owns.reject search vet).1 asleep

end Pool

namespace World

/-! ## One acquisition -/

/-- What becomes of the queue of `world` when the acquisition `ticket`, which is not in
it, works until it comes to an end or sleeps. -/
inductive GoesOn (ticket : Ticket) (acquisition : Acquisition) (world after : World σ) : Prop
  /-- It comes to an end. A closed pool refuses it. -/
  | ended {outcome : Except PoolError HandleId} (sleepers : after.sleepers = world.sleepers)
      (finished : after.finished = (ticket, outcome) :: world.finished)
      (refused : world.pool.closed = true →
        outcome = .error (if acquisition.waited then .waitInterrupted else .closed))
  /-- It sleeps, as the last one, because nothing is idle. -/
  | asleep {last : Sleeper} (sleepers : after.sleepers = world.sleepers ++ [last])
      (own : last.ticket = ticket) (who : last.acquisition.who = acquisition.who)
      (waited : last.acquisition.waited = true) (finished : after.finished = world.finished)
      (stillOpen : world.pool.closed = false) (idle : after.pool.idle = [])

theorem Orderly.goesOn_proceed {world : World σ} (orderly : world.Orderly) (ticket : Ticket)
    (acquisition : Acquisition) :
    GoesOn ticket acquisition world (world.proceed ticket acquisition) := by
  unfold World.proceed
  rcases Pool.acquire_cases world.settings acquisition world.pool with
    ⟨-, refused⟩ | ⟨stillOpen, acquires⟩
  · rw [refused]
    exact .ended rfl rfl fun _ => rfl
  · have notClosed : world.pool.closed = true → False := by simp [stillOpen]
    cases run : world.pool.acquire world.settings acquisition with
    | mk progress pool =>
      rw [run] at acquires
      cases progress with
      | granted w => exact .ended rfl rfl fun closed => (notClosed closed).elim
      | failed error => exact .ended rfl rfl fun closed => (notClosed closed).elim
      | asleep again =>
        obtain ⟨who, waited, idle⟩ := acquires.asleep_cases orderly.owns rfl
        exact .asleep rfl rfl who waited rfl stillOpen idle

omit [Driver σ] in
/-- What becomes of the queue depends on who is in it, on who came to an end before, and on
whether the pool is closed. -/
theorem GoesOn.congr {ticket : Ticket} {acquisition : Acquisition} {world other after : World σ}
    (goesOn : GoesOn ticket acquisition world after)
    (sleepers : world.sleepers = other.sleepers) (finished : world.finished = other.finished)
    (closed : world.pool.closed = other.pool.closed) :
    GoesOn ticket acquisition other after := by
  cases goesOn with
  | ended left gone refused =>
    exact .ended (left.trans sleepers) (finished ▸ gone) (closed ▸ refused)
  | asleep left own who waited gone stillOpen idle =>
    exact .asleep (sleepers ▸ left) own who waited (gone.trans finished) (closed ▸ stillOpen) idle

omit [Driver σ] in
/-- At a closed pool it comes to an end. -/
theorem GoesOn.refused {ticket : Ticket} {acquisition : Acquisition} {world after : World σ}
    (goesOn : GoesOn ticket acquisition world after) (closed : world.pool.closed = true) :
    after.sleepers = world.sleepers ∧ after.finished =
      (ticket, .error (if acquisition.waited then .waitInterrupted else .closed)) ::
        world.finished := by
  cases goesOn with
  | ended sleepers finished refused => exact ⟨sleepers, refused closed ▸ finished⟩
  | asleep _ _ _ _ _ stillOpen => simp [closed] at stillOpen

/-- Ending an abandoned pool concerns neither the queue nor who came to an end. -/
theorem tearDown_queue (world : World σ) :
    world.tearDown.sleepers = world.sleepers ∧ world.tearDown.nextTicket = world.nextTicket ∧
      world.tearDown.finished = world.finished := by
  unfold tearDown
  split <;> exact ⟨rfl, rfl, rfl⟩

theorem GoesOn.tearDown {ticket : Ticket} {acquisition : Acquisition} {world after : World σ}
    (goesOn : GoesOn ticket acquisition world after) :
    GoesOn ticket acquisition world after.tearDown := by
  obtain ⟨same, -, still⟩ := after.tearDown_queue
  cases goesOn with
  | ended sleepers finished refused =>
    exact .ended (same.trans sleepers) (still.trans finished) refused
  | asleep sleepers own who waited finished stillOpen idle =>
    rw [tearDown_of_sleepers (by simp [sleepers])]
    exact .asleep sleepers own who waited finished stillOpen idle

/-! ## One step -/

/-- What becomes of the queue in a step. -/
inductive Queues (step : Step σ) (world after : World σ) : Prop
  /-- No acquisition works. -/
  | same (quiet : world.asks step = none) (sleepers : after.sleepers = world.sleepers)
      (next : after.nextTicket = world.nextTicket) (finished : after.finished = world.finished)
  /-- A new acquisition takes the next ticket. -/
  | begun {who : Option Credentials} {acquisition : Acquisition}
      (begins : step = .act (.acquire who))
      (own : acquisition.who = who.getD world.settings.source.who)
      (new : acquisition.waited = false) (next : after.nextTicket = world.nextTicket + 1)
      (goesOn : GoesOn world.nextTicket acquisition world after)
  /-- A sleeper leaves the queue. -/
  | woken {place : Nat} {sleeper : Sleeper} (wakes : step = .wake place)
      (found : world.sleepers[place]? = some sleeper)
      (next : after.nextTicket = world.nextTicket)
      (goesOn : GoesOn sleeper.ticket sleeper.acquisition (world.roused place sleeper) after)

theorem proceed_nextTicket (ticket : Ticket) (acquisition : Acquisition) (world : World σ) :
    (world.proceed ticket acquisition).nextTicket = world.nextTicket := by
  unfold World.proceed
  cases (world.pool.acquire world.settings acquisition).1 <;> rfl

theorem Orderly.queues_giveBack {world : World σ} (orderly : world.Orderly) {step : Step σ}
    (quiet : world.asks step = none) (h : HandleId) (stage : Stage) :
    Queues step world (world.giveBack h stage).2 := by
  obtain ⟨sleepers, next, finished, -⟩ := orderly.giveBack_cases h stage
  exact .same quiet sleepers next finished

theorem Queues.tearDown {step : Step σ} {world after : World σ}
    (queues : Queues step world after) : Queues step world after.tearDown := by
  obtain ⟨same, next', still⟩ := after.tearDown_queue
  cases queues with
  | same quiet sleepers next finished =>
    exact .same quiet (same.trans sleepers) (next'.trans next) (still.trans finished)
  | begun begins own new next goesOn =>
    exact .begun begins own new (next'.trans next) goesOn.tearDown
  | woken wakes found next goesOn =>
    exact .woken wakes found (next'.trans next) goesOn.tearDown

/-- In every step at most one acquisition works. -/
theorem Sound.queues {world : World σ} (sound : world.Sound) (step : Step σ) :
    Queues step world (world.take step) := by
  have orderly := sound.toOrderly
  cases step with
  | wake place =>
    show Queues _ world (world.wakeAt place)
    cases found : world.sleepers[place]? with
    | none =>
      unfold World.wakeAt
      rw [found]
      exact .same (by simp [asks, found]) rfl rfl rfl
    | some sleeper =>
      have woken := orderly.roused place sleeper
      rw [wakeAt_eq found]
      refine .woken rfl found ?_ (woken.goesOn_proceed _ _).tearDown
      rw [(tearDown_queue _).2.1, proceed_nextTicket]
      rfl
  | act action =>
    cases action with
    | acquire who =>
      have next : Orderly { world with nextTicket := world.nextTicket + 1 } :=
        orderly.congr rfl rfl rfl
      have works := next.goesOn_proceed world.nextTicket
        { who := who.getD world.settings.source.who, started := world.pool.now }
      show Queues _ world (world.acquire (who.getD world.settings.source.who)).2
      rw [acquire_eq]
      refine .begun rfl rfl rfl (proceed_nextTicket _ _ _) (works.congr rfl rfl rfl)
    | request h request =>
      show Queues _ world (world.request h request).2.2
      rcases world.request_cases h request with ⟨-, closed⟩ | ⟨pool, -, after⟩
      · rw [closed]
        exact orderly.queues_giveBack rfl h .closed
      · rw [after]
        exact .same rfl rfl rfl rfl
    | converse h dialogue =>
      obtain ⟨pool, -, after⟩ := world.exists_withConnection h dialogue.within_hold
      show Queues _ world (world.withConnection h dialogue.hold).2
      rw [after]
      exact .same rfl rfl rfl rfl
    | drop h => exact (orderly.queues_giveBack rfl h .dropped).tearDown
    | change change =>
      show Queues _ world (world.reconfigure change).2
      unfold World.reconfigure
      dsimp only
      split <;> exact .same rfl rfl rfl rfl
    | dropClone =>
      have left : Queues (.act .dropClone) world { world with clones := world.clones - 1 } :=
        .same rfl rfl rfl rfl
      exact left.tearDown
    | forceCloseAll | shutDown | addClone | elapse | disturb => exact .same rfl rfl rfl rfl

/-! ## The queue of every world -/

/-- No ticket stands twice in the queue, each of them was given out, and all who sleep
count as having waited. -/
structure Lined (world : World σ) : Prop where
  nodup : (world.sleepers.map Sleeper.ticket).Nodup
  started : ∀ sleeper ∈ world.sleepers, sleeper.ticket < world.nextTicket
  waited : ∀ sleeper ∈ world.sleepers, sleeper.acquisition.waited = true

omit [Driver σ] in
/-- The acquisition that works is none of those who sleep. -/
theorem Lined.goesOn {ticket : Ticket} {acquisition : Acquisition} {world after : World σ}
    (lined : world.Lined) (goesOn : GoesOn ticket acquisition world after)
    (apart : ticket ∉ world.sleepers.map Sleeper.ticket) (own : ticket < after.nextTicket)
    (next : world.nextTicket ≤ after.nextTicket) : after.Lined := by
  cases goesOn with
  | ended sleepers =>
    constructor
    case nodup => rw [sleepers]; exact lined.nodup
    case started =>
      rw [sleepers]
      exact fun sleeper mem => Nat.lt_of_lt_of_le (lined.started sleeper mem) next
    case waited => rw [sleepers]; exact lined.waited
  | @asleep last sleepers same _ waited =>
    constructor
    case nodup =>
      rw [sleepers, List.map_append, List.map_singleton, same]
      rw [(List.perm_append_singleton ticket _).nodup_iff, List.nodup_cons]
      exact ⟨apart, lined.nodup⟩
    case started =>
      rw [sleepers]
      intro sleeper mem
      rcases List.mem_append.1 mem with mem | mem
      · exact Nat.lt_of_lt_of_le (lined.started sleeper mem) next
      · rw [List.mem_singleton.1 mem, same]
        exact own
    case waited =>
      rw [sleepers]
      intro sleeper mem
      rcases List.mem_append.1 mem with mem | mem
      · exact lined.waited sleeper mem
      · rw [List.mem_singleton.1 mem]
        exact waited

omit [Driver σ] in
/-- A sleeper that leaves the queue is none of those who remain. -/
theorem Lined.roused {world : World σ} (lined : world.Lined) {place : Nat} {sleeper : Sleeper}
    (found : world.sleepers[place]? = some sleeper) :
    (world.roused place sleeper).Lined ∧
      sleeper.ticket ∉ (world.roused place sleeper).sleepers.map Sleeper.ticket := by
  have split := perm_eraseIdx found
  have tickets := (split.map Sleeper.ticket).nodup_iff.1 lined.nodup
  rw [List.map_cons, List.nodup_cons] at tickets
  have others : ∀ other ∈ world.sleepers.eraseIdx place, other ∈ world.sleepers :=
    fun other mem => split.mem_iff.2 (List.mem_cons_of_mem sleeper mem)
  exact ⟨⟨tickets.2, fun other mem => lined.started other (others other mem),
    fun other mem => lined.waited other (others other mem)⟩, tickets.1⟩

omit [Driver σ] in
/-- Every step keeps the queue in order. -/
theorem Queues.lined {step : Step σ} {world after : World σ} (queues : Queues step world after)
    (lined : world.Lined) : after.Lined := by
  cases queues with
  | same _ sleepers next =>
    exact ⟨sleepers ▸ lined.nodup, sleepers ▸ next ▸ lined.started, sleepers ▸ lined.waited⟩
  | begun _ _ _ next goesOn =>
    apply lined.goesOn goesOn
    · rintro taken
      obtain ⟨sleeper, mem, same⟩ := List.mem_map.1 taken
      exact absurd (lined.started sleeper mem) (same ▸ Nat.lt_irrefl _)
    · rw [next]
      exact Nat.lt_succ_self _
    · rw [next]
      exact Nat.le_succ _
  | @woken place sleeper _ found next goesOn =>
    obtain ⟨left, apart⟩ := lined.roused found
    apply left.goesOn goesOn apart
    · rw [next]
      exact lined.started sleeper (List.mem_of_getElem? found)
    · exact Nat.le_of_eq next.symm

theorem Reachable.lined {settings : Settings} {driver : σ} {world : World σ}
    (reachable : Reachable settings driver world) : world.Lined := by
  induction reachable with
  | start => exact ⟨List.nodup_nil, by simp [World.start], by simp [World.start]⟩
  | step earlier step _ ih => exact (earlier.sound.queues step).lined ih

/-! ## Going on as a run -/

/-- What happens until all those have gone on who were called is a run. -/
theorem Settles.exists_leads {first world after : World σ} {past : List (World σ × Step σ)}
    {called : List Ticket} (settles : Settles called world after)
    (leads : first.Leads past world) : ∃ later, first.Leads later after := by
  induction settles generalizing past with
  | done => exact ⟨past, leads⟩
  | @pass _ world _ target _ ih => exact ih (leads.step (.act (.elapse target)) rfl)
  | @wake _ world _ place _ _ _ ih => exact ih (leads.step (.wake place) rfl)

end World

end ConnectionPooling
