/-
# Closing for good

A pool that was closed and has given up its connections is at rest: whatever is done with
it, it stays closed, lists nothing and asks nothing of the driver. `Rests` says this of
its operations, which all come to a line in the log at most.

For the callers this means that no acquisition falls asleep any more. Those who sleep when
the pool is closed learn that their wait was interrupted as soon as they wake, which they
all do before the closing is complete, and those who come later are refused at once.
-/

import ConnectionPooling.Proofs.Operations
import ConnectionPooling.Proofs.Queue

namespace ConnectionPooling

variable {σ α : Type}

namespace Pool

/-! ## A pool at rest -/

/-- The pool was closed, and nothing is listed in it. -/
structure Over (pool : Pool σ) : Prop where
  closed : pool.closed = true
  idle : pool.idle = []
  active : pool.active = []

/-- From `before` to `after` the lists stayed as they were, and nothing was asked of the
driver. -/
structure Rests (before after : Pool σ) : Prop where
  closed : after.closed = before.closed
  idle : after.idle = before.idle
  active : after.active = before.active
  silent : before.env.Grows Entry.IsEvent after.env

theorem Rests.refl (pool : Pool σ) : pool.Rests pool :=
  ⟨rfl, rfl, rfl, .refl _ _⟩

theorem Rests.trans {before mid after : Pool σ} (first : before.Rests mid)
    (second : mid.Rests after) : before.Rests after :=
  ⟨second.closed.trans first.closed, second.idle.trans first.idle,
    second.active.trans first.active, first.silent.trans second.silent⟩

theorem Over.rest {before after : Pool σ} (isOver : before.Over) (rests : before.Rests after) :
    after.Over :=
  ⟨rests.closed.trans isOver.closed, rests.idle.trans isOver.idle, rests.active.trans isOver.active⟩

theorem rests_note (event : Event) (pool : Pool σ) : pool.Rests (pool.note event) :=
  ⟨rfl, rfl, rfl, Environment.grows_write (.event event) pool.env⟩

theorem rests_count (update : Counters → Counters) (pool : Pool σ) :
    pool.Rests (pool.count update) :=
  ⟨rfl, rfl, rfl, .refl _ _⟩

/-- No wrapper gives access to a connection. -/
theorem Over.reach_eq_none {pool : Pool σ} (isOver : pool.Over) (owns : pool.Owns [])
    (w : WrapperId) : pool.reach w = none := by
  cases reach : pool.reach w with
  | none => rfl
  | some conn =>
    have listed := owns.mem_of_slot (slot_of_reach reach)
    simp [isOver.idle, isOver.active] at listed

theorem Over.rests_withConnection {pool : Pool σ} (isOver : pool.Over) (owns : pool.Owns [])
    (w : WrapperId) (work : ConnId → Exchange σ α) :
    pool.Rests ((pool.withConnection w work).2.touch w) := by
  unfold withConnection
  rw [isOver.reach_eq_none owns w]
  exact ⟨rfl, rfl, rfl, .refl _ _⟩

variable [Driver σ]

/-- What is given back is of no use any more. -/
theorem Over.rests_release {pool : Pool σ} (isOver : pool.Over) (owns : pool.Owns [])
    (policy : Policy) (w : WrapperId) : pool.Rests (pool.release policy w) := by
  rcases owns.release_cases policy w with ⟨-, refused⟩ | ⟨valid, -⟩
  · have same : pool.active.erase w = pool.active := by simp [isOver.active]
    rw [refused, same]
    exact (rests_count _ pool).trans (rests_note _ _)
  · rw [owns.isValid_iff, isOver.idle, isOver.active] at valid
    simp at valid

/-- Whoever asks for a connection is refused. -/
theorem Over.rests_acquire {pool : Pool σ} (isOver : pool.Over) (settings : Settings)
    (acquisition : Acquisition) : pool.Rests (pool.acquire settings acquisition).2 := by
  rcases acquire_cases settings acquisition pool with ⟨-, refused⟩ | ⟨stillOpen, -⟩
  · rw [refused]
    exact .refl _
  · simp [isOver.closed] at stillOpen

theorem Over.rests_forceCloseAll {pool : Pool σ} (isOver : pool.Over) (source : DataSource) :
    pool.Rests (pool.forceCloseAll source) := by
  unfold forceCloseAll
  dsimp only
  rw [isOver.active, isOver.idle]
  exact ⟨rfl, isOver.idle.symm, isOver.active.symm, Environment.grows_write (.event _) pool.env⟩

end Pool

namespace World

variable [Driver σ]

/-- No operation changes a pool at rest. -/
theorem Operates.rests {step : Step σ} {world : World σ} {pool : Pool σ}
    (operates : Operates step world pool) (orderly : world.Orderly)
    (isOver : world.pool.Over) : world.pool.Rests pool := by
  cases operates with
  | none => exact .refl _
  | begun => exact isOver.rests_acquire _ _
  | @woken place sleeper =>
    have roused : world.pool.Rests (world.roused place sleeper).pool :=
      ⟨rfl, rfl, rfl, .refl _ _⟩
    exact roused.trans ((isOver.rest roused).rests_acquire _ _)
  | used => exact isOver.rests_withConnection orderly.owns _ _
  | returned => exact isOver.rests_release orderly.owns _ _
  | emptied => exact isOver.rests_forceCloseAll _
  | shut =>
    have closed : Pool.Over { world.pool with closed := true } :=
      ⟨rfl, isOver.idle, isOver.active⟩
    have rests := (closed.rests_forceCloseAll world.settings.source).trans
      (Pool.rests_note .poolClosed _)
    exact ⟨rests.closed.trans isOver.closed.symm, rests.idle, rests.active, rests.silent⟩
  | aside grows => exact ⟨rfl, rfl, rfl, grows⟩

/-- Whatever is done, a pool at rest remains so. -/
theorem Sound.rests_take {world : World σ} (sound : world.Sound) (isOver : world.pool.Over)
    (step : Step σ) : world.pool.Rests (world.take step).pool := by
  obtain ⟨pool, operates, ends⟩ := sound.toOrderly.operates step
  have rests := operates.rests sound.toOrderly isOver
  cases ends with
  | reached same => exact same ▸ rests
  | abandoned _ ended => exact ended ▸ rests.trans ((isOver.rest rests).rests_forceCloseAll _)

/-! ## The callers -/

omit [Driver σ] in
/-- How things are in a world `later` that came about after the pool was closed, which
left the world `shut`. -/
structure WoundUp (shut later : World σ) : Prop extends Pool.Over later.pool where
  /-- Nothing was asked of the driver. -/
  silent : shut.pool.env.Grows Entry.IsEvent later.pool.env
  /-- Nobody fell asleep. -/
  sleepers : later.sleepers.Sublist shut.sleepers
  next : shut.nextTicket ≤ later.nextTicket
  /-- Whoever came to an end met an error: one who slept when the pool was closed learned
  that its wait was interrupted, and one who came later that the pool is closed. -/
  ended : ∃ more, later.finished = more ++ shut.finished ∧ ∀ entry ∈ more,
    (∃ sleeper ∈ shut.sleepers, entry = (sleeper.ticket, .error .waitInterrupted)) ∨
      (shut.nextTicket ≤ entry.1 ∧ entry.1 < later.nextTicket ∧ entry.2 = .error .closed)
  /-- Whoever does not sleep any more came to an end. -/
  interrupted : ∀ sleeper ∈ shut.sleepers,
    sleeper ∈ later.sleepers ∨ (sleeper.ticket, .error .waitInterrupted) ∈ later.finished
  /-- Whoever came later came to an end. -/
  refused : ∀ ticket, shut.nextTicket ≤ ticket → ticket < later.nextTicket →
    (ticket, .error .closed) ∈ later.finished

omit [Driver σ] in
theorem WoundUp.refl {shut : World σ} (isOver : shut.pool.Over) : WoundUp shut shut where
  toOver := isOver
  silent := .refl _ _
  sleepers := List.Sublist.refl _
  next := Nat.le_refl _
  ended := ⟨[], rfl, by simp⟩
  interrupted _ asleep := .inl asleep
  refused _ late early := absurd early (Nat.not_lt.2 late)

/-- A step leaves a pool wound up: whoever works in it is turned away. -/
theorem WoundUp.take {shut world : World σ} (woundUp : WoundUp shut world)
    (sound : world.Sound) (waited : ∀ sleeper ∈ shut.sleepers, sleeper.acquisition.waited = true)
    (step : Step σ) : WoundUp shut (world.take step) := by
  have rests := sound.rests_take woundUp.toOver step
  have isOver := woundUp.toOver.rest rests
  have silent := woundUp.silent.trans rests.silent
  obtain ⟨more, finished, errors⟩ := woundUp.ended
  cases sound.queues step with
  | same _ sleepers next gone =>
    exact {
      toOver := isOver
      silent := silent
      sleepers := sleepers ▸ woundUp.sleepers
      next := next ▸ woundUp.next
      ended := ⟨more, gone.trans finished, by rw [next]; exact errors⟩
      interrupted := by rw [sleepers, gone]; exact woundUp.interrupted
      refused := by rw [next, gone]; exact woundUp.refused }
  | begun _ _ new next goesOn =>
    obtain ⟨sleepers, gone⟩ := goesOn.refused woundUp.closed
    rw [new] at gone
    constructor
    case toOver => exact isOver
    case silent => exact silent
    case sleepers => exact sleepers ▸ woundUp.sleepers
    case next => exact next ▸ Nat.le_succ_of_le woundUp.next
    case ended =>
      refine ⟨_ :: more, by rw [gone, finished]; rfl, List.forall_mem_cons.2 ⟨.inr ?_, ?_⟩⟩
      · exact ⟨woundUp.next, next ▸ Nat.lt_succ_self _, rfl⟩
      · intro entry mem
        refine (errors entry mem).imp_right fun ⟨late, early, error⟩ => ⟨late, ?_, error⟩
        exact next ▸ Nat.lt_succ_of_lt early
    case interrupted =>
      rw [sleepers, gone]
      exact fun sleeper asleep => (woundUp.interrupted sleeper asleep).imp_right
        (List.mem_cons_of_mem _)
    case refused =>
      rw [next, gone]
      intro ticket late early
      rcases Nat.lt_succ_iff_lt_or_eq.1 early with before | rfl
      · exact List.mem_cons_of_mem _ (woundUp.refused ticket late before)
      · exact List.mem_cons_self
  | @woken place sleeper _ found next goesOn =>
    obtain ⟨sleepers, gone⟩ := goesOn.refused woundUp.closed
    have asleep := woundUp.sleepers.subset (List.mem_of_getElem? found)
    rw [waited sleeper asleep] at gone
    constructor
    case toOver => exact isOver
    case silent => exact silent
    case sleepers => exact sleepers ▸ (List.eraseIdx_sublist _ _).trans woundUp.sleepers
    case next => exact next ▸ woundUp.next
    case ended =>
      refine ⟨_ :: more, by rw [gone]; exact congrArg _ finished,
        List.forall_mem_cons.2 ⟨.inl ⟨sleeper, asleep, rfl⟩, by rw [next]; exact errors⟩⟩
    case interrupted =>
      intro other slept
      rw [sleepers, gone]
      rcases woundUp.interrupted other slept with still | ended
      · rcases List.mem_cons.1 ((perm_eraseIdx found).mem_iff.1 still) with rfl | left
        · exact .inr List.mem_cons_self
        · exact .inl left
      · exact .inr (List.mem_cons_of_mem _ ended)
    case refused =>
      rw [next, gone]
      exact fun ticket late early => List.mem_cons_of_mem _ (woundUp.refused ticket late early)

theorem WoundUp.leads {shut last : World σ} {past : List (World σ × Step σ)}
    (woundUp : WoundUp shut shut) (sound : shut.Sound)
    (waited : ∀ sleeper ∈ shut.sleepers, sleeper.acquisition.waited = true)
    (leads : shut.Leads past last) : WoundUp shut last := by
  induction leads with
  | refl => exact woundUp
  | step earlier step _ ih => exact ih.take (earlier.sound sound) waited step

/-- If all who sleep at a pool at rest are called, nobody sleeps when they have gone on. -/
theorem Settles.sleepers_eq_nil {called : List Ticket} {world after : World σ}
    (settles : Settles called world after) (sound : world.Sound) (isOver : world.pool.Over)
    (lined : world.Lined) (all : ∀ sleeper ∈ world.sleepers, sleeper.ticket ∈ called) :
    after.sleepers = [] := by
  induction settles with
  | done quiet =>
    refine List.eq_nil_iff_forall_not_mem.2 fun sleeper asleep => ?_
    exact (quiet sleeper asleep).1 (all sleeper asleep)
  | @pass _ world _ target _ ih =>
    have elapses : world.allows (.act (.elapse target)) = true := rfl
    exact ih (sound.take elapses) (isOver.rest (sound.rests_take isOver (.act (.elapse target))))
      ((sound.queues (.act (.elapse target))).lined lined) all
  | @wake called world _ place sleeper found _ ih =>
    have queues := sound.queues (.wake place)
    have wakes : world.allows (.wake place) = true := rfl
    apply ih (sound.take wakes) (isOver.rest (sound.rests_take isOver (.wake place)))
      (queues.lined lined)
    cases queues with
    | same quiet => simp [asks, found] at quiet
    | begun begins => cases begins
    | @woken _ other wakes foundAgain _ goesOn =>
      cases wakes
      cases found.symm.trans foundAgain
      obtain ⟨left, apart⟩ := lined.roused found
      rw [show world.wakeAt place = world.take (.wake place) from rfl,
        (goesOn.refused isOver.closed).1]
      intro other mem
      have called := all other ((perm_eraseIdx found).mem_iff.2 (List.mem_cons_of_mem _ mem))
      refine List.mem_filter.2 ⟨called, decide_eq_true fun same => apart ?_⟩
      exact same ▸ List.mem_map_of_mem mem

/-- If the pool is closed in this world, that is for ever. -/
structure ClosesForGood (world : World σ) : Prop where
  /-- From then on the pool is at rest. -/
  woundUp : ∀ past later, (world.act .shutDown).2.Leads past later →
    WoundUp (world.act .shutDown).2 later
  /-- The closing can be completed: it is when all sleepers were woken. -/
  completes : ∃ called, (world.act .shutDown).1.Calls (world.act .shutDown).2.sleepers called ∧
    Settles called (world.act .shutDown).2
      ((world.act .shutDown).2.notify (world.act .shutDown).1).settle
  /-- When it is complete, nobody sleeps any more, and nobody ever falls asleep. -/
  awake : ∀ called, (world.act .shutDown).1.Calls (world.act .shutDown).2.sleepers called →
    ∀ done, Settles called (world.act .shutDown).2 done →
      ∀ past later, done.Leads past later →
        WoundUp (world.act .shutDown).2 later ∧ later.sleepers = []

theorem Sound.over_shutDown {world : World σ} (sound : world.Sound) :
    (world.act .shutDown).2.pool.Over := by
  have closed : Pool.Owns [] { world.pool with closed := true } := sound.owns.relist (.refl _)
  have empties := closed.forceCloseAll world.settings.source
  exact ⟨(Pool.forceCloseAll_same _ _).2, empties.idle, empties.active⟩

/-- In every world of a pool, closing it is final. -/
theorem closesForGood_of_reachable {settings : Settings} {driver : σ} {world : World σ}
    (reachable : Reachable settings driver world) (permitted : world.permits .shutDown = true) :
    world.ClosesForGood := by
  have isOver := reachable.sound.over_shutDown
  have after : Reachable settings driver (world.act .shutDown).2 :=
    reachable.step (.act .shutDown) permitted
  have windsUp {past : List (World σ × Step σ)} {later : World σ}
      (leads : (world.act .shutDown).2.Leads past later) :
      WoundUp (world.act .shutDown).2 later :=
    WoundUp.leads (.refl isOver) after.sound after.lined.waited leads
  constructor
  case woundUp => exact fun past later leads => windsUp leads
  case completes =>
    have settles (woken : World σ) : Settles [] woken woken.settle :=
      settles_serveDeadlines _ woken
    exact ⟨_, rfl, settles_wakeFront _ [] (List.append_nil _).symm (List.Subset.refl _)
      (settles _)⟩
  case awake =>
    intro called calls done settles past later leads
    obtain ⟨before, reaches⟩ := settles.exists_leads .refl
    have woundUp := windsUp (reaches.append leads)
    refine ⟨woundUp, ?_⟩
    have none : done.sleepers = [] := by
      apply settles.sleepers_eq_nil after.sound isOver after.lined
      rw [calls]
      exact fun sleeper asleep => List.mem_map_of_mem asleep
    have rest : WoundUp done later :=
      WoundUp.leads (.refl (windsUp reaches).toOver) (reaches.sound after.sound)
        (by simp [none]) leads
    exact List.sublist_nil.1 (none ▸ rest.sleepers)

/-- One connection may be checked out. A caller has it and another one sleeps without a
deadline; then the time to wait is limited, which ends the first checkout, and of two more
callers one gets a connection and the other one sleeps with a deadline. -/
def queueingSteps : List (Step Simulation.State) :=
  [.act (.acquire none), .act (.acquire none), .act (.change (.timeToWait 5)),
    .act (.acquire none), .act (.acquire none)]

/-- After the pool was closed, both sleepers wake, the handles are used and dropped, a
setting changes, and somebody asks for a connection. -/
def aftermath : List (Step Simulation.State) :=
  [.wake 1, .act (.request 1 (.execute "work")), .act (.change (.user (some "bob"))),
    .act (.acquire none), .act (.drop 0), .act (.request 1 .close), .act (.elapse 100), .wake 0]

/-- The acquisitions that came to an end, the latest first, each with the error that it
met, if any. -/
def errors (world : World σ) : List (Ticket × Option PoolError) :=
  world.finished.map fun entry => (entry.1, match entry.2 with
    | .ok _ => none
    | .error error => some error)

/-- Both sleepers learn that their wait was interrupted, although one of them had a
deadline and the other one had none, and the last caller that the pool is closed. -/
theorem closesForGood_queueing : ∃ world past later,
    (World.start singleSettings {}).follow queueingSteps = some world ∧
    world.permits .shutDown = true ∧
    world.sleepers.map Sleeper.deadline = [none, some 5] ∧ world.isValid 1 = true ∧
    (world.act .shutDown).2.Leads past later ∧
    later.errors = [(1, some .waitInterrupted), (4, some .closed), (3, some .waitInterrupted),
      (2, none), (0, none)] ∧ world.ClosesForGood := by
  have run : ((World.start singleSettings ({} : Simulation.State)).follow queueingSteps).any
      (fun world => ((world.act .shutDown).2.follow aftermath).any fun later =>
        world.permits .shutDown && world.sleepers.map Sleeper.deadline = [none, some 5] &&
          world.isValid 1 && later.errors = [(1, some .waitInterrupted), (4, some .closed),
            (3, some .waitInterrupted), (2, none), (0, none)]) = true := by decide +kernel
  obtain ⟨world, found, rest⟩ := (Option.any_eq_true _ _).1 run
  obtain ⟨later, follows, seen⟩ := (Option.any_eq_true _ _).1 rest
  simp only [Bool.and_eq_true, decide_eq_true_eq] at seen
  obtain ⟨⟨⟨permitted, asleep⟩, valid⟩, ended⟩ := seen
  exact ⟨world, _, later, found, permitted, asleep, valid, Leads.refl.follow follows, ended,
    closesForGood_of_reachable (Reachable.start.follow found) permitted⟩

end World

end ConnectionPooling
