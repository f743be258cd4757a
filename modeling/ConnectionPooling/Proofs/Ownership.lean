/-
# What holds in every world of a pool

The guarantees that callers rely on, for every world that a new pool may come to:
a connection has one holder, the pool stays within its limits, and every connection
that is not kept was closed, once. They hold whatever the callers do, in whatever
order sleeping acquisitions wake, and whatever the driver answers; all three are
read off the invariant.

Among the runs that a pool can take, one on the simulated driver is kept as an
example: a checkout is claimed from its holder, and another connection is given
back and becomes idle.
-/

import ConnectionPooling.Proofs.Soundness
import ConnectionPooling.Simulation.Driver

namespace ConnectionPooling

namespace World

variable {σ : Type}

/-! ## An example -/

/-- At most two connections may be checked out, and a checkout is overdue after a
moment. -/
def tightSettings : Settings where
  source := { url := "db" }
  policy := { maxActive := 2, maxIdle := 1, maxCheckoutTime := 5, timeToWait := 0 }

/-- Two callers get a connection, a third one sleeps, wakes when the oldest checkout
is overdue and claims it, and the second caller gives its connection back. -/
def claimSteps : List (Step Simulation.State) :=
  [.act (.acquire none), .act (.elapse 3), .act (.acquire none), .act (.acquire none),
    .act (.elapse 7), .wake 0, .act (.drop 1)]

/-- The world after these steps. -/
def claimed : Option (World Simulation.State) :=
  (World.start tightSettings {}).follow claimSteps

/-- The world after the owner has left too, and all handles are gone. -/
def deserted : Option (World Simulation.State) :=
  (World.start tightSettings {}).follow
    (claimSteps ++ [.act .dropClone, .act (.drop 0), .act (.drop 2)])

/-! ## One holder -/

/-- A connection belongs to one wrapper, and a checked-out one to one handle. -/
structure ExclusivelyOwned (world : World σ) : Prop where
  /-- A wrapper is valid exactly if it holds a connection. -/
  isValid_iff_slot : ∀ w, world.pool.isValid w = true ↔ ∃ conn, world.pool.slot w = some conn
  /-- The valid wrappers are exactly the listed ones. -/
  isValid_iff_listed : ∀ w,
    world.pool.isValid w = true ↔ w ∈ world.pool.idle ∨ w ∈ world.pool.active
  /-- Every wrapper is listed at most once, and in one list only. -/
  listed_once : (world.pool.idle ++ world.pool.active).Nodup
  /-- No connection is held by two wrappers. -/
  slot_inj : ∀ v w conn, world.pool.slot v = some conn → world.pool.slot w = some conn → v = w
  /-- A handle that was not given back is valid exactly if its wrapper is checked
  out. -/
  handle_valid_iff : ∀ (h : HandleId) (handle : Handle), world.handles[h]? = some handle →
    handle.stage = .held → (world.isValid h = true ↔ handle.wrapper ∈ world.pool.active)
  /-- Every checkout belongs to exactly one handle that was not given back. -/
  active_held : ∀ w ∈ world.pool.active, ∃! h : HandleId, ∃ handle : Handle,
    world.handles[h]? = some handle ∧ handle.stage = .held ∧ handle.wrapper = w
  /-- No two valid handles stand for the same connection. -/
  realId_inj : ∀ g h, world.isValid g = true → world.isValid h = true →
    world.realId g = world.realId h → g = h

/-- A valid handle is one that was not given back and whose wrapper is valid. -/
theorem isValid_iff {world : World σ} {h : HandleId} :
    world.isValid h = true ↔ ∃ handle : Handle, world.handles[h]? = some handle ∧
      handle.stage = .held ∧ world.pool.isValid handle.wrapper = true := by
  unfold World.isValid
  cases found : world.handles[h]? with
  | none => simp
  | some handle => simp

theorem Orderly.exclusivelyOwned {world : World σ} (orderly : world.Orderly) :
    world.ExclusivelyOwned where
  isValid_iff_slot := orderly.owns.toCoherent.isValid_iff_slot
  isValid_iff_listed w := by
    rw [orderly.owns.isValid_iff, List.append_nil, List.mem_append]
  listed_once := by
    have nodup := orderly.owns.nodup
    rwa [List.append_nil] at nodup
  slot_inj _ _ _ hv hw := orderly.owns.slot_inj hv hw
  handle_valid_iff h handle found stage := by
    constructor
    · intro valid
      obtain ⟨same, hsame, -, hvalid⟩ := isValid_iff.1 valid
      rw [found] at hsame
      cases hsame
      exact orderly.owns.mem_active hvalid (orderly.handles.busy found).1
    · intro listed
      refine isValid_iff.2 ⟨handle, found, stage, (orderly.owns.isValid_iff _).2 ?_⟩
      simp [listed]
  active_held w hw := by
    obtain ⟨h, handle, found, wrapper, stage⟩ := orderly.handles.held w hw
    refine ⟨h, ⟨handle, found, stage, wrapper⟩, ?_⟩
    rintro g ⟨other, hg, -, same⟩
    exact orderly.handles.inj hg found (same.trans wrapper.symm)
  realId_inj g h validG validH same := by
    obtain ⟨first, hg, -, firstValid⟩ := isValid_iff.1 validG
    obtain ⟨second, hh, -, secondValid⟩ := isValid_iff.1 validH
    simp only [World.realId, hg, hh] at same
    exact orderly.handles.inj hg hh (orderly.owns.realId_inj firstValid secondValid same)

variable [Driver σ]

/-- In every world of a pool, connections have one holder. -/
theorem exclusivelyOwned_of_reachable {settings : Settings} {driver : σ} {world : World σ}
    (reachable : Reachable settings driver world) : world.ExclusivelyOwned :=
  reachable.sound.toOrderly.exclusivelyOwned

/-- The example world has an idle connection, and a checkout that was claimed from
the first handle. -/
theorem exclusivelyOwned_claimed : ∃ world, claimed = some world ∧
    world.pool.idle = [3] ∧ world.pool.active = [2] ∧
    world.handles.toList = [⟨0, .held⟩, ⟨1, .dropped⟩, ⟨2, .held⟩] ∧
    world.ExclusivelyOwned := by
  have run : claimed.map (fun world =>
      (world.pool.idle, world.pool.active, world.handles.toList)) =
      some ([3], [2], [⟨0, .held⟩, ⟨1, .dropped⟩, ⟨2, .held⟩]) := by decide +kernel
  obtain ⟨world, found, seen⟩ := Option.map_eq_some_iff.1 run
  simp only [Prod.mk.injEq] at seen
  exact ⟨world, found, seen.1, seen.2.1, seen.2.2,
    exclusivelyOwned_of_reachable (Reachable.start.follow found)⟩

/-! ## Limits -/

/-- The pools in which a step looks for a candidate, in the order in which it does
so. Only acquisitions look for one. -/
def searches (step : Step σ) (world : World σ) : List (Pool σ) :=
  match step with
  | .act (.acquire who) =>
      world.pool.lookups world.settings
        { who := who.getD world.settings.source.who, started := world.pool.now }
  | .wake place =>
      match world.sleepers[place]? with
      | none => []
      | some sleeper =>
          let slept := world.pool.now - sleeper.since
          (world.pool.count fun c => { c with waitTime := c.waitTime + slept }).lookups
            world.settings sleeper.acquisition
  | _ => []

theorem Orderly.tearDown_connects {world : World σ} (orderly : world.Orderly) :
    world.tearDown.pool.env.connects = world.pool.env.connects := by
  unfold World.tearDown
  split
  · exact (orderly.owns.forceCloseAll world.settings.source).connects
  · rfl

theorem Orderly.giveBack_connects {world : World σ} (orderly : world.Orderly) (h : HandleId)
    (stage : Stage) :
    (world.giveBack h stage).2.pool.env.connects = world.pool.env.connects := by
  unfold World.giveBack
  cases found : world.handles[h]? with
  | none => rfl
  | some handle =>
    dsimp only
    split
    · exact (orderly.owns.release world.settings.policy (orderly.handles.busy found).1).2.connects
    · rfl

theorem Orderly.proceed_connects {world : World σ} (orderly : world.Orderly) (ticket : Ticket)
    (acquisition : Acquisition) :
    (world.proceed ticket acquisition).pool.env.connects = world.pool.env.connects +
      (world.pool.lookups world.settings acquisition).countP (·.mayOpen world.settings.policy) := by
  unfold World.proceed
  rw [(record_frame _ _ _).1]
  exact orderly.owns.acquire_connects world.settings acquisition

theorem Orderly.reconfigure_connects {world : World σ} (orderly : world.Orderly)
    (change : Change) :
    (world.reconfigure change).2.pool.env.connects = world.pool.env.connects := by
  unfold World.reconfigure
  dsimp only
  split
  · exact (orderly.owns.forceCloseAll _).connects
  · rfl

/-- A step asks the driver for a connection once for each of its searches that finds
none idle and may have another one checked out, and at no other time. -/
theorem Sound.take_connects {world : World σ} (sound : world.Sound) (step : Step σ) :
    (world.take step).pool.env.connects = world.pool.env.connects +
      (world.searches step).countP (·.mayOpen world.settings.policy) := by
  have orderly := sound.toOrderly
  cases step with
  | wake place =>
    show (world.wakeAt place).pool.env.connects = _
    unfold searches
    dsimp only
    cases found : world.sleepers[place]? with
    | none =>
      unfold World.wakeAt
      rw [found]
      rfl
    | some sleeper =>
      have woken := orderly.roused place sleeper
      rw [wakeAt_eq found, (woken.proceed _ _).tearDown_connects]
      exact woken.proceed_connects sleeper.ticket sleeper.acquisition
  | act action =>
    cases action with
    | acquire who =>
      have next : Orderly { world with nextTicket := world.nextTicket + 1 } :=
        orderly.congr rfl rfl rfl
      show (world.acquire (who.getD world.settings.source.who)).2.pool.env.connects = _
      rw [acquire_eq]
      exact next.proceed_connects world.nextTicket _
    | request h request =>
      show (world.request h request).2.2.pool.env.connects = _
      rcases world.request_cases h request with ⟨-, closed⟩ | ⟨pool, keeps, after⟩
      · rw [closed]
        exact orderly.giveBack_connects h .closed
      · rw [after]
        exact keeps.connects
    | converse h dialogue =>
      obtain ⟨pool, keeps, after⟩ := world.exists_withConnection h dialogue.within_hold
      show (world.withConnection h dialogue.hold).2.pool.env.connects = _
      rw [after]
      exact keeps.connects
    | drop h =>
      have given := orderly.giveBack h .dropped
      exact given.tearDown_connects.trans (orderly.giveBack_connects h .dropped)
    | forceCloseAll => exact (orderly.owns.forceCloseAll world.settings.source).connects
    | shutDown =>
      have closed : Pool.Owns [] { world.pool with closed := true } :=
        orderly.owns.relist (.refl _)
      exact ((closed.forceCloseAll world.settings.source).note .poolClosed).connects
    | change change => exact orderly.reconfigure_connects change
    | addClone => rfl
    | dropClone =>
      have same : Orderly { world with clones := world.clones - 1 } := orderly.congr rfl rfl rfl
      exact same.tearDown_connects
    | elapse target => rfl
    | disturb update => rfl

/-- Wherever a step looks for a candidate, all connections are owned properly. -/
theorem Sound.owns_searches {world : World σ} (sound : world.Sound) (step : Step σ) :
    ∀ pool ∈ world.searches step, pool.Owns [] := by
  cases step with
  | wake place =>
    unfold searches
    dsimp only
    cases world.sleepers[place]? with
    | none => simp
    | some sleeper => exact (sound.owns.count _).owns_lookups world.settings sleeper.acquisition
  | act action =>
    cases action with
    | acquire who => exact sound.owns.owns_lookups world.settings _
    | _ => simp [searches]

/-- A pool stays within the limits that are set at the time, and it opens connections
only where it may. -/
structure WithinLimits (world : World σ) : Prop where
  /-- The idle connections and the checkouts together. -/
  listed_le : world.pool.idle.length + world.pool.active.length ≤
    world.settings.policy.maxActive
  /-- The idle connections alone. -/
  idle_le : world.pool.idle.length ≤ world.settings.policy.maxIdle
  /-- All connections that were opened and not closed. -/
  unclosed_le : ∀ conns : List ConnId, conns.Nodup →
    (∀ conn ∈ conns, world.pool.env.hasOpened conn = true ∧ world.pool.env.closes conn = 0) →
      conns.length ≤ world.settings.policy.maxActive
  /-- A step asks the driver for a connection as often as it looks for a candidate
  where none is idle and another one may be checked out. -/
  connects_step : ∀ step, (world.take step).pool.env.connects = world.pool.env.connects +
    (world.searches step).countP fun pool =>
      pool.idle.isEmpty && decide (pool.active.length < world.settings.policy.maxActive)
  /-- Each time it looks for one, it asks there if none is idle and another one may
  be checked out, once, and otherwise not at all. -/
  connects_search : ∀ step, ∀ pool ∈ world.searches step, ∀ who,
    (pool.nextCandidate world.settings who).2.env.connects = pool.env.connects +
      if pool.idle = [] ∧ pool.active.length < world.settings.policy.maxActive then 1 else 0

/-- In every world of a pool, the pool is within its limits. -/
theorem withinLimits_of_reachable {settings : Settings} {driver : σ} {world : World σ}
    (reachable : Reachable settings driver world) : world.WithinLimits where
  listed_le := reachable.sound.load
  idle_le := reachable.sound.idle
  unclosed_le _ nodup unclosed :=
    Nat.le_trans (reachable.sound.owns.length_le_load nodup unclosed) reachable.sound.load
  connects_step := reachable.sound.take_connects
  connects_search step pool searched who := by
    have owns := reachable.sound.owns_searches step pool searched
    have finds := Pool.search_finds owns world.settings who
    rw [finds.connects]
    simp only [Pool.mayOpen_iff]

/-- In the example world both places are taken, one of them by an idle connection. -/
theorem withinLimits_claimed : ∃ world, claimed = some world ∧
    world.pool.idle.length = 1 ∧ world.pool.active.length = 1 ∧
    world.settings.policy.maxActive = 2 ∧ world.WithinLimits := by
  have run : claimed.map (fun world => (world.pool.idle.length, world.pool.active.length,
      world.settings.policy.maxActive)) = some (1, 1, 2) := by decide +kernel
  obtain ⟨world, found, seen⟩ := Option.map_eq_some_iff.1 run
  simp only [Prod.mk.injEq] at seen
  exact ⟨world, found, seen.1, seen.2.1, seen.2.2,
    withinLimits_of_reachable (Reachable.start.follow found)⟩

/-! ## Closing -/

/-- Every connection that is not kept was closed by the pool, and none was closed
twice. -/
structure ClosedOnce (world : World σ) : Prop where
  /-- A connection whose wrapper is listed was not closed. -/
  closes_listed : ∀ w ∈ world.pool.idle ++ world.pool.active, ∀ conn,
    world.pool.slot w = some conn → world.pool.env.closes conn = 0
  /-- Any other connection that was opened was closed once. -/
  closes_unlisted : ∀ conn, world.pool.env.hasOpened conn = true →
    (∀ w ∈ world.pool.idle ++ world.pool.active, world.pool.slot w ≠ some conn) →
      world.pool.env.closes conn = 1
  /-- When nobody can reach the pool any more, every connection that was opened was
  closed once. -/
  closes_abandoned : world.isAbandoned = true → ∀ conn,
    world.pool.env.hasOpened conn = true → world.pool.env.closes conn = 1

/-- In every world of a pool, no connection leaked and none was closed twice. -/
theorem closedOnce_of_reachable {settings : Settings} {driver : σ} {world : World σ}
    (reachable : Reachable settings driver world) : world.ClosedOnce := by
  have sound := reachable.sound
  have unlisted : ∀ conn, world.pool.env.hasOpened conn = true →
      (∀ w ∈ world.pool.idle ++ world.pool.active, world.pool.slot w ≠ some conn) →
        world.pool.env.closes conn = 1 := by
    intro conn opened lost
    apply sound.owns.accounts.closes_lost ((sound.owns.accounts.hasOpened_iff conn).1 opened)
    rintro ⟨w, hw⟩
    exact lost w (by simpa using sound.owns.mem_of_slot hw) hw
  exact {
    closes_listed := fun w _ conn hw => sound.owns.accounts.closes_held ⟨w, hw⟩
    closes_unlisted := unlisted
    closes_abandoned := by
      intro abandoned conn opened
      obtain ⟨idle, active⟩ := sound.abandoned abandoned
      apply unlisted conn opened
      simp [idle, active] }

/-- In the end everybody has left: both connections were opened, and each was closed
once. -/
theorem closedOnce_deserted : ∃ world, deserted = some world ∧ world.isAbandoned = true ∧
    world.pool.env.hasOpened 0 = true ∧ world.pool.env.hasOpened 1 = true ∧
    world.ClosedOnce := by
  have run : deserted.map (fun world =>
      (world.isAbandoned, world.pool.env.hasOpened 0, world.pool.env.hasOpened 1)) =
      some (true, true, true) := by decide +kernel
  obtain ⟨world, found, seen⟩ := Option.map_eq_some_iff.1 run
  simp only [Prod.mk.injEq] at seen
  exact ⟨world, found, seen.1, seen.2.1, seen.2.2,
    closedOnce_of_reachable (Reachable.start.follow found)⟩

end World

end ConnectionPooling
