/-
# What every step keeps

`Orderly` is the invariant of a world: the pool owns its connections properly and
answers for no more of them than its policy allows, and every checkout belongs to
the one handle that was not given back. `Sound` adds that nothing is listed once
nobody can reach the pool any more.

Each operation of a world is shown to keep `Orderly`, under any answers of the
driver, and each step of a run to keep `Sound`. All that is proved elsewhere about
reachable worlds starts from `Reachable.sound`.
-/

import ConnectionPooling.Proofs.Run
import ConnectionPooling.Proofs.Handles

namespace ConnectionPooling

namespace World

variable {σ α : Type}

/-- The pool of a world owns its connections properly, within the limits, and its
checkouts are those of the handles that were not given back. -/
structure Orderly (world : World σ) : Prop where
  owns : world.pool.Owns []
  load : world.pool.load ≤ world.settings.policy.maxActive
  idle : world.pool.idle.length ≤ world.settings.policy.maxIdle
  handles : Assigns world.handles world.pool

/-- A world is sound if it is orderly and nothing is listed in a pool that nobody
can reach. -/
structure Sound (world : World σ) : Prop extends Orderly world where
  abandoned : world.isAbandoned = true → world.pool.idle = [] ∧ world.pool.active = []

/-! ## Worlds that somebody can still reach -/

theorem isAbandoned_of_clones {world : World σ} (h : world.clones ≠ 0) :
    world.isAbandoned = false := by
  simp [isAbandoned, h]

theorem isAbandoned_of_handle {world : World σ} {h : HandleId} {handle : Handle}
    (found : world.handles[h]? = some handle) (kept : handle.stage ≠ .dropped) :
    world.isAbandoned = false := by
  obtain ⟨inside, same⟩ := Array.getElem?_eq_some_iff.1 found
  rw [← Bool.not_eq_true]
  intro abandoned
  simp only [isAbandoned, Bool.and_eq_true, Array.all_eq_true, beq_iff_eq] at abandoned
  exact kept (same ▸ abandoned.2 h inside)

/-- An orderly world that somebody can still reach is sound. -/
theorem Orderly.sound {world : World σ} (orderly : world.Orderly)
    (reached : world.isAbandoned = false) : world.Sound :=
  ⟨orderly, fun abandoned => by simp [reached] at abandoned⟩

/-! ## Changes of the pool that hand nothing out -/

/-- An orderly world remains so when the pool was only drawn on and the limits did
not get tighter. -/
theorem Orderly.draw {world after : World σ} (orderly : world.Orderly)
    (maxActive : world.settings.policy.maxActive ≤ after.settings.policy.maxActive)
    (maxIdle : world.settings.policy.maxIdle ≤ after.settings.policy.maxIdle)
    (handles : after.handles = world.handles) (owns : after.pool.Owns [])
    (draws : world.pool.Draws after.pool) : after.Orderly where
  owns := owns
  load := Nat.le_trans draws.load_le (Nat.le_trans orderly.load maxActive)
  idle := Nat.le_trans draws.idle.length_le (Nat.le_trans orderly.idle maxIdle)
  handles := handles ▸ orderly.handles.draw draws

/-- Whether a world is orderly depends on its settings, its pool and its handles. -/
theorem Orderly.congr {world after : World σ} (orderly : world.Orderly)
    (settings : after.settings = world.settings) (pool : after.pool = world.pool)
    (handles : after.handles = world.handles) : after.Orderly :=
  orderly.draw (settings ▸ Nat.le_refl _) (settings ▸ Nat.le_refl _) handles
    (pool ▸ orderly.owns) (pool ▸ .refl _)

/-- The limits do not matter when nothing is listed, nor who can reach the pool. -/
theorem Orderly.empty {world after : World σ} (orderly : world.Orderly)
    (handles : after.handles = world.handles) (empties : world.pool.Empties after.pool) :
    after.Sound where
  owns := empties.owns
  load := by simp [Pool.load, empties.idle, empties.active]
  idle := by simp [empties.idle]
  handles := {
    inj := handles ▸ orderly.handles.inj
    busy := fun found => by
      have inside := (orderly.handles.busy (handles ▸ found)).2
      exact ⟨by simp [empties.idle], Nat.lt_of_lt_of_le inside empties.size⟩
    held := by simp [empties.active] }
  abandoned _ := ⟨empties.idle, empties.active⟩

theorem Orderly.keep {world : World σ} (orderly : world.Orderly) {pool : Pool σ}
    (keeps : world.pool.Keeps pool) : Orderly { world with pool := pool } :=
  have owns : pool.Owns [] := keeps.owns orderly.owns
  have draws : world.pool.Draws pool := keeps.draws
  orderly.draw (Nat.le_refl _) (Nat.le_refl _) rfl owns draws

/-- A sound world remains so when all connections stay where they are. -/
theorem Sound.keep {world : World σ} (sound : world.Sound) {pool : Pool σ}
    (keeps : world.pool.Keeps pool) : Sound { world with pool := pool } where
  toOrderly := sound.toOrderly.keep keeps
  abandoned gone := by
    obtain ⟨idle, active⟩ := sound.abandoned gone
    exact ⟨keeps.idle.trans idle, keeps.active.trans active⟩

/-- The world in which a sleeper has left the queue, and how long it slept is
counted. -/
def roused (place : Nat) (sleeper : Sleeper) (world : World σ) : World σ :=
  { world with
    sleepers := world.sleepers.eraseIdx place
    pool := world.pool.count fun c =>
      { c with waitTime := c.waitTime + (world.pool.now - sleeper.since) } }

theorem Orderly.roused {world : World σ} (orderly : world.Orderly) (place : Nat)
    (sleeper : Sleeper) : (world.roused place sleeper).Orderly :=
  have counted := orderly.keep (world.pool.keeps_count fun c =>
    { c with waitTime := c.waitTime + (world.pool.now - sleeper.since) })
  counted.congr rfl rfl rfl

/-- Talking to the connection of a handle leaves every connection where it is. -/
theorem exists_withConnection (world : World σ) (h : HandleId) {work : ConnId → Exchange σ α}
    (talks : ∀ conn, Exchange.Within Entry.IsTalk (work conn)) :
    ∃ pool, world.pool.Keeps pool ∧
      (world.withConnection h work).2 = { world with pool := pool } := by
  have same : world.pool.Keeps world.pool := world.pool.keeps_talk (.refl _ _)
  unfold World.withConnection
  cases world.handles[h]? with
  | none => exact ⟨world.pool, same, rfl⟩
  | some handle =>
    dsimp only
    by_cases stage : handle.stage = .held
    · rw [if_pos stage]
      exact ⟨_, (world.pool.keeps_withConnection handle.wrapper talks).trans
        (Pool.keeps_touch _ handle.wrapper), rfl⟩
    · rw [if_neg stage]
      exact ⟨world.pool, same, rfl⟩

/-! ## Handing out -/

/-- A record of how far an acquisition got keeps a world orderly: a wrapper that was
granted gets a handle of its own. -/
theorem Orderly.record {before world : World σ} (orderly : before.Orderly)
    (settings : world.settings = before.settings) (handles : world.handles = before.handles)
    {progress : Progress} (owns : world.pool.Owns [])
    (leaves : before.pool.Leaves progress world.pool)
    (load : world.pool.load ≤ before.settings.policy.maxActive) (ticket : Ticket) :
    (world.record ticket progress).Orderly := by
  have idle : world.pool.idle.length ≤ before.settings.policy.maxIdle :=
    Nat.le_trans leaves.idle.length_le orderly.idle
  rw [← settings] at load idle
  have same (none : progress.grant = []) : Assigns world.handles world.pool :=
    handles ▸ orderly.handles.draw (leaves.draws none)
  cases progress with
  | failed error => exact ⟨owns, load, idle, same rfl⟩
  | asleep acquisition => exact ⟨owns, load, idle, same rfl⟩
  | granted w =>
    have granted : Assigns (world.handles.push { wrapper := w }) world.pool :=
      handles ▸ orderly.handles.grant owns leaves
    exact ⟨owns, load, idle, granted⟩

/-- A record changes neither the pool nor who owns it. -/
theorem record_frame (ticket : Ticket) (progress : Progress) (world : World σ) :
    (world.record ticket progress).pool = world.pool ∧
      (world.record ticket progress).clones = world.clones := by
  cases progress <;> exact ⟨rfl, rfl⟩

/-! ## Operations of a world -/

variable [Driver σ]

/-- A pool that somebody can reach goes on. -/
theorem tearDown_of_reached {world : World σ} (reached : world.isAbandoned = false) :
    world.tearDown = world := by
  unfold World.tearDown
  rw [reached]
  rfl

/-- Ending a pool that nobody can reach makes an orderly world sound. -/
theorem Orderly.tearDown {world : World σ} (orderly : world.Orderly) : world.tearDown.Sound := by
  unfold World.tearDown
  split
  · have empties := orderly.owns.forceCloseAll world.settings.source
    exact orderly.empty rfl empties
  · rename_i listed
    refine ⟨orderly, fun abandoned => ?_⟩
    simpa [abandoned] using listed

/-- An acquisition looks for a connection, and how far it gets is recorded. This is
what a new acquisition and one that wakes have in common. -/
def proceed (ticket : Ticket) (acquisition : Acquisition) (world : World σ) : World σ :=
  World.record ticket (world.pool.acquire world.settings acquisition).1
    { world with pool := (world.pool.acquire world.settings acquisition).2 }

/-- A new acquisition takes the next ticket and goes on with it. -/
theorem acquire_eq (who : Credentials) (world : World σ) :
    (world.acquire who).2 =
      ({ world with nextTicket := world.nextTicket + 1 } : World σ).proceed world.nextTicket
        { who := who, started := world.pool.now } := rfl

/-- A sleeper that wakes goes on where it left off. -/
theorem wakeAt_eq {world : World σ} {place : Nat} {sleeper : Sleeper}
    (found : world.sleepers[place]? = some sleeper) :
    world.wakeAt place =
      ((world.roused place sleeper).proceed sleeper.ticket sleeper.acquisition).tearDown := by
  unfold World.wakeAt
  rw [found]
  rfl

/-- An acquisition that goes on keeps its world orderly, whatever it comes to. -/
theorem Orderly.proceed {world : World σ} (orderly : world.Orderly) (ticket : Ticket)
    (acquisition : Acquisition) : (world.proceed ticket acquisition).Orderly := by
  have owns := orderly.owns.acquire world.settings acquisition
  have leaves := orderly.owns.acquire_leaves world.settings acquisition
  have load : (world.pool.acquire world.settings acquisition).2.load ≤
      world.settings.policy.maxActive := by
    rcases Pool.acquire_cases world.settings acquisition world.pool with
      ⟨-, refused⟩ | ⟨-, acquires⟩
    · rw [refused]
      exact orderly.load
    · exact acquires.load orderly.owns orderly.load
  refine orderly.record ?_ ?_ owns leaves load ticket
  · rfl
  · rfl

theorem Sound.wakeAt {world : World σ} (sound : world.Sound) (place : Nat) :
    (world.wakeAt place).Sound := by
  cases found : world.sleepers[place]? with
  | none =>
    unfold World.wakeAt
    rw [found]
    exact sound
  | some sleeper =>
    rw [wakeAt_eq found]
    exact ((sound.toOrderly.roused place sleeper).proceed _ _).tearDown

/-- A handle that is given back is in its new stage. -/
theorem giveBack_self {world : World σ} {h : HandleId} {handle : Handle}
    (found : world.handles[h]? = some handle) (stage : Stage) :
    (world.giveBack h stage).2.handles[h]? = some { handle with stage := stage } := by
  have modified : (world.handles.modify h ({ · with stage := stage }))[h]? =
      some { handle with stage := stage } := by
    rw [Array.getElem?_modify, if_pos rfl, found, Option.map_some]
  unfold World.giveBack
  rw [found]
  dsimp only
  split <;> exact modified

/-- Giving a handle back keeps a world orderly. -/
theorem Orderly.giveBack {world : World σ} (orderly : world.Orderly) (h : HandleId)
    (stage : Stage) : (world.giveBack h stage).2.Orderly := by
  unfold World.giveBack
  cases found : world.handles[h]? with
  | none => exact orderly
  | some handle =>
    dsimp only
    by_cases kept : handle.stage = .held
    · rw [if_pos kept]
      obtain ⟨owns, releases⟩ :=
        orderly.owns.release world.settings.policy (orderly.handles.busy found).1
      have nodup : world.pool.active.Nodup := by
        have listed := orderly.owns.nodup
        rw [List.append_nil] at listed
        exact listed.of_append_right
      refine ⟨owns, Nat.le_trans releases.load_le orderly.load,
        releases.idle_le orderly.idle, ?_⟩
      apply orderly.handles.giveBack found stage (fun w => releases.mem_idle) releases.size
      intro w hw
      rw [releases.active, nodup.mem_erase_iff] at hw
      exact ⟨hw.2, fun _ => hw.1⟩
    · rw [if_neg kept]
      refine ⟨orderly.owns, orderly.load, orderly.idle, ?_⟩
      apply orderly.handles.giveBack found stage (fun w => .inl) (Nat.le_refl _)
      exact fun w hw => ⟨hw, fun stillHeld => absurd stillHeld kept⟩

theorem Orderly.forceCloseAll {world : World σ} (orderly : world.Orderly) (settings : Settings) :
    ({ world with settings := settings }.forceCloseAll).2.Sound := by
  have empties := orderly.owns.forceCloseAll settings.source
  exact orderly.empty rfl empties

theorem Orderly.shutDown {world : World σ} (orderly : world.Orderly) :
    world.shutDown.2.Sound := by
  have closed : Pool.Owns [] { world.pool with closed := true } := orderly.owns.relist (.refl _)
  have empties := (closed.forceCloseAll world.settings.source).note .poolClosed
  exact orderly.empty rfl
    ⟨empties.owns, empties.idle, empties.active, empties.size, empties.connects⟩

/-- A change of a setting closes everything, unless it leaves the limits as they
are. -/
theorem Sound.reconfigure {world : World σ} (sound : world.Sound) (change : Change) :
    (world.reconfigure change).2.Sound := by
  unfold World.reconfigure
  dsimp only
  by_cases drains : change.drains = true
  · rw [if_pos drains]
    exact sound.toOrderly.forceCloseAll _
  · rw [if_neg drains]
    cases change with
    | tolerance count =>
      -- The tolerance is a setting too, but not one of the limits.
      exact ⟨sound.draw (Nat.le_refl _) (Nat.le_refl _) rfl sound.owns (.refl _), sound.abandoned⟩
    | _ => exact absurd rfl drains

/-- A handle that is closed remains with its holder. -/
theorem Sound.close {world : World σ} (sound : world.Sound) {h : HandleId}
    (own : world.hasHandle h = true) : (world.close h).2.Sound := by
  apply (sound.toOrderly.giveBack h .closed).sound
  obtain ⟨handle, found, -⟩ := (Option.any_eq_true _ _).1 own
  apply isAbandoned_of_handle (giveBack_self found .closed)
  exact Stage.noConfusion

theorem Sound.drop {world : World σ} (sound : world.Sound) (h : HandleId) :
    (world.drop h).2.Sound :=
  (sound.toOrderly.giveBack h .dropped).tearDown

/-- A handle that is used like a connection is closed, or all connections stay where
they are and nobody is notified. -/
theorem request_cases (world : World σ) (h : HandleId) (request : Request) :
    (request = .close ∧ (world.request h request).2 = world.close h) ∨
      ∃ pool, world.pool.Keeps pool ∧
        (world.request h request).2 = (.none, { world with pool := pool }) := by
  have asked : ∃ pool, world.pool.Keeps pool ∧
      (world.withConnection h (Exchange.call .holder · request)).2 =
        { world with pool := pool } :=
    world.exists_withConnection h fun conn =>
      Exchange.within_call (Entry.isTalk_holder conn request)
  obtain ⟨pool, keeps, same⟩ := asked
  cases request with
  | close => exact .inl ⟨rfl, rfl⟩
  | isClosed =>
    right
    unfold World.request
    dsimp only
    split
    · exact ⟨world.pool, world.pool.keeps_talk (.refl _ _), rfl⟩
    · exact ⟨pool, keeps, Prod.ext rfl same⟩
  | _ => exact .inr ⟨pool, keeps, Prod.ext rfl same⟩

/-- Whatever a caller or the outside world does, the world remains sound. -/
theorem Sound.act {world : World σ} (sound : world.Sound) {action : Action σ}
    (permitted : world.permits action = true) : (world.act action).2.Sound := by
  cases action with
  | acquire who =>
    have next : Orderly { world with nextTicket := world.nextTicket + 1 } :=
      sound.congr rfl rfl rfl
    show (world.acquire (who.getD world.settings.source.who)).2.Sound
    rw [acquire_eq]
    apply (next.proceed _ _).sound
    apply isAbandoned_of_clones
    unfold World.proceed
    rw [(record_frame _ _ _).2]
    simpa [permits] using permitted
  | request h request =>
    show (world.request h request).2.2.Sound
    rcases world.request_cases h request with ⟨-, closed⟩ | ⟨pool, keeps, after⟩
    · rw [closed]
      exact sound.close permitted
    · rw [after]
      exact sound.keep keeps
  | converse h dialogue =>
    obtain ⟨pool, keeps, after⟩ := world.exists_withConnection h dialogue.within_hold
    show (world.withConnection h dialogue.hold).2.Sound
    rw [after]
    exact sound.keep keeps
  | drop h => exact sound.drop h
  | forceCloseAll => exact sound.toOrderly.forceCloseAll world.settings
  | shutDown => exact sound.toOrderly.shutDown
  | change change => exact sound.reconfigure change
  | addClone =>
    have same : Orderly world.addClone := sound.congr rfl rfl rfl
    exact same.sound (isAbandoned_of_clones (Nat.succ_ne_zero _))
  | dropClone =>
    have same : Orderly { world with clones := world.clones - 1 } := sound.congr rfl rfl rfl
    exact same.tearDown
  | elapse target => exact sound.keep (world.pool.keeps_talk (Environment.talks_elapse _ _))
  | disturb update => exact sound.keep (world.pool.keeps_talk (Environment.talks_disturb _ _))

/-- Every step keeps a world sound. -/
theorem Sound.take {world : World σ} (sound : world.Sound) {step : Step σ}
    (allowed : world.allows step = true) : (world.take step).Sound := by
  cases step with
  | act action => exact sound.act allowed
  | wake place => exact sound.wakeAt place

omit [Driver σ] in
/-- Nothing is listed in a new pool, and it has no handles. -/
theorem sound_start (settings : Settings) (driver : σ) :
    (World.start settings driver).Sound where
  owns := {
    valid_iff_slot := by simp [start]
    slot_inj := by simp [start, Pool.slot]
    realId_inj := by simp [start, Pool.isValid]
    realId_le := by simp [start, Pool.realId]
    accounts := {
      held_lt := by simp [start, Pool.IsHeld, Pool.slot]
      hasOpened_iff := by simp [start, Environment.hasOpened]
      closes_held := by simp [start, Pool.IsHeld, Pool.slot]
      closes_lost := by simp [start]
      closes_unopened := by simp [start, Environment.closes] }
    nodup := by simp [start]
    isValid_iff := by simp [start, Pool.isValid] }
  load := Nat.zero_le _
  idle := Nat.zero_le _
  handles := {
    inj := by simp [start]
    busy := by simp [start]
    held := by simp [start] }
  abandoned _ := ⟨rfl, rfl⟩

/-- Every world that a new pool may come to is sound. -/
theorem Reachable.sound {settings : Settings} {driver : σ} {world : World σ}
    (reachable : Reachable settings driver world) : world.Sound := by
  induction reachable with
  | start => exact sound_start settings driver
  | step _ step allowed ih => exact ih.take allowed

end World

end ConnectionPooling
