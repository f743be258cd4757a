/-
# Closing all connections by force

When the pool takes all connections away, it goes through the checkouts and then through the
idle queue, each from the front to the back. Every connection gets the same requests: whether it
commits by itself, a rollback if it does not, and a close. The close is made whatever the driver
answered before, and no answer keeps the pool from going on.

This is shown of every way in which it can happen: because a caller asks for it, because a
setting was changed, because the pool is closed, and because nobody is left who could use it.
-/

import ConnectionPooling.Proofs.Decision

namespace ConnectionPooling

/-- What the driver is asked when the connection `conn` is shut down, the latest request first. A
transaction is undone if that works, and the connection is closed in any case. -/
inductive ShutsDown (conn : ConnId) : List Entry → Prop
  | closed {result : Except ConnectionError Unit} {undone : List Entry}
      (undoes : Undoes conn result undone) (answer : Except ConnectionError Unit) :
      ShutsDown conn (.call .pool conn .close answer :: undone)

variable {σ : Type}

namespace Pool

/-- The connections of some wrappers are shut down, one after the other and each of them once.
Among the requests the latest comes first. -/
inductive Walks (pool : Pool σ) : List WrapperId → List Entry → Prop
  | nil : Walks pool [] []
  | cons {w : WrapperId} {rest : List WrapperId} {conn : ConnId} {first later : List Entry}
      (held : pool.slot w = some conn) (shuts : ShutsDown conn first)
      (walks : Walks pool rest later) : Walks pool (w :: rest) (later ++ first)

/-- Which connections are shut down depends on where they are held. -/
theorem Walks.mono {before after : Pool σ} {wrappers : List WrapperId} {asked : List Entry}
    (walks : after.Walks wrappers asked)
    (held : ∀ w conn, after.slot w = some conn → before.slot w = some conn) :
    before.Walks wrappers asked := by
  induction walks with
  | nil => exact .nil
  | cons slot shuts _ ih => exact .cons (held _ _ slot) shuts ih

/-- From `before` to `after` the pool lost all its connections, in order, and nothing else
changed but the fingerprint that it expects. -/
structure Clears (source : DataSource) (before after : Pool σ) : Prop where
  /-- The checkouts are shut down from the front to the back, and then the idle connections. The
  driver is asked nothing else. -/
  asked : ∃ asked, before.Walks (before.active ++ before.idle) asked ∧
    before.env.Hears asked after.env
  idle : after.idle = []
  active : after.active = []
  /-- No wrapper is of any use now. -/
  invalid : ∀ w, after.isValid w = false
  counters : after.counters = before.counters
  lastRealId : after.lastRealId = before.lastRealId
  expected : after.expected = source.fingerprint

theorem Clears.note {source : DataSource} {before after : Pool σ}
    (clears : before.Clears source after) (event : Event) :
    before.Clears source (after.note event) where
  asked := by
    obtain ⟨asked, walks, hears⟩ := clears.asked
    exact ⟨asked, walks, hears.event event⟩
  idle := clears.idle
  active := clears.active
  invalid := clears.invalid
  counters := clears.counters
  lastRealId := clears.lastRealId
  expected := clears.expected

variable [Driver σ]

/-- Closing the first wrapper in hand by force shuts its connection down, and no wrapper gets
one. -/
theorem Owns.exists_shutsDown {pool : Pool σ} {w : WrapperId} {inHand : List WrapperId}
    (owns : pool.Owns (w :: inHand)) :
    ∃ conn asked, pool.slot w = some conn ∧ ShutsDown conn asked ∧
      pool.env.Hears asked (pool.forceClose w).env ∧
      ∀ v other, (pool.forceClose w).slot v = some other → pool.slot v = some other := by
  obtain ⟨wrapper, conn, holds⟩ := owns.exists_holds_hand
  obtain ⟨result, undone, answer, undoes, hears⟩ :=
    Exchange.exists_hears_shutDown conn pool.env
  have asked := Exchange.hears_orComplain hears (.forcedCloseFailed (pool.realId w))
  unfold Pool.forceClose
  rw [holds.dispose]
  refine ⟨conn, _, holds.slot, .closed undoes answer, asked, fun v other held => ?_⟩
  rw [slot_spend] at held
  split at held
  · cases held
  · exact held

/-- Closing all wrappers in hand by force shuts their connections down in this order. -/
theorem Owns.exists_walks {pool : Pool σ} {inHand : List WrapperId} (owns : pool.Owns inHand) :
    ∃ asked, pool.Walks inHand asked ∧
      pool.env.Hears asked (inHand.foldl Pool.forceClose pool).env := by
  induction inHand generalizing pool with
  | nil => exact ⟨[], .nil, rfl⟩
  | cons w rest ih =>
    obtain ⟨conn, first, held, shuts, hears, kept⟩ := owns.exists_shutsDown
    obtain ⟨later, walks, rest⟩ := ih owns.forceClose.1
    exact ⟨later ++ first, .cons held shuts (walks.mono kept), hears.trans rest⟩

theorem foldl_forceClose_lastRealId (wrappers : List WrapperId) (pool : Pool σ) :
    (wrappers.foldl forceClose pool).lastRealId = pool.lastRealId := by
  induction wrappers generalizing pool with
  | nil => rfl
  | cons w rest ih =>
    rw [List.foldl_cons, ih]
    unfold forceClose dispose invalidate
    cases pool.wrappers[w]?.bind Wrapper.slot <;> rfl

omit [Driver σ] in
/-- A pool without connections has no wrapper that is of use. -/
theorem Empties.invalid {before after : Pool σ} (empties : before.Empties after)
    (w : WrapperId) : after.isValid w = false := by
  refine Bool.eq_false_iff.2 fun valid => ?_
  have listed := (empties.owns.isValid_iff w).1 valid
  simp [empties.idle, empties.active] at listed

/-- Closing all connections by force clears the pool. -/
theorem Owns.clears {pool : Pool σ} (owns : pool.Owns []) (source : DataSource) :
    pool.Clears source (pool.forceCloseAll source) := by
  have drains := owns.drains source
  have taken : Owns (pool.active ++ pool.idle)
      { pool with expected := source.fingerprint, active := [], idle := [] } := by
    apply owns.relist
    rw [List.append_nil, List.nil_append, List.append_nil]
    exact List.perm_append_comm
  obtain ⟨asked, walks, hears⟩ := taken.exists_walks
  exact {
    asked := ⟨asked, walks.mono fun _ _ held => held, hears.event _⟩
    idle := drains.idle
    active := drains.active
    invalid := drains.toEmpties.invalid
    counters := (pool.forceCloseAll_same source).1
    lastRealId := foldl_forceClose_lastRealId _ _
    expected := drains.expected }

omit [Driver σ] in
/-- A pool that has no connections is clear already. -/
theorem Owns.clears_self {pool : Pool σ} (owns : pool.Owns []) {source : DataSource}
    (idle : pool.idle = []) (active : pool.active = [])
    (expected : pool.expected = source.fingerprint) : pool.Clears source pool where
  asked := by
    rw [idle, active]
    exact ⟨[], .nil, rfl⟩
  idle := idle
  active := active
  invalid := by
    have empties : pool.Empties pool := ⟨owns, idle, active, Nat.le_refl _, rfl⟩
    exact empties.invalid
  counters := rfl
  lastRealId := rfl
  expected := expected

end Pool

namespace World

variable [Driver σ] {world : World σ}

/-- Whoever takes all connections away from the pool clears it, and everybody is notified. -/
theorem Orderly.clears_of_barrier (orderly : world.Orderly) {action : Action σ}
    (barrier : action.IsBarrier) :
    (world.act action).1 = .all ∧ world.pool.Clears (world.act action).2.settings.source
      (world.act action).2.pool := by
  cases barrier with
  | forceCloseAll => exact ⟨rfl, orderly.owns.clears _⟩
  | shutDown =>
    have closed : Pool.Owns [] { world.pool with closed := true } := orderly.owns.relist (.refl _)
    have clears := (closed.clears world.settings.source).note .poolClosed
    obtain ⟨asked, walks, hears⟩ := clears.asked
    have held : world.pool.Walks (world.pool.active ++ world.pool.idle) asked :=
      walks.mono fun _ _ held => held
    exact ⟨rfl, ⟨asked, held, hears⟩, clears.idle, clears.active, clears.invalid,
      clears.counters, clears.lastRealId, clears.expected⟩
  | @change change real =>
    have drains : change.drains = true := by
      cases change with
      | tolerance count => exact absurd rfl (real count)
      | _ => rfl
    have clears := orderly.owns.clears (change.apply world.settings).source
    show (world.reconfigure change).1 = .all ∧ world.pool.Clears
      (world.reconfigure change).2.settings.source (world.reconfigure change).2.pool
    unfold World.reconfigure
    dsimp only
    rw [if_pos drains]
    exact ⟨rfl, clears⟩

/-- If a step leaves nobody who could use the pool, then it clears the pool in the end. -/
theorem Reachable.clears_of_abandoned {settings : Settings} {driver : σ}
    (reachable : Reachable settings driver world) {step : Step σ}
    (allowed : world.allows step = true) (abandoned : (world.take step).isAbandoned = true) :
    ∃ pool, Operates step world pool ∧
      pool.Clears (world.take step).settings.source (world.take step).pool := by
  have late := reachable.step step allowed
  have expected := late.tended.expected
  obtain ⟨pool, operates, ends⟩ := reachable.sound.toOrderly.operates step
  refine ⟨pool, operates, ?_⟩
  cases ends with
  | reached same =>
    obtain ⟨idle, active⟩ := late.sound.abandoned abandoned
    rw [← same]
    exact late.sound.owns.clears_self idle active expected
  | abandoned owns ended =>
    have clears := owns.clears world.settings.source
    rw [← ended] at clears
    exact { clears with expected := expected }

/-- Taking all connections away reaches every one of them. -/
structure ReachesAll (world : World σ) : Prop where
  /-- Whoever closes all connections by force, changes a setting that concerns them, or closes
  the pool, clears the pool, whatever the driver answers. Nobody learns of an error. -/
  barrier : ∀ action : Action σ, action.IsBarrier →
    (world.act action).1 = .all ∧ world.pool.Clears (world.take (.act action)).settings.source
      (world.take (.act action)).pool
  /-- A step that leaves nobody who could use the pool clears the pool too, after the operation
  that it asks for. -/
  ended : ∀ step, world.allows step = true → (world.take step).isAbandoned = true →
    ∃ pool, Operates step world pool ∧
      pool.Clears (world.take step).settings.source (world.take step).pool
  /-- The pool expects the fingerprint of the url and of the credentials that the data source
  has now. -/
  expected : world.pool.expected =
    Fingerprint.of world.settings.source.url world.settings.source.who

/-- In every reachable world taking all connections away reaches all of them. -/
theorem reachesAll_of_reachable {settings : Settings} {driver : σ}
    (reachable : Reachable settings driver world) : world.ReachesAll where
  barrier _ barrier := reachable.sound.toOrderly.clears_of_barrier barrier
  ended _ allowed abandoned := reachable.clears_of_abandoned allowed abandoned
  expected := reachable.tended.expected

/-- In the example world the other side of the first connection goes away, and the second
connection cannot be closed any more. -/
def failingSteps : List (Step Simulation.State) :=
  let failing (driver : Simulation.State) : Simulation.State :=
    let first := driver.connections.modify 0 ({ · with behaviour.dead := true })
    let second := first.modify 1 ({ · with behaviour.faults := [(.close, ⟨.closed, none⟩)] })
    { driver with connections := second }
  claimSteps ++ [.act (.disturb failing)]

/-- The first connection of the example is checked out and the second one is idle. Closing all
connections by force reaches both of them. -/
theorem reachesAll_failing : ∃ world : World Simulation.State,
    (World.start tightSettings {}).follow failingSteps = some world ∧
    world.pool.active = [2] ∧ world.pool.idle = [3] ∧
    (world.act .forceCloseAll).2.pool.env.closes 0 = 1 ∧
    (world.act .forceCloseAll).2.pool.env.closes 1 = 1 ∧ world.ReachesAll := by
  have run : ((World.start tightSettings ({} : Simulation.State)).follow failingSteps).map
      (fun world => (world.pool.active, world.pool.idle,
        (world.act .forceCloseAll).2.pool.env.closes 0,
        (world.act .forceCloseAll).2.pool.env.closes 1)) =
      some ([2], [3], 1, 1) := by decide +kernel
  obtain ⟨world, found, seen⟩ := Option.map_eq_some_iff.1 run
  simp only [Prod.mk.injEq] at seen
  exact ⟨world, found, seen.1, seen.2.1, seen.2.2.1, seen.2.2.2,
    reachesAll_of_reachable (Reachable.start.follow found)⟩

end World

end ConnectionPooling
