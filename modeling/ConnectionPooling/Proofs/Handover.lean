/-
# Handing a connection over

No transaction goes from one holder of a connection to the next. When a connection is
handed out, the last thing said to it was said by the pool and made sure that no
transaction is open, and so it is as long as the connection is idle. The holders before
cannot interfere: they reach the connection no more, and a holder speaks only through a
handle that reaches it.
-/

import ConnectionPooling.Proofs.Tenure

namespace ConnectionPooling

namespace World

variable {σ : Type}

/-- No two handles reach the same connection. -/
theorem Orderly.reach_inj {world : World σ} (orderly : world.Orderly) {g h : HandleId}
    {conn : ConnId} (first : world.reach g = some conn) (second : world.reach h = some conn) :
    g = h := by
  obtain ⟨v, outG, reachG⟩ := reach_eq_some.1 first
  obtain ⟨w, outH, reachH⟩ := reach_eq_some.1 second
  obtain rfl := orderly.owns.slot_inj (Pool.slot_of_reach reachG) (Pool.slot_of_reach reachH)
  exact orderly.checkout_inj outG outH

/-- No handle reaches an idle connection. -/
theorem Orderly.reach_ne_idle {world : World σ} (orderly : world.Orderly) {w : WrapperId}
    (idle : w ∈ world.pool.idle) {conn : ConnId} (held : world.pool.slot w = some conn)
    (h : HandleId) : world.reach h ≠ some conn := by
  intro reach
  obtain ⟨v, out, found⟩ := reach_eq_some.1 reach
  obtain ⟨handle, exist, -, rfl⟩ := checkout_eq_some.1 out
  obtain rfl := orderly.owns.slot_inj held (Pool.slot_of_reach found)
  exact (orderly.handles.busy exist).1 idle

variable [Driver σ]

/-- Only the holder who does something in a step says anything in it, and only to the
connection that the handle reaches. -/
theorem Sound.spoken_take {world : World σ} (sound : world.Sound) {step : Step σ}
    {conn : ConnId} (silent : ∀ h, step.speaker = some h → world.reach h ≠ some conn) :
    (world.take step).pool.env.spoken conn = world.pool.env.spoken conn := by
  apply (sound.turn step).extends.spoken
  intro entry lets
  rw [← Bool.not_eq_true]
  intro spoken
  obtain ⟨h, speaker, reach⟩ := Option.bind_eq_some_iff.1 (lets conn spoken)
  exact silent h speaker reach

/-- Connections change hands in a clean state, and earlier holders cannot reach them. -/
structure HandsOverClean (world : World σ) : Prop where
  /-- The last thing said to an idle connection left no transaction open, and no handle
  reaches the connection. -/
  idle : ∀ w ∈ world.pool.idle, ∃ conn, world.pool.slot w = some conn ∧
    world.pool.env.Clean conn ∧ ∀ h, world.reach h ≠ some conn
  /-- The last thing said to a connection before it is handed out left no transaction
  open, and from then on no earlier handle reaches the connection. -/
  issued : ∀ step, world.allows step = true → ∀ h, world.handles.size ≤ h →
    h < (world.take step).handles.size → ∃ conn, (world.take step).reach h = some conn ∧
      (world.take step).pool.env.Clean conn ∧
      ∀ past later, (world.take step).Leads past later → ∀ g < h, later.reach g ≠ some conn
  /-- In a step, no holder says anything to a connection except the one who does
  something in it with a handle that reaches the connection. -/
  spoken : ∀ step conn, (∀ h, step.speaker = some h → world.reach h ≠ some conn) →
    (world.take step).pool.env.spoken conn = world.pool.env.spoken conn

/-- In every world of a pool, connections change hands in a clean state. -/
theorem handsOverClean_of_reachable {settings : Settings} {driver : σ} {world : World σ}
    (reachable : Reachable settings driver world) : world.HandsOverClean where
  idle w idle := by
    have sound := reachable.sound
    obtain ⟨conn, -, held, -⟩ := reachable.listed_current w (List.mem_append_left _ idle)
    exact ⟨conn, held, reachable.tended.clean w idle conn held,
      sound.reach_ne_idle idle held⟩
  issued step allowed h new issued := by
    have sound := reachable.sound
    obtain ⟨-, conn, reach, clean⟩ := sound.exists_reach_issued allowed new issued
    refine ⟨conn, reach, clean, ?_⟩
    intro past later leads g earlier taken
    have after := sound.take allowed
    have before := leads.reach_old after (Nat.lt_trans earlier issued) taken
    exact absurd (after.reach_inj before reach) (Nat.ne_of_lt earlier)
  spoken _ _ silent := reachable.sound.spoken_take silent

/-- When the third caller of the example wakes up, the connection of the first handle is
handed over to the third one. -/
theorem handsOverClean_asleep : ∃ world,
    (World.start tightSettings {}).follow (claimSteps.take 5) = some world ∧
    world.reach 0 = some 0 ∧ world.handles.size = 2 ∧ (world.take (.wake 0)).reach 0 = none ∧
    (world.take (.wake 0)).reach 2 = some 0 ∧ world.HandsOverClean := by
  have run : ((World.start tightSettings ({} : Simulation.State)).follow
      (claimSteps.take 5)).map (fun world => (world.reach 0, world.handles.size,
        (world.take (.wake 0)).reach 0, (world.take (.wake 0)).reach 2)) =
      some (some 0, 2, none, some 0) := by decide +kernel
  obtain ⟨world, found, seen⟩ := Option.map_eq_some_iff.1 run
  simp only [Prod.mk.injEq] at seen
  exact ⟨world, found, seen.1, seen.2.1, seen.2.2.1, seen.2.2.2,
    handsOverClean_of_reachable (Reachable.start.follow found)⟩

end World

end ConnectionPooling
