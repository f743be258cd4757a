/-
# How long a holder keeps its connection

Whoever got a connection keeps it, whatever the others do and whatever the driver
answers, until one of four things happens: the handle is closed or dropped, all
connections are closed at a barrier, or an acquisition claims the connection. The last
of these happens only when there is no other way left: none is idle, as many are checked
out as may be, and the checkout is overdue and has lasted longest.
-/

import ConnectionPooling.Proofs.Barrier

namespace ConnectionPooling

variable {σ : Type} [Driver σ]

namespace Pool

/-- A search takes away no checkout but the first one, and that one only if there is
nothing else to be had and it is overdue. -/
theorem Owns.claims_cases {pool : Pool σ} (owns : pool.Owns []) {settings : Settings}
    {who : Credentials} {w : WrapperId} (claims : pool.Claims settings who w) :
    pool.idle = [] ∧ (∃ rest, pool.active = w :: rest) ∧
      settings.policy.maxActive ≤ pool.active.length ∧
      settings.policy.maxCheckoutTime < pool.checkoutTime w := by
  obtain ⟨before, after⟩ := claims
  have finds := search_finds owns settings who
  revert after
  generalize pool.nextCandidate settings who = search at finds
  obtain ⟨result, found⟩ := search
  intro after
  cases finds with
  | idle | opened | refused | noCapacity | mustWait => exact absurd before after
  | @claimed v rest _ _ _ idle active full overdue =>
    rw [active, List.mem_cons] at before
    obtain rfl : w = v := before.resolve_right after
    exact ⟨idle, ⟨rest, active⟩, full, overdue⟩

end Pool

namespace World

/-- Why the holder of a handle may lose its connection in a step. -/
inductive Loses (h : HandleId) (world : World σ) : Step σ → Prop
  /-- The handle is closed. -/
  | closed : Loses h world (.act (.request h .close))
  /-- The handle is dropped. -/
  | dropped : Loses h world (.act (.drop h))
  /-- All connections are closed. -/
  | barrier {action : Action σ} (barrier : action.IsBarrier) : Loses h world (.act action)
  /-- An acquisition claims the checkout when none is idle, as many are checked out as may
  be, and the checkout is overdue and has lasted longest. -/
  | claimed {step : Step σ} {who : Credentials} {w : WrapperId} {pool : Pool σ}
      (asks : world.asks step = some who) (searched : pool ∈ world.searches step)
      (out : world.checkout h = some w) (claims : pool.Claims world.settings who w)
      (idle : pool.idle = [])
      (full : pool.active.length = world.settings.policy.maxActive)
      (overdue : world.settings.policy.maxCheckoutTime < pool.checkoutTime w)
      (oldest : ∀ v ∈ pool.active, pool.checkoutTime v ≤ pool.checkoutTime w) :
      Loses h world step

/-! ## Where a step looks for a candidate -/

/-- Moves lead to each pool in which a step looks for a candidate, and until then the
pool was only drawn on. -/
theorem Sound.searches_cases {world : World σ} (sound : world.Sound) (step : Step σ) :
    ∀ pool ∈ world.searches step,
      Pool.Moves (world.errand step) world.pool pool ∧ world.pool.Draws pool := by
  cases step with
  | wake place =>
    unfold searches
    dsimp only
    cases found : world.sleepers[place]? with
    | none => simp
    | some sleeper =>
      have woken := sound.toOrderly.roused place sleeper
      obtain ⟨asked, searched⟩ := errand_wake found
      intro pool hpool
      constructor
      · exact (moves_roused _ place sleeper world).trans
          ((woken.owns.moves_acquire _ asked searched).2 pool (searched ▸ hpool))
      · have draws : world.pool.Draws (world.roused place sleeper).pool :=
          ⟨List.suffix_rfl, List.suffix_rfl, Nat.le_refl _, rfl⟩
        exact draws.trans (woken.owns.draws_lookups _ _ pool hpool)
  | act action =>
    cases action with
    | acquire who =>
      intro pool hpool
      constructor
      · exact (sound.owns.moves_acquire (world.errand (.act (.acquire who))) rfl rfl).2 pool hpool
      · exact sound.owns.draws_lookups _ _ pool hpool
    | _ => simp [searches]

/-- What it takes for an acquisition to claim a checkout. -/
theorem Sound.loses_of_claims {world : World σ} (sound : world.Sound)
    (tended : world.pool.Tended world.settings.source) {step : Step σ} {who : Credentials}
    {w : WrapperId} {h : HandleId} {pool : Pool σ} (asks : world.asks step = some who)
    (searched : pool ∈ world.searches step) (out : world.checkout h = some w)
    (claims : pool.Claims world.settings who w) : world.Loses h step := by
  obtain ⟨moves, draws⟩ := sound.searches_cases step pool searched
  obtain ⟨idle, ⟨rest, active⟩, full, overdue⟩ :=
    (sound.owns_searches step pool searched).claims_cases claims
  have queued := (moves.tended tended).toQueued
  have load := Nat.le_trans draws.load_le sound.load
  have most : pool.active.length ≤ world.settings.policy.maxActive :=
    Nat.le_trans (Nat.le_add_left _ _) load
  exact .claimed asks searched out claims idle (Nat.le_antisymm most full) overdue
    fun v listed => queued.checkoutTime_le active listed

/-! ## What becomes of a holder -/

theorem loses_of_returns {world : World σ} {step : Step σ} {h : HandleId}
    (returns : step.returns = some h) : world.Loses h step := by
  unfold Step.returns at returns
  split at returns
  · cases returns
    exact .closed
  · cases returns
    exact .dropped
  · cases returns

/-- A step leaves a holder its connection, unless it is one that takes it away. -/
theorem Sound.reach_kept {world : World σ} (sound : world.Sound)
    (tended : world.pool.Tended world.settings.source) {step : Step σ}
    (allowed : world.allows step = true) {h : HandleId} {conn : ConnId}
    (reach : world.reach h = some conn) :
    (world.take step).reach h = some conn ∨ world.Loses h step := by
  have after := sound.take allowed
  obtain ⟨w, out, found⟩ := reach_eq_some.1 reach
  obtain ⟨listed, held⟩ := sound.mem_active_of_reach out found
  rcases (sound.passes step).checkout_kept out with stillOut | returns
  · cases sound.turn step with
    | drained _ _ reason =>
      rcases reason with ⟨⟨barrier⟩⟩ | ⟨abandoned, -⟩
      · exact .inr (.barrier barrier)
      · -- The handle itself is left, so that somebody can reach the pool.
        obtain ⟨handle, exist, stage, -⟩ := checkout_eq_some.1 stillOut
        have reached := isAbandoned_of_handle exist (stage ▸ Stage.noConfusion)
        rw [reached] at abandoned
        cases abandoned
    | moved moves =>
      rcases moves.checkout sound.owns.toCoherent listed held with ⟨-, stillHeld⟩ | returned | lost
      · left
        exact reach_eq_some.2 ⟨w, stillOut, after.owns.reach_of_slot stillHeld⟩
      · right
        obtain ⟨g, returns, given⟩ := Option.bind_eq_some_iff.1 returned
        exact loses_of_returns (sound.checkout_inj given out ▸ returns)
      · right
        obtain ⟨who, asks, pool, searched, claims, -⟩ := lost
        exact sound.loses_of_claims tended asks searched out claims
  · exact .inr (loses_of_returns returns)

/-- Along a run, a holder keeps its connection up to a step that takes it away. -/
theorem Reachable.kept_or_lost {settings : Settings} {driver : σ} {world : World σ}
    (reachable : Reachable settings driver world) {h : HandleId} {conn : ConnId}
    (reach : world.reach h = some conn) {past : List (World σ × Step σ)} {later : World σ}
    (leads : world.Leads past later) :
    later.reach h = some conn ∨ ∃ mid step, (mid, step) ∈ past ∧ mid.reach h = some conn ∧
      mid.Loses h step := by
  induction leads with
  | refl => exact .inl reach
  | @step _ mid earlier step allowed ih =>
    rcases ih with still | ⟨old, last, listed, reached, loses⟩
    · have there := earlier.reachable reachable
      rcases there.sound.reach_kept there.tended allowed still with kept | loses
      · exact .inl kept
      · exact .inr ⟨mid, step, List.mem_cons_self, still, loses⟩
    · exact .inr ⟨old, last, List.mem_cons_of_mem _ listed, reached, loses⟩

/-- A step that issues a handle issues it on a clean connection. -/
theorem Sound.exists_reach_issued {world : World σ} (sound : world.Sound) {step : Step σ}
    (allowed : world.allows step = true) {h : HandleId} (new : world.handles.size ≤ h)
    (issued : h < (world.take step).handles.size) :
    h = world.handles.size ∧ ∃ conn, (world.take step).reach h = some conn ∧
      (world.take step).pool.env.Clean conn := by
  cases sound.passes step with
  | same handles =>
    rw [handles] at issued
    exact absurd issued (Nat.not_lt.2 new)
  | given _ _ handles =>
    rw [handles, Array.size_modify] at issued
    exact absurd issued (Nat.not_lt.2 new)
  | @issued w conn handles _ held clean =>
    rw [handles, Array.size_push] at issued
    obtain rfl : h = world.handles.size := Nat.le_antisymm (Nat.le_of_lt_succ issued) new
    refine ⟨rfl, conn, reach_eq_some.2 ⟨w, checkout_eq_some.2 ?_, ?_⟩, clean⟩
    · exact ⟨{ wrapper := w }, by rw [handles, Array.getElem?_push_size], rfl, rfl⟩
    · exact (sound.take allowed).owns.reach_of_slot held

/-- A handle gives access to one connection from when it is issued until its holder
loses it for one of the reasons listed. -/
structure Tenured (world : World σ) : Prop where
  /-- A new handle reaches a connection. -/
  issued : ∀ step, world.allows step = true → ∀ h, world.handles.size ≤ h →
    h < (world.take step).handles.size → ∃ conn, (world.take step).reach h = some conn
  /-- A handle is valid exactly as long as it reaches a connection. -/
  isValid_iff : ∀ h, world.isValid h = true ↔ ∃ conn, world.reach h = some conn
  /-- However the run goes on, the handle reaches the same connection, unless one of the
  steps took it away. -/
  kept : ∀ h conn, world.reach h = some conn → ∀ past later, world.Leads past later →
    later.reach h = some conn ∨ ∃ mid step, (mid, step) ∈ past ∧ mid.reach h = some conn ∧
      mid.Loses h step

/-- In every world of a pool, holders lose their connections for the reasons listed
only. -/
theorem tenured_of_reachable {settings : Settings} {driver : σ} {world : World σ}
    (reachable : Reachable settings driver world) : world.Tenured where
  issued _ allowed _ new issued := by
    obtain ⟨-, conn, reach, -⟩ := reachable.sound.exists_reach_issued allowed new issued
    exact ⟨conn, reach⟩
  isValid_iff := reachable.sound.isValid_iff_reach
  kept _ _ reach _ _ leads := reachable.kept_or_lost reach leads

/-- When the third caller of the example has fallen asleep, the first two handles reach
a connection each; it is the wake-up some time later that takes one of them away. -/
theorem tenured_asleep : ∃ world past later,
    (World.start tightSettings {}).follow (claimSteps.take 5) = some world ∧
    world.reach 0 = some 0 ∧ world.reach 1 = some 1 ∧ world.Leads past later ∧
    later.reach 0 = none ∧ later.reach 1 = some 1 ∧ world.Tenured := by
  have run : (((World.start tightSettings ({} : Simulation.State)).follow
      (claimSteps.take 5)).bind fun world => (world.follow [.wake 0]).map fun later =>
        (world.reach 0, world.reach 1, later.reach 0, later.reach 1)) =
      some (some 0, some 1, none, some 1) := by decide +kernel
  obtain ⟨world, found, rest⟩ := Option.bind_eq_some_iff.1 run
  obtain ⟨later, follows, seen⟩ := Option.map_eq_some_iff.1 rest
  simp only [Prod.mk.injEq] at seen
  exact ⟨world, _, later, found, seen.1, seen.2.1, Leads.refl.follow follows, seen.2.2.1,
    seen.2.2.2, tenured_of_reachable (Reachable.start.follow found)⟩

end World

end ConnectionPooling
