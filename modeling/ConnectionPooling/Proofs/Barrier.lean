/-
# Barriers

A change of the settings closes all connections before anybody else does anything, and
so do closing the pool and closing by force. From then on nothing is left of the time
before. The handles that were issued then are invalid for ever, although their holders
may go on using them, and no acquisition gets one of the old connections, although it
may have begun to wait before.

Only the tolerance for bad connections may change without a barrier. Hence every
connection that is listed was opened and set up as the data source asks now.
-/

import ConnectionPooling.Proofs.History

namespace ConnectionPooling

variable {σ : Type}

/-- What was closed before counts as closed later. -/
theorem Environment.Extends.closes_le {P : Entry → Prop} {before after : Environment σ}
    (goesOn : before.Extends P after) (conn : ConnId) :
    before.closes conn ≤ after.closes conn := by
  obtain ⟨added, hadded, -⟩ := goesOn.journal
  simp only [Environment.closes, hadded, List.countP_append]
  exact Nat.le_add_left _ _

namespace World

/-- How things are in a world `later` that came about after all connections were closed
in `world`. -/
structure Renewed (world later : World σ) : Prop where
  /-- Every handle that was issued before is invalid. -/
  handles_lost : ∀ h < world.handles.size, later.isValid h = false
  /-- No wrapper holds a connection that was opened before, be it idle or handed out. -/
  slot_new : ∀ w conn, later.pool.slot w = some conn → world.pool.env.opened ≤ conn
  /-- The pool has closed every connection that was opened before, once. -/
  closes_old : ∀ conn < world.pool.env.opened, later.pool.env.closes conn = 1
  /-- Every connection that is listed was opened and set up as the data source asks
  now. -/
  listed_current : ∀ w ∈ later.pool.idle ++ later.pool.active, ∃ conn who,
    later.pool.slot w = some conn ∧ later.pool.env.Made later.settings.source who conn

variable [Driver σ]

/-- A barrier leaves no connection to anybody. -/
theorem Sound.slot_ne_of_barrier {world : World σ} (sound : world.Sound) {action : Action σ}
    (barrier : action.IsBarrier) (w : WrapperId) (conn : ConnId) :
    (world.act action).2.pool.slot w ≠ some conn := by
  cases sound.turn (.act action) with
  | moved _ _ quiet => exact absurd (.act barrier) quiet
  | drained _ drains => exact drains.slot_ne w conn

/-- Every listed wrapper holds a connection, which is as the data source asks. -/
theorem Reachable.listed_current {settings : Settings} {driver : σ} {world : World σ}
    (reachable : Reachable settings driver world) :
    ∀ w ∈ world.pool.idle ++ world.pool.active, ∃ conn who,
      world.pool.slot w = some conn ∧ world.pool.env.Made world.settings.source who conn := by
  intro w listed
  have owns := reachable.sound.owns
  have valid : world.pool.isValid w = true := by
    rw [owns.isValid_iff, List.append_nil]
    exact listed
  obtain ⟨conn, held⟩ := (owns.toCoherent.isValid_iff_slot w).1 valid
  obtain ⟨who, made⟩ := reachable.tended.made w conn held
  exact ⟨conn, who, held, made⟩

/-- After a barrier nothing is left of the time before, however the run goes on. -/
theorem Reachable.renewed {settings : Settings} {driver : σ} {world : World σ}
    (reachable : Reachable settings driver world) {action : Action σ}
    (barrier : action.IsBarrier) (permitted : world.permits action = true)
    {past : List (World σ × Step σ)} {later : World σ}
    (leads : (world.act action).2.Leads past later) : world.Renewed later := by
  have sound := reachable.sound
  have after : Reachable settings driver (world.act action).2 :=
    reachable.step (.act action) permitted
  have late := leads.reachable after
  have none := sound.slot_ne_of_barrier barrier
  have closed : ∀ conn < world.pool.env.opened, 1 ≤ later.pool.env.closes conn := by
    intro conn old
    have opened := Nat.lt_of_lt_of_le old (sound.turn (.act action)).extends.opened
    have once : (world.act action).2.pool.env.closes conn = 1 := by
      apply after.sound.owns.accounts.closes_lost opened
      rintro ⟨w, held⟩
      exact none w conn held
    exact Nat.le_trans (Nat.le_of_eq once.symm) ((leads.extends after.sound).closes_le conn)
  have new : ∀ w conn, later.pool.slot w = some conn → world.pool.env.opened ≤ conn := by
    intro w conn held
    by_contra old
    have := closed conn (Nat.lt_of_not_le old)
    rw [late.sound.owns.accounts.closes_held ⟨w, held⟩] at this
    exact absurd this (Nat.not_succ_le_zero 0)
  constructor
  case slot_new => exact new
  case listed_current => exact late.listed_current
  case handles_lost =>
    intro h old
    rw [← Bool.not_eq_true]
    intro valid
    obtain ⟨conn, reach⟩ := (late.sound.isValid_iff_reach h).1 valid
    have stillOld := Nat.lt_of_lt_of_le old (sound.passes (.act action)).size_le
    have before := leads.reach_old after.sound stillOld reach
    obtain ⟨w, -, held⟩ := reach_eq_some.1 before
    exact none w conn (Pool.slot_of_reach held)
  case closes_old =>
    intro conn old
    apply late.sound.owns.accounts.closes_lost
    · have first := (sound.turn (.act action)).extends.opened
      have rest := (leads.extends after.sound).opened
      exact Nat.lt_of_lt_of_le old (Nat.le_trans first rest)
    · rintro ⟨w, held⟩
      exact absurd (new w conn held) (Nat.not_le.2 old)

/-- In every world, each action but a change of the tolerance that concerns the pool as
a whole is a barrier to what came before it. -/
structure Barred (world : World σ) : Prop where
  /-- After a barrier nothing is left of the time before. -/
  renewed : ∀ action : Action σ, action.IsBarrier → world.permits action = true →
    ∀ past later, (world.act action).2.Leads past later → world.Renewed later
  /-- Barrier or not, what is listed is as the data source asks now. -/
  listed_current : ∀ w ∈ world.pool.idle ++ world.pool.active, ∃ conn who,
    world.pool.slot w = some conn ∧ world.pool.env.Made world.settings.source who conn
  /-- A change of the tolerance changes nothing else and notifies nobody. -/
  tolerance_only : ∀ count, world.act (.change (.tolerance count)) =
    (.none, { world with settings.policy.tolerance := count })

/-- In every world of a pool, a reconfiguration is a barrier. -/
theorem barred_of_reachable {settings : Settings} {driver : σ} {world : World σ}
    (reachable : Reachable settings driver world) : world.Barred where
  renewed _ barrier permitted _ _ leads := reachable.renewed barrier permitted leads
  listed_current := reachable.listed_current
  tolerance_only _ := rfl

/-- In the example world the url changes, and the next acquisition gets a third
connection. -/
theorem barred_claimed : ∃ world past later, claimed = some world ∧
    world.permits (.change (.url "elsewhere")) = true ∧ world.pool.env.opened = 2 ∧
    (world.act (.change (.url "elsewhere"))).2.Leads past later ∧ later.reach 3 = some 2 ∧
    world.Barred := by
  have run : (claimed.bind fun world =>
      ((world.act (.change (.url "elsewhere"))).2.follow [.act (.acquire none)]).map fun later =>
        (world.permits (.change (.url "elsewhere")), world.pool.env.opened, later.reach 3)) =
      some (true, 2, some 2) := by decide +kernel
  obtain ⟨world, found, rest⟩ := Option.bind_eq_some_iff.1 run
  obtain ⟨later, follows, seen⟩ := Option.map_eq_some_iff.1 rest
  simp only [Prod.mk.injEq] at seen
  exact ⟨world, _, later, found, seen.1, seen.2.1, Leads.refl.follow follows, seen.2.2,
    barred_of_reachable (Reachable.start.follow found)⟩

end World

end ConnectionPooling
