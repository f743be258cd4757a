/-
# Runs with their past

A world that was reached by a run knows little of how it came about. `Leads` keeps the
steps of a run with the worlds in which they were taken, so that what is found in the
end can be traced back to the step that brought it about.

The module also carries the laws of a single turn over to runs: the pool stays tended,
the journal goes on, and a handle that lost its connection never gets one again.
-/

import ConnectionPooling.Proofs.Turns

namespace ConnectionPooling

variable {σ : Type}

namespace Pool

/-- What is held can be reached. -/
theorem Coherent.reach_of_slot {pool : Pool σ} (coherent : pool.Coherent) {w : WrapperId}
    {conn : ConnId} (held : pool.slot w = some conn) : pool.reach w = some conn := by
  obtain ⟨wrapper, other, holds⟩ :=
    coherent.exists_holds ((coherent.isValid_iff_slot w).2 ⟨conn, held⟩)
  rw [holds.reach, ← holds.slot, held]

theorem Empties.slot_ne {before after : Pool σ} (empties : before.Empties after)
    (w : WrapperId) (conn : ConnId) : after.slot w ≠ some conn := by
  intro held
  have listed := empties.owns.mem_of_slot held
  simp [empties.idle, empties.active] at listed

/-- A pool that lost all its connections has none that could break a law. -/
theorem Drains.tended {source : DataSource} {before after : Pool σ}
    (drains : before.Drains source after) : after.Tended source where
  toCoherent := drains.owns.toCoherent
  sorted := by simp [drains.active]
  past := by simp [drains.active]
  exist := by simp [drains.active]
  made w conn held := absurd held (drains.slot_ne w conn)
  clean := by simp [drains.idle]
  expected := drains.expected

end Pool

namespace World

variable [Driver σ]

/-! ## One turn -/

section

variable {step : Step σ} {world after : World σ} (turn : Turn step world after)

include turn

theorem Turn.tended (tended : world.pool.Tended world.settings.source) :
    after.pool.Tended after.settings.source := by
  cases turn with
  | moved moves source =>
    rw [source]
    exact moves.tended tended
  | drained _ drains => exact drains.tended

theorem Turn.extends : world.pool.env.Extends (world.errand step).Lets after.pool.env := by
  cases turn with
  | moved moves => exact moves.extends
  | drained moves drains =>
    exact moves.extends.trans (drains.goesOn.mono fun _ own => own.lets _)

/-- An old wrapper gets no connection. -/
theorem Turn.slot_old {w : WrapperId} {conn : ConnId} (old : w < world.pool.wrappers.size)
    (held : after.pool.slot w = some conn) : world.pool.slot w = some conn := by
  cases turn with
  | moved moves => exact moves.slot_old old held
  | drained _ drains => exact absurd held (drains.slot_ne w conn)

end

/-- An old handle gets no connection. -/
theorem Sound.reach_old {world : World σ} (sound : world.Sound) {step : Step σ} {h : HandleId}
    {conn : ConnId} (old : h < world.handles.size)
    (reach : (world.take step).reach h = some conn) : world.reach h = some conn := by
  rw [reach_eq_some] at reach ⊢
  obtain ⟨w, out, reach⟩ := reach
  have before := (sound.passes step).checkout_old old out
  obtain ⟨handle, found, -, rfl⟩ := checkout_eq_some.1 before
  have held := (sound.turn step).slot_old (sound.handles.busy found).2 (Pool.slot_of_reach reach)
  exact ⟨_, before, sound.owns.reach_of_slot held⟩

/-! ## Runs -/

/-- A run leads from the world `first` to another one. The list holds its steps, each
with the world in which it was taken, the latest first. -/
inductive Leads (first : World σ) : List (World σ × Step σ) → World σ → Prop
  /-- Nothing has happened yet. -/
  | refl : Leads first [] first
  /-- One more step was taken. -/
  | step {past : List (World σ × Step σ)} {world : World σ} (leads : Leads first past world)
      (step : Step σ) (allowed : world.allows step = true) :
      Leads first ((world, step) :: past) (world.take step)

/-- The steps that a run takes from here on, put in front of its past. -/
def trail (steps : List (Step σ)) (world : World σ) (past : List (World σ × Step σ)) :
    List (World σ × Step σ) :=
  match steps with
  | [] => past
  | step :: rest => (world.take step).trail rest ((world, step) :: past)

/-- Following steps leads on. -/
theorem Leads.follow {first world after : World σ} {past : List (World σ × Step σ)}
    (leads : first.Leads past world) {steps : List (Step σ)}
    (run : world.follow steps = some after) : first.Leads (world.trail steps past) after := by
  induction steps generalizing world past with
  | nil =>
    cases run
    exact leads
  | cons step rest ih =>
    unfold World.follow at run
    split at run
    · rename_i allowed
      exact ih (leads.step step allowed) run
    · cases run

/-- One run may follow another. -/
theorem Leads.append {first mid last : World σ} {past later : List (World σ × Step σ)}
    (leads : first.Leads past mid) (rest : mid.Leads later last) :
    first.Leads (later ++ past) last := by
  induction rest with
  | refl => exact leads
  | step _ step allowed ih => exact ih.step step allowed

theorem Reachable.exists_leads {settings : Settings} {driver : σ} {world : World σ}
    (reachable : Reachable settings driver world) :
    ∃ past, (World.start settings driver).Leads past world := by
  induction reachable with
  | start => exact ⟨[], .refl⟩
  | @step world _ step allowed ih =>
    obtain ⟨past, leads⟩ := ih
    exact ⟨(world, step) :: past, leads.step step allowed⟩

theorem Leads.reachable {settings : Settings} {driver : σ} {first last : World σ}
    {past : List (World σ × Step σ)} (leads : first.Leads past last)
    (reachable : Reachable settings driver first) : Reachable settings driver last := by
  induction leads with
  | refl => exact reachable
  | step _ step allowed ih => exact ih.step step allowed

/-- The pool of every world that a new pool may come to is tended. -/
theorem Reachable.tended {settings : Settings} {driver : σ} {world : World σ}
    (reachable : Reachable settings driver world) :
    world.pool.Tended world.settings.source := by
  induction reachable with
  | start =>
    exact {
      toCoherent := (sound_start settings driver).owns.toCoherent
      sorted := by simp [World.start]
      past := by simp [World.start]
      exist := by simp [World.start]
      made := by simp [World.start, Pool.slot]
      clean := by simp [World.start]
      expected := rfl }
  | step earlier step _ ih => exact (earlier.sound.turn step).tended ih

section

variable {first last : World σ} {past : List (World σ × Step σ)} (leads : first.Leads past last)

include leads

theorem Leads.sound (sound : first.Sound) : last.Sound := by
  induction leads with
  | refl => exact sound
  | step _ step allowed ih => exact ih.take allowed

theorem Leads.extends (sound : first.Sound) :
    first.pool.env.Extends (fun _ => True) last.pool.env := by
  induction leads with
  | refl => exact .refl _ _
  | step earlier step _ ih =>
    have goesOn := ((earlier.sound sound).turn step).extends
    exact ih.trans (goesOn.mono fun _ _ => trivial)

theorem Leads.size_le (sound : first.Sound) : first.handles.size ≤ last.handles.size := by
  induction leads with
  | refl => exact Nat.le_refl _
  | step earlier step _ ih =>
    exact Nat.le_trans ih ((earlier.sound sound).passes step).size_le

/-- An old handle gets no connection. -/
theorem Leads.reach_old (sound : first.Sound) {h : HandleId} {conn : ConnId}
    (old : h < first.handles.size) (reach : last.reach h = some conn) :
    first.reach h = some conn := by
  induction leads with
  | refl => exact reach
  | step earlier step _ ih =>
    have stillOld := Nat.lt_of_lt_of_le old (earlier.size_le sound)
    exact ih ((earlier.sound sound).reach_old stillOld reach)

end

end World

end ConnectionPooling
