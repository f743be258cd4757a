/-
# From one world to the next

A step of a run is a number of moves of the pool, which its errand bounds; after them
the pool may lose all its connections, because the step says so or because nobody can
reach it any more. `Turn` says this of every step, and `Passes` says what becomes of
the handles meanwhile: at most one of them is given back, or a new one is issued on a
clean connection.
-/

import ConnectionPooling.Proofs.Upkeep
import ConnectionPooling.Proofs.Ownership

namespace ConnectionPooling

variable {σ α : Type}

/-- The action closes all connections, whatever else it does. -/
inductive Action.IsBarrier : Action σ → Prop
  | forceCloseAll : IsBarrier .forceCloseAll
  | shutDown : IsBarrier .shutDown
  | change {change : Change} (h : ∀ count, change ≠ .tolerance count) :
      IsBarrier (.change change)

namespace Step

/-- The step closes all connections, whatever else it does. -/
inductive IsBarrier : Step σ → Prop
  | act {action : Action σ} (h : action.IsBarrier) : IsBarrier (.act action)

/-- The handle whose holder speaks in a step. -/
def speaker : Step σ → Option HandleId
  | .act (.request h _) => some h
  | .act (.converse h _) => some h
  | _ => none

/-- The handle that is given back in a step. -/
def returns : Step σ → Option HandleId
  | .act (.request h .close) => some h
  | .act (.drop h) => some h
  | _ => none

end Step

namespace World

/-- The wrapper of a handle that was not given back. -/
def checkout (world : World σ) (h : HandleId) : Option WrapperId :=
  world.handles[h]?.bind fun handle =>
    if handle.stage = .held then some handle.wrapper else none

/-- The connection that can be reached through a handle. -/
def reach (world : World σ) (h : HandleId) : Option ConnId :=
  (world.checkout h).bind world.pool.reach

/-- Under which credentials a step asks for a connection, if it does. -/
def asks (step : Step σ) (world : World σ) : Option Credentials :=
  match step with
  | .act (.acquire who) => some (who.getD world.settings.source.who)
  | .wake place => world.sleepers[place]?.map fun sleeper => sleeper.acquisition.who
  | _ => none

theorem checkout_eq_some {world : World σ} {h : HandleId} {w : WrapperId} :
    world.checkout h = some w ↔
      ∃ handle, world.handles[h]? = some handle ∧ handle.stage = .held ∧ handle.wrapper = w := by
  unfold checkout
  rw [Option.bind_eq_some_iff]
  constructor
  · rintro ⟨handle, found, held⟩
    split at held
    · exact ⟨handle, found, ‹_›, Option.some.inj held⟩
    · cases held
  · rintro ⟨handle, found, stage, rfl⟩
    exact ⟨handle, found, if_pos stage⟩

theorem reach_eq_some {world : World σ} {h : HandleId} {conn : ConnId} :
    world.reach h = some conn ↔
      ∃ w, world.checkout h = some w ∧ world.pool.reach w = some conn :=
  Option.bind_eq_some_iff

/-- A handle is valid exactly if a connection can be reached through it. -/
theorem Orderly.isValid_iff_reach {world : World σ} (orderly : world.Orderly) (h : HandleId) :
    world.isValid h = true ↔ ∃ conn, world.reach h = some conn := by
  simp only [isValid_iff, reach_eq_some, checkout_eq_some]
  constructor
  · rintro ⟨handle, found, stage, valid⟩
    obtain ⟨wrapper, conn, holds⟩ := orderly.owns.toCoherent.exists_holds valid
    exact ⟨conn, handle.wrapper, ⟨handle, found, stage, rfl⟩, holds.reach⟩
  · rintro ⟨conn, w, ⟨handle, found, stage, rfl⟩, reach⟩
    refine ⟨handle, found, stage, ?_⟩
    exact (orderly.owns.toCoherent.isValid_iff_slot _).2 ⟨conn, Pool.slot_of_reach reach⟩

/-- A handle that stands for a connection stands for a checkout. -/
theorem Orderly.mem_active_of_reach {world : World σ} (orderly : world.Orderly) {h : HandleId}
    {w : WrapperId} {conn : ConnId} (out : world.checkout h = some w)
    (reach : world.pool.reach w = some conn) :
    w ∈ world.pool.active ∧ world.pool.slot w = some conn := by
  obtain ⟨handle, found, -, rfl⟩ := checkout_eq_some.1 out
  have held := Pool.slot_of_reach reach
  have valid := (orderly.owns.toCoherent.isValid_iff_slot _).2 ⟨conn, held⟩
  exact ⟨orderly.owns.mem_active valid (orderly.handles.busy found).1, held⟩

/-- No two handles stand for the same checkout. -/
theorem Orderly.checkout_inj {world : World σ} (orderly : world.Orderly) {g h : HandleId}
    {w : WrapperId} (first : world.checkout g = some w) (second : world.checkout h = some w) :
    g = h := by
  obtain ⟨_, hg, -, rfl⟩ := checkout_eq_some.1 first
  obtain ⟨_, hh, -, same⟩ := checkout_eq_some.1 second
  exact orderly.handles.inj hg hh same.symm

variable [Driver σ]

/-- What a step is about. -/
def errand (step : Step σ) (world : World σ) : Errand σ where
  settings := world.settings
  who := world.asks step
  searched := world.searches step
  speaks := step.speaker.bind world.reach
  returned := step.returns.bind world.checkout

/-! ## The pool -/

/-- How the pool gets from one world to the next. -/
inductive Turn (step : Step σ) (world after : World σ) : Prop
  /-- It makes moves only. -/
  | moved (moves : Pool.Moves (world.errand step) world.pool after.pool)
      (source : after.settings.source = world.settings.source) (quiet : ¬ step.IsBarrier)
  /-- It loses all connections in the end. -/
  | drained {pool : Pool σ} (moves : Pool.Moves (world.errand step) world.pool pool)
      (drains : pool.Drains after.settings.source after.pool)
      (reason : step.IsBarrier ∨
        after.isAbandoned = true ∧ after.settings.source = world.settings.source)

theorem Orderly.tearDown_cases {world : World σ} (orderly : world.Orderly) :
    world.tearDown = world ∨
      (world.isAbandoned = true ∧ ∃ pool, world.pool.Drains world.settings.source pool ∧
        world.tearDown = { world with pool := pool }) := by
  unfold World.tearDown
  split
  · rename_i h
    exact .inr ⟨(Bool.and_eq_true_iff.1 h).1, _, orderly.owns.drains _, rfl⟩
  · exact .inl rfl

/-- A pool that nobody can reach is ended after the moves. -/
theorem Turn.tearDown {step : Step σ} {world mid : World σ} (orderly : mid.Orderly)
    (moves : Pool.Moves (world.errand step) world.pool mid.pool)
    (source : mid.settings.source = world.settings.source) (quiet : ¬ step.IsBarrier) :
    Turn step world mid.tearDown := by
  rcases orderly.tearDown_cases with same | ⟨abandoned, pool, drains, ended⟩
  · rw [same]
    exact .moved moves source quiet
  · rw [ended]
    exact .drained moves drains (.inr ⟨abandoned, source⟩)

/-- What the holder of a handle does with its connection is made up of moves of the
pool, and nothing else changes. -/
theorem Orderly.moves_withConnection {world : World σ} (orderly : world.Orderly)
    (errand : Errand σ) {h : HandleId} (speaks : errand.speaks = world.reach h)
    {work : ConnId → Exchange σ α}
    (own : ∀ conn, Exchange.Within (Entry.ByHolder conn) (work conn)) :
    ∃ pool, Pool.Moves errand world.pool pool ∧
      (world.withConnection h work).2 = { world with pool := pool } := by
  unfold World.withConnection
  cases found : world.handles[h]? with
  | none => exact ⟨_, .refl, rfl⟩
  | some handle =>
    dsimp only
    by_cases stage : handle.stage = .held
    · rw [if_pos stage]
      refine ⟨_, Pool.moves_withConnection _ (orderly.handles.busy found).1 ?_ own, rfl⟩
      intro conn reach
      rw [speaks, reach_eq_some]
      exact ⟨_, checkout_eq_some.2 ⟨handle, found, stage, rfl⟩, reach⟩
    · rw [if_neg stage]
      exact ⟨_, .refl, rfl⟩

/-- Giving a handle back is made up of moves of the pool and keeps the settings. -/
theorem Orderly.moves_giveBack {world : World σ} (orderly : world.Orderly)
    (errand : Errand σ) {h : HandleId} (returned : errand.returned = world.checkout h)
    (stage : Stage) : Pool.Moves errand world.pool (world.giveBack h stage).2.pool ∧
      (world.giveBack h stage).2.settings = world.settings := by
  unfold World.giveBack
  cases found : world.handles[h]? with
  | none => exact ⟨.refl, rfl⟩
  | some handle =>
    dsimp only
    by_cases held : handle.stage = .held
    · rw [if_pos held]
      refine ⟨orderly.owns.moves_release _ (orderly.handles.busy found).1 ?_, rfl⟩
      rw [returned]
      exact checkout_eq_some.2 ⟨handle, found, held, rfl⟩
    · rw [if_neg held]
      exact ⟨.refl, rfl⟩

/-- An acquisition that goes on changes the pool, and the settings not at all. -/
theorem proceed_frame (ticket : Ticket) (acquisition : Acquisition) (world : World σ) :
    (world.proceed ticket acquisition).pool =
        (world.pool.acquire world.settings acquisition).2 ∧
      (world.proceed ticket acquisition).settings = world.settings := by
  unfold World.proceed
  cases (world.pool.acquire world.settings acquisition).1 <;> exact ⟨rfl, rfl⟩

/-- A handle that is used like a connection is given back, or its holder speaks. -/
theorem Orderly.turn_request {world : World σ} (orderly : world.Orderly) (h : HandleId)
    (request : Request) :
    Turn (.act (.request h request)) world (world.request h request).2.2 := by
  have quiet : ¬ Step.IsBarrier (.act (.request h request) : Step σ) := by
    rintro ⟨⟨⟩⟩
  have asked : ∃ pool, Pool.Moves (world.errand (.act (.request h request))) world.pool pool ∧
      (world.withConnection h (Exchange.call .holder · request)).2 =
        { world with pool := pool } :=
    orderly.moves_withConnection _ rfl fun conn => Exchange.within_call (.call request)
  obtain ⟨pool, moves, same⟩ := asked
  have spoken : Turn (.act (.request h request)) world
      (world.withConnection h (Exchange.call .holder · request)).2 := by
    rw [same]
    exact .moved moves rfl quiet
  cases request with
  | close =>
    obtain ⟨moves, settings⟩ := orderly.moves_giveBack
      (world.errand (.act (.request h .close))) rfl .closed
    exact .moved moves (congrArg _ settings) quiet
  | isClosed =>
    unfold World.request
    dsimp only
    split
    · exact .moved .refl rfl quiet
    · exact spoken
  | _ => exact spoken

/-- Where all connections are closed by force, they are lost at once. -/
theorem Orderly.turn_forceCloseAll {world : World σ} (orderly : world.Orderly)
    {step : Step σ} (barrier : step.IsBarrier) (settings : Settings) :
    Turn step world ({ world with settings := settings }.forceCloseAll).2 :=
  .drained .refl (orderly.owns.drains settings.source) (.inl barrier)

theorem Orderly.turn_reconfigure {world : World σ} (orderly : world.Orderly) (change : Change) :
    Turn (.act (.change change)) world (world.reconfigure change).2 := by
  unfold World.reconfigure
  dsimp only
  cases change with
  | tolerance count =>
    refine .moved .refl rfl ?_
    intro barrier
    cases barrier with
    | act barrier =>
      cases barrier with
      | change other => exact other count rfl
  | _ =>
    apply orderly.turn_forceCloseAll
    refine .act (.change ?_)
    intro count
    exact Change.noConfusion

/-- A sleeper that wakes is about the connection that it waits for. -/
theorem errand_wake {world : World σ} {place : Nat} {sleeper : Sleeper}
    (found : world.sleepers[place]? = some sleeper) :
    (world.errand (.wake place)).who = some sleeper.acquisition.who ∧
      (world.errand (.wake place)).searched =
        (world.roused place sleeper).pool.lookups world.settings sleeper.acquisition := by
  simp only [errand, asks, searches, found, Option.map_some, true_and]
  rfl

theorem moves_roused (errand : Errand σ) (place : Nat) (sleeper : Sleeper) (world : World σ) :
    Pool.Moves errand world.pool (world.roused place sleeper).pool :=
  .single (.count fun c => { c with waitTime := c.waitTime + (world.pool.now - sleeper.since) })

theorem Orderly.turn_wakeAt {world : World σ} (orderly : world.Orderly) (place : Nat) :
    Turn (.wake place) world (world.wakeAt place) := by
  have quiet : ¬ Step.IsBarrier (.wake place : Step σ) := by
    rintro ⟨⟩
  cases found : world.sleepers[place]? with
  | none =>
    unfold World.wakeAt
    rw [found]
    exact .moved .refl rfl quiet
  | some sleeper =>
    have woken := orderly.roused place sleeper
    obtain ⟨asked, searched⟩ := errand_wake found
    obtain ⟨pool, settings⟩ := (world.roused place sleeper).proceed_frame sleeper.ticket
      sleeper.acquisition
    rw [wakeAt_eq found]
    refine Turn.tearDown (woken.proceed _ _) ?_ (congrArg _ settings) quiet
    rw [pool]
    exact (moves_roused _ place sleeper world).trans
      (woken.owns.moves_acquire _ asked searched).1

/-- Every step is a turn. -/
theorem Sound.turn {world : World σ} (sound : world.Sound) (step : Step σ) :
    Turn step world (world.take step) := by
  have orderly := sound.toOrderly
  cases step with
  | wake place => exact orderly.turn_wakeAt place
  | act action =>
    cases action with
    | acquire who =>
      show Turn _ world (world.acquire (who.getD world.settings.source.who)).2
      obtain ⟨pool, settings⟩ := ({ world with nextTicket := world.nextTicket + 1 } :
        World σ).proceed_frame world.nextTicket
          { who := who.getD world.settings.source.who, started := world.pool.now }
      rw [acquire_eq]
      refine .moved ?_ (congrArg _ settings) ?_
      · rw [pool]
        exact (orderly.owns.moves_acquire (world.errand (.act (.acquire who))) rfl rfl).1
      · rintro ⟨⟨⟩⟩
    | request h request => exact orderly.turn_request h request
    | converse h dialogue =>
      obtain ⟨pool, moves, same⟩ := orderly.moves_withConnection
        (world.errand (.act (.converse h dialogue))) rfl fun _ => dialogue.hold_within .call
      show Turn _ world (world.withConnection h dialogue.hold).2
      rw [same]
      refine .moved moves rfl ?_
      rintro ⟨⟨⟩⟩
    | drop h =>
      obtain ⟨moves, settings⟩ := orderly.moves_giveBack
        (world.errand (.act (.drop h))) rfl .dropped
      refine Turn.tearDown (orderly.giveBack h .dropped) moves (congrArg _ settings) ?_
      rintro ⟨⟨⟩⟩
    | forceCloseAll => exact orderly.turn_forceCloseAll (.act .forceCloseAll) world.settings
    | shutDown =>
      have closed : Pool.Owns [] { world.pool with closed := true } :=
        orderly.owns.relist (.refl _)
      have drains := (closed.drains world.settings.source).note .poolClosed
      exact .drained .refl
        ⟨⟨drains.owns, drains.idle, drains.active, drains.size, drains.connects⟩, drains.goesOn,
          drains.expected⟩ (.inl (.act .shutDown))
    | change change => exact orderly.turn_reconfigure change
    | addClone =>
      refine .moved .refl rfl ?_
      rintro ⟨⟨⟩⟩
    | dropClone =>
      have same : Orderly { world with clones := world.clones - 1 } := orderly.congr rfl rfl rfl
      refine Turn.tearDown same .refl rfl ?_
      rintro ⟨⟨⟩⟩
    | elapse target =>
      refine .moved (.single (.look ?_)) rfl ?_
      · exact ⟨rfl, Nat.le_max_left _ _, [], rfl, by simp⟩
      · rintro ⟨⟨⟩⟩
    | disturb update =>
      refine .moved (.single (.look ?_)) rfl ?_
      · exact ⟨rfl, Nat.le_refl _, [], rfl, by simp⟩
      · rintro ⟨⟨⟩⟩

/-! ## The handles -/

omit [Driver σ] in
/-- What becomes of the handles from one world to the next. -/
inductive Passes (step : Step σ) (world after : World σ) : Prop
  /-- Nothing. -/
  | same (handles : after.handles = world.handles)
  /-- One of them is given back. -/
  | given {h : HandleId} {stage : Stage} (returns : step.returns = some h)
      (gone : stage ≠ .held)
      (handles : after.handles = world.handles.modify h ({ · with stage := stage }))
  /-- One more is issued, on a clean connection. -/
  | issued {w : WrapperId} {conn : ConnId}
      (handles : after.handles = world.handles.push { wrapper := w })
      (listed : w ∈ after.pool.active) (slot : after.pool.slot w = some conn)
      (clean : after.pool.env.Clean conn)

theorem Orderly.passes_proceed {step : Step σ} {mid : World σ} (orderly : mid.Orderly)
    (world : World σ) (same : mid.handles = world.handles) (ticket : Ticket)
    (acquisition : Acquisition) :
    Passes step world (mid.proceed ticket acquisition) := by
  have clean := orderly.owns.clean_grant mid.settings acquisition
  unfold World.proceed
  cases progress : (mid.pool.acquire mid.settings acquisition).1 with
  | failed error => exact .same same
  | asleep again => exact .same same
  | granted w =>
    rw [progress] at clean
    obtain ⟨listed, conn, slot, clean⟩ := clean w List.mem_cons_self
    refine .issued ?_ listed slot clean
    rw [← same]
    rfl

/-- Where a handle was issued, the pool is not ended. -/
theorem Passes.tearDown {step : Step σ} {world after : World σ}
    (passes : Passes step world after) (orderly : after.Orderly) :
    Passes step world after.tearDown := by
  rcases orderly.tearDown_cases with same | ⟨abandoned, pool, -, ended⟩
  · rwa [same]
  · rw [ended]
    cases passes with
    | same handles => exact .same handles
    | given returns gone handles => exact .given returns gone handles
    | @issued w _ handles =>
      have found : after.handles[world.handles.size]? = some { wrapper := w } := by
        rw [handles]
        exact Array.getElem?_push_size
      rw [isAbandoned_of_handle found Stage.noConfusion] at abandoned
      cases abandoned

theorem passes_giveBack {step : Step σ} {world : World σ} {h : HandleId} {stage : Stage}
    (returns : step.returns = some h) (gone : stage ≠ .held) :
    Passes step world (world.giveBack h stage).2 := by
  unfold World.giveBack
  cases world.handles[h]? with
  | none => exact .same rfl
  | some handle =>
    dsimp only
    split
    · exact .given returns gone rfl
    · exact .given returns gone rfl

theorem Sound.passes {world : World σ} (sound : world.Sound) (step : Step σ) :
    Passes step world (world.take step) := by
  have orderly := sound.toOrderly
  cases step with
  | wake place =>
    show Passes _ world (world.wakeAt place)
    cases found : world.sleepers[place]? with
    | none =>
      unfold World.wakeAt
      rw [found]
      exact .same rfl
    | some sleeper =>
      have woken := orderly.roused place sleeper
      rw [wakeAt_eq found]
      exact (woken.passes_proceed world rfl _ _).tearDown (woken.proceed _ _)
  | act action =>
    cases action with
    | acquire who =>
      have next : Orderly { world with nextTicket := world.nextTicket + 1 } :=
        orderly.congr rfl rfl rfl
      show Passes _ world (world.acquire (who.getD world.settings.source.who)).2
      rw [acquire_eq]
      exact next.passes_proceed world rfl _ _
    | request h request =>
      show Passes _ world (world.request h request).2.2
      rcases world.request_cases h request with ⟨rfl, closed⟩ | ⟨pool, -, after⟩
      · rw [closed]
        exact passes_giveBack rfl Stage.noConfusion
      · rw [after]
        exact .same rfl
    | converse h dialogue =>
      obtain ⟨pool, -, after⟩ := world.exists_withConnection h dialogue.within_hold
      show Passes _ world (world.withConnection h dialogue.hold).2
      rw [after]
      exact .same rfl
    | drop h =>
      have given : Passes (.act (.drop h)) world (world.giveBack h .dropped).2 :=
        passes_giveBack rfl Stage.noConfusion
      exact given.tearDown (orderly.giveBack h .dropped)
    | change change =>
      show Passes _ world (world.reconfigure change).2
      unfold World.reconfigure
      dsimp only
      split
      · exact .same rfl
      · exact .same rfl
    | dropClone =>
      have same : Orderly { world with clones := world.clones - 1 } := orderly.congr rfl rfl rfl
      exact Passes.tearDown (.same rfl) same
    | forceCloseAll | shutDown | addClone | elapse | disturb => exact .same rfl

section

omit [Driver σ]

variable {step : Step σ} {world after : World σ} (passes : Passes step world after)

include passes

theorem Passes.size_le : world.handles.size ≤ after.handles.size := by
  cases passes with
  | same handles => exact Nat.le_of_eq (congrArg _ handles.symm)
  | given _ _ handles => simp [handles]
  | issued handles => simp [handles]

/-- A handle that was given back remains so. -/
theorem Passes.checkout_old {h : HandleId} (old : h < world.handles.size) {w : WrapperId}
    (out : after.checkout h = some w) : world.checkout h = some w := by
  rw [checkout_eq_some] at out ⊢
  obtain ⟨handle, found, stage, wrapper⟩ := out
  cases passes with
  | same handles => exact ⟨handle, handles ▸ found, stage, wrapper⟩
  | given _ gone handles =>
    rw [handles, Array.getElem?_modify] at found
    split at found
    · obtain ⟨before, -, rfl⟩ := Option.map_eq_some_iff.1 found
      exact absurd stage gone
    · exact ⟨handle, found, stage, wrapper⟩
  | issued handles =>
    rw [handles, Array.getElem?_push, if_neg (Nat.ne_of_lt old)] at found
    exact ⟨handle, found, stage, wrapper⟩

/-- A handle stands for its checkout until it is given back. -/
theorem Passes.checkout_kept {h : HandleId} {w : WrapperId} (out : world.checkout h = some w) :
    after.checkout h = some w ∨ step.returns = some h := by
  have before := out
  rw [checkout_eq_some] at out ⊢
  obtain ⟨handle, found, stage, wrapper⟩ := out
  cases passes with
  | same handles => exact .inl ⟨handle, handles ▸ found, stage, wrapper⟩
  | @given g _ returns _ handles =>
    by_cases same : g = h
    · exact .inr (same ▸ returns)
    · refine .inl ⟨handle, ?_, stage, wrapper⟩
      rw [handles, Array.getElem?_modify, if_neg same, found]
  | issued handles =>
    obtain ⟨inside, -⟩ := Array.getElem?_eq_some_iff.1 found
    refine .inl ⟨handle, ?_, stage, wrapper⟩
    rw [handles, Array.getElem?_push, if_neg (Nat.ne_of_lt inside), found]

end

end World

end ConnectionPooling
