/-
# What a step asks of the pool

A step of a run asks the pool for one operation at most: an acquisition works until it
ends or sleeps, a holder uses its connection or gives it back, or all connections are
closed. If nobody can reach the pool any more after that, it gives up its connections.
`Operates` lists the operations, each with who asks for it, so that a law that every
operation keeps is a law of every step.
-/

import ConnectionPooling.Proofs.Turns

namespace ConnectionPooling

variable {σ : Type} [Driver σ]

namespace World

/-- What the operation that a step asks for makes of the pool. -/
inductive Operates (step : Step σ) (world : World σ) : Pool σ → Prop
  /-- The step does not concern the pool. -/
  | none : Operates step world world.pool
  | begun {who : Option Credentials} (begins : step = .act (.acquire who)) :
      Operates step world (world.pool.acquire world.settings
        { who := who.getD world.settings.source.who, started := world.pool.now }).2
  /-- A sleeper looks for a connection again. -/
  | woken {place : Nat} {sleeper : Sleeper} (wakes : step = .wake place)
      (found : world.sleepers[place]? = some sleeper) :
      Operates step world
        ((world.roused place sleeper).pool.acquire world.settings sleeper.acquisition).2
  /-- A holder talks to its connection. -/
  | used {h : HandleId} {w : WrapperId} {α : Type} {work : ConnId → Exchange σ α}
      (speaks : step.speaker = some h) (out : world.checkout h = some w)
      (own : ∀ conn, Exchange.Within (Entry.ByHolder conn) (work conn)) :
      Operates step world ((world.pool.withConnection w work).2.touch w)
  | returned {h : HandleId} {w : WrapperId} (returns : step.returns = some h)
      (out : world.checkout h = some w) :
      Operates step world (world.pool.release world.settings.policy w)
  | emptied {source : DataSource} (barrier : step.IsBarrier) :
      Operates step world (world.pool.forceCloseAll source)
  | shut (shuts : step = .act .shutDown) : Operates step world
      (({ world.pool with closed := true }.forceCloseAll world.settings.source).note .poolClosed)
  /-- Time passes, or the driver changes from outside. -/
  | aside {env : Environment σ} (aside : world.pool.env.Grows Entry.IsEvent env) :
      Operates step world { world.pool with env := env }

omit [Driver σ] in
theorem Orderly.busy_of_checkout {world : World σ} (orderly : world.Orderly) {h : HandleId}
    {w : WrapperId} (out : world.checkout h = some w) : w ∉ world.pool.idle := by
  obtain ⟨handle, found, -, rfl⟩ := checkout_eq_some.1 out
  exact (orderly.handles.busy found).1

theorem operates_withConnection {step : Step σ} {world : World σ} {h : HandleId}
    (speaks : step.speaker = some h) {α : Type} {work : ConnId → Exchange σ α}
    (own : ∀ conn, Exchange.Within (Entry.ByHolder conn) (work conn)) :
    Operates step world (world.withConnection h work).2.pool := by
  unfold World.withConnection
  cases found : world.handles[h]? with
  | none => exact .none
  | some handle =>
    dsimp only
    by_cases stage : handle.stage = .held
    · rw [if_pos stage]
      exact .used speaks (checkout_eq_some.2 ⟨handle, found, stage, rfl⟩) own
    · rw [if_neg stage]
      exact .none

theorem operates_giveBack {step : Step σ} {world : World σ} {h : HandleId}
    (returns : step.returns = some h) (stage : Stage) :
    Operates step world (world.giveBack h stage).2.pool := by
  unfold World.giveBack
  cases found : world.handles[h]? with
  | none => exact .none
  | some handle =>
    dsimp only
    by_cases held : handle.stage = .held
    · rw [if_pos held]
      exact .returned returns (checkout_eq_some.2 ⟨handle, found, held, rfl⟩)
    · rw [if_neg held]
      exact .none

theorem operates_request (world : World σ) (h : HandleId) (request : Request) :
    Operates (.act (.request h request)) world (world.request h request).2.2.pool := by
  have asked : Operates (.act (.request h request)) world
      (world.withConnection h (Exchange.call .holder · request)).2.pool :=
    operates_withConnection rfl fun conn => Exchange.within_call (.call request)
  cases request with
  | close => exact operates_giveBack rfl .closed
  | isClosed =>
    unfold World.request
    dsimp only
    split
    · exact .none
    · exact asked
  | _ => exact asked

theorem operates_reconfigure (world : World σ) (change : Change) :
    Operates (.act (.change change)) world (world.reconfigure change).2.pool := by
  cases change with
  | tolerance count => exact .none
  | _ => exact .emptied (.act (.change fun count => Change.noConfusion))

/-- What becomes of the pool after the operation: if nobody can reach it any more, it gives
up its connections. -/
inductive Ends (world : World σ) (pool after : Pool σ) : Prop
  /-- Somebody can reach the pool. -/
  | reached (same : after = pool)
  /-- Nobody can. -/
  | abandoned (owns : pool.Owns []) (ended : after = pool.forceCloseAll world.settings.source)

theorem Orderly.ends_tearDown {world mid : World σ} (orderly : mid.Orderly)
    (settings : mid.settings = world.settings) : Ends world mid.pool mid.tearDown.pool := by
  unfold World.tearDown
  split
  · exact .abandoned orderly.owns (by rw [settings])
  · exact .reached rfl

/-- Giving up a pool that nobody can reach closes all its connections. -/
theorem tearDown_pool (world : World σ) :
    world.tearDown.pool = world.pool ∨ (world.tearDown.isAbandoned = true ∧
      world.tearDown.pool = world.pool.forceCloseAll world.settings.source) := by
  unfold tearDown
  split
  · rename_i gone
    exact .inr ⟨(Bool.and_eq_true_iff.1 gone).1, rfl⟩
  · exact .inl rfl

/-- Every step asks for one operation at most, after which the pool may be given up. It is as the
operation leaves it after the step unless nobody can reach it then. -/
theorem Orderly.operates_stays {world : World σ} (orderly : world.Orderly) (step : Step σ) :
    ∃ pool, Operates step world pool ∧ Ends world pool (world.take step).pool ∧
      ((world.take step).pool = pool ∨ (world.take step).isAbandoned = true) := by
  have reached {pool : Pool σ} (operates : Operates step world pool)
      (same : (world.take step).pool = pool) :
      ∃ pool, Operates step world pool ∧ Ends world pool (world.take step).pool ∧
        ((world.take step).pool = pool ∨ (world.take step).isAbandoned = true) :=
    ⟨pool, operates, .reached same, .inl same⟩
  have ended (mid : World σ) :
      mid.tearDown.pool = mid.pool ∨ mid.tearDown.isAbandoned = true :=
    mid.tearDown_pool.imp_right And.left
  cases step with
  | wake place =>
    cases found : world.sleepers[place]? with
    | none =>
      apply reached .none
      show (world.wakeAt place).pool = world.pool
      unfold World.wakeAt
      rw [found]
    | some sleeper =>
      have woken := (orderly.roused place sleeper).proceed sleeper.ticket sleeper.acquisition
      obtain ⟨pool, settings⟩ := (world.roused place sleeper).proceed_frame sleeper.ticket
        sleeper.acquisition
      show ∃ pool, _ ∧ Ends world pool (world.wakeAt place).pool ∧
        ((world.wakeAt place).pool = pool ∨ (world.wakeAt place).isAbandoned = true)
      rw [wakeAt_eq found]
      refine ⟨_, ?_, woken.ends_tearDown settings, ended _⟩
      rw [pool]
      exact .woken rfl found
  | act action =>
    cases action with
    | acquire who =>
      apply reached (.begun rfl)
      show (world.acquire (who.getD world.settings.source.who)).2.pool = _
      rw [acquire_eq, (proceed_frame _ _ _).1]
    | request h request => exact reached (operates_request world h request) rfl
    | converse h dialogue =>
      exact reached (operates_withConnection rfl fun _ => dialogue.hold_within .call) rfl
    | drop h =>
      have given := orderly.giveBack h .dropped
      have settings : (world.giveBack h .dropped).2.settings = world.settings :=
        (orderly.moves_giveBack (world.errand (.act (.drop h))) rfl .dropped).2
      exact ⟨_, operates_giveBack rfl .dropped, given.ends_tearDown settings, ended _⟩
    | forceCloseAll => exact reached (.emptied (.act .forceCloseAll)) rfl
    | shutDown => exact reached (.shut rfl) rfl
    | change change => exact reached (operates_reconfigure world change) rfl
    | addClone => exact reached .none rfl
    | dropClone =>
      have left : Orderly { world with clones := world.clones - 1 } := orderly.congr rfl rfl rfl
      exact ⟨_, .none, left.ends_tearDown rfl, ended _⟩
    | elapse target =>
      have passes : world.pool.env.Grows Entry.IsEvent (world.advanceTo target).pool.env :=
        ⟨rfl, Nat.le_max_left _ _, [], rfl, by simp⟩
      exact reached (.aside passes) rfl
    | disturb update =>
      apply reached (.aside ?_) rfl
      exact ⟨rfl, Nat.le_refl _, [], rfl, by simp⟩

theorem Orderly.operates {world : World σ} (orderly : world.Orderly) (step : Step σ) :
    ∃ pool, Operates step world pool ∧ Ends world pool (world.take step).pool := by
  obtain ⟨pool, operates, ends, -⟩ := orderly.operates_stays step
  exact ⟨pool, operates, ends⟩

end World

end ConnectionPooling
