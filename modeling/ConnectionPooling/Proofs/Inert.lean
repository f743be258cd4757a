/-
# Handles that have become stale

A handle is stale if it was given back, or if its wrapper has lost the connection. Its holder
may go on using it, even while somebody else works with the same connection. This disturbs
nobody: whatever the holder asks for is refused, the driver is asked nothing, and all that
changes is when the empty wrapper of this handle was last used.

Giving back a stale handle for the first time counts one more bad connection. Whoever gives it
back again changes nothing, with one exception. A handle that was closed still keeps the pool
from its end, so that dropping it may end the pool if nobody else is left who could use it.
-/

import ConnectionPooling.World.Waking
import ConnectionPooling.Proofs.Turns

namespace ConnectionPooling

variable {σ α : Type}

/-- In the step the holder of the handle `h` works with it. -/
inductive Step.Uses (h : HandleId) : Step σ → Prop
  /-- The handle is used like a connection, closing it included. -/
  | request (request : Request) : Uses h (.act (.request h request))
  /-- The holder works directly with the physical connection. -/
  | converse (dialogue : Dialogue) : Uses h (.act (.converse h dialogue))

namespace Pool

/-- From `before` to `after` nothing happened to the pool, except that the wrapper `w` may have
been used. No time passed, and the driver was asked nothing. -/
structure Undisturbed (w : WrapperId) (before after : Pool σ) : Prop where
  env : after.env = before.env
  idle : after.idle = before.idle
  active : after.active = before.active
  counters : after.counters = before.counters
  lastRealId : after.lastRealId = before.lastRealId
  expected : after.expected = before.expected
  closed : after.closed = before.closed
  size : after.wrappers.size = before.wrappers.size
  others : ∀ v, v ≠ w → after.wrappers[v]? = before.wrappers[v]?
  own : ∀ wrapper, before.wrappers[w]? = some wrapper →
    ∃ time, after.wrappers[w]? = some { wrapper with lastUsedAt := time }

theorem Undisturbed.refl (w : WrapperId) (pool : Pool σ) : pool.Undisturbed w pool :=
  ⟨rfl, rfl, rfl, rfl, rfl, rfl, rfl, rfl, fun _ _ => rfl, fun _ found => ⟨_, found⟩⟩

theorem Undisturbed.trans {w : WrapperId} {before mid after : Pool σ}
    (first : before.Undisturbed w mid) (second : mid.Undisturbed w after) :
    before.Undisturbed w after where
  env := second.env.trans first.env
  idle := second.idle.trans first.idle
  active := second.active.trans first.active
  counters := second.counters.trans first.counters
  lastRealId := second.lastRealId.trans first.lastRealId
  expected := second.expected.trans first.expected
  closed := second.closed.trans first.closed
  size := second.size.trans first.size
  others v other := (second.others v other).trans (first.others v other)
  own wrapper found := by
    obtain ⟨_, found⟩ := first.own wrapper found
    obtain ⟨time, found⟩ := second.own _ found
    exact ⟨time, found⟩

theorem undisturbed_touch (w : WrapperId) (pool : Pool σ) : pool.Undisturbed w (pool.touch w) where
  env := rfl
  idle := rfl
  active := rfl
  counters := rfl
  lastRealId := rfl
  expected := rfl
  closed := rfl
  size := size_alter pool w _
  others v other := (pool.wrappers_alter w v _).trans (if_neg (Ne.symm other))
  own wrapper found := by
    refine ⟨pool.now, (pool.wrappers_alter w w _).trans ?_⟩
    rw [if_pos rfl, found, Option.map_some]

/-- A wrapper that was of no use remains so. -/
theorem Undisturbed.invalid {w : WrapperId} {before after : Pool σ}
    (undisturbed : before.Undisturbed w after) (invalid : before.isValid w = false) :
    after.isValid w = false := by
  cases found : before.wrappers[w]? with
  | none =>
    have absent : after.wrappers.size ≤ w :=
      undisturbed.size ▸ Array.getElem?_eq_none_iff.1 found
    unfold isValid
    rw [Array.getElem?_eq_none absent]
    rfl
  | some wrapper =>
    obtain ⟨_, still⟩ := undisturbed.own wrapper found
    unfold isValid at invalid ⊢
    rw [found] at invalid
    rw [still]
    exact invalid

theorem reach_of_invalid {pool : Pool σ} {w : WrapperId} (invalid : pool.isValid w = false) :
    pool.reach w = none := by
  unfold isValid at invalid
  unfold reach
  cases found : pool.wrappers[w]? with
  | none => rfl
  | some wrapper =>
    rw [found] at invalid
    have spent : wrapper.valid = false := invalid
    rw [Option.bind_some, Wrapper.reach, spent]
    rfl

/-- Nobody gets through to a connection with a wrapper that has none. -/
theorem withConnection_of_invalid {pool : Pool σ} {w : WrapperId}
    (invalid : pool.isValid w = false) (work : ConnId → Exchange σ α) :
    pool.withConnection w work = (.error (.invalidated (pool.realId w)), pool) := by
  unfold withConnection
  rw [reach_of_invalid invalid]

/-- A wrapper that lost its connection before it was given back is refused. -/
theorem Owns.release_of_invalid [Driver σ] {pool : Pool σ} (owns : pool.Owns [])
    (policy : Policy) {w : WrapperId} (invalid : pool.isValid w = false) :
    pool.release policy w = pool.refuse w := by
  have absent : w ∉ pool.active := by
    intro listed
    rw [(owns.isValid_iff w).2 (by simp [listed])] at invalid
    cases invalid
  rcases owns.release_cases policy w with ⟨-, refused⟩ | ⟨valid, -⟩
  · rw [refused, List.erase_of_not_mem absent]
  · rw [invalid] at valid
    cases valid

end Pool

namespace World

/-- The handle `h` is stale: it was given back, or its wrapper has lost its connection. -/
structure Stale (h : HandleId) (handle : Handle) (world : World σ) : Prop where
  found : world.handles[h]? = some handle
  lost : handle.stage ≠ .held ∨ world.pool.isValid handle.wrapper = false

/-- The world in which the handle `h` is in the given stage. -/
def restage (h : HandleId) (stage : Stage) (world : World σ) : World σ :=
  { world with handles := world.handles.modify h ({ · with stage := stage }) }

/-- From `before` to `after` nothing happened, except that the wrapper `w` may have been used. -/
structure Undisturbed (w : WrapperId) (before after : World σ) : Prop where
  pool : before.pool.Undisturbed w after.pool
  settings : after.settings = before.settings
  sleepers : after.sleepers = before.sleepers
  handles : after.handles = before.handles
  clones : after.clones = before.clones
  nextTicket : after.nextTicket = before.nextTicket
  finished : after.finished = before.finished

theorem Undisturbed.refl (w : WrapperId) (world : World σ) : world.Undisturbed w world :=
  ⟨.refl w world.pool, rfl, rfl, rfl, rfl, rfl, rfl⟩

theorem Undisturbed.trans {w : WrapperId} {before mid after : World σ}
    (first : before.Undisturbed w mid) (second : mid.Undisturbed w after) :
    before.Undisturbed w after where
  pool := first.pool.trans second.pool
  settings := second.settings.trans first.settings
  sleepers := second.sleepers.trans first.sleepers
  handles := second.handles.trans first.handles
  clones := second.clones.trans first.clones
  nextTicket := second.nextTicket.trans first.nextTicket
  finished := second.finished.trans first.finished

section

variable {world after : World σ} {h : HandleId} {handle : Handle}

theorem Stale.undisturbed (stale : world.Stale h handle)
    (undisturbed : world.Undisturbed handle.wrapper after) : after.Stale h handle where
  found := (congrArg (·[h]?) undisturbed.handles).trans stale.found
  lost := stale.lost.imp_right undisturbed.pool.invalid

/-! ## Using a stale handle -/

/-- Working with a stale handle fails, and nothing happens. -/
theorem Stale.withConnection (stale : world.Stale h handle) (work : ConnId → Exchange σ α) :
    (world.withConnection h work).1 = .error (.invalidated (world.realId h)) ∧
      world.Undisturbed handle.wrapper (world.withConnection h work).2 := by
  have named : world.realId h = world.pool.realId handle.wrapper := by
    unfold World.realId
    rw [stale.found]
  unfold World.withConnection
  rw [stale.found, named]
  dsimp only
  by_cases held : handle.stage = .held
  · have invalid := stale.lost.resolve_left (not_not_intro held)
    rw [if_pos held, Pool.withConnection_of_invalid invalid]
    exact ⟨rfl, ⟨Pool.undisturbed_touch _ _, rfl, rfl, rfl, rfl, rfl, rfl⟩⟩
  · rw [if_neg held]
    exact ⟨rfl, .refl _ world⟩

variable [Driver σ]

/-- A handle that was given back says that it is closed. -/
theorem request_isClosed (found : world.handles[h]? = some handle) (gone : handle.stage ≠ .held) :
    world.request h .isClosed = (.ok true, .none, world) := by
  have given : (world.handles[h]?.any fun handle => handle.stage != .held) = true := by
    rw [found]
    simpa using gone
  unfold World.request
  dsimp only
  rw [if_pos given]

/-- Anything else but a close is asked of the connection. -/
theorem request_eq (found : world.handles[h]? = some handle) {request : Request}
    (goesOn : request ≠ .close) (asks : request = .isClosed → handle.stage = .held) :
    world.request h request =
      ((world.withConnection h (Exchange.call .holder · request)).1, .none,
        (world.withConnection h (Exchange.call .holder · request)).2) := by
  cases request with
  | close => exact absurd rfl goesOn
  | isClosed =>
    have kept : ¬ (world.handles[h]?.any fun handle => handle.stage != .held) = true := by
      rw [found]
      simpa using asks rfl
    unfold World.request
    dsimp only
    rw [if_neg kept]
  | _ => rfl

/-- How the operations on a stale handle answer. -/
structure TurnsAway (h : HandleId) (handle : Handle) (world : World σ) : Prop where
  /-- Whatever is asked of the connection fails, and the error names it. -/
  request : ∀ request, request ≠ .close → (request = .isClosed → handle.stage = .held) →
    (world.request h request).1 = .error (.invalidated (world.realId h))
  /-- Whatever its holder wants to do directly with the connection fails in the same way. -/
  direct : ∀ (α : Type) (work : ConnId → Exchange σ α),
    (world.withConnection h work).1 = .error (.invalidated (world.realId h))
  /-- A handle that was given back says that it is closed. -/
  isClosed : handle.stage ≠ .held → (world.request h .isClosed).1 = .ok true
  /-- Closing it succeeds. -/
  close : (world.request h .close).1 = .ok ()

theorem Stale.turnsAway (stale : world.Stale h handle) : world.TurnsAway h handle where
  request request goesOn asks := by
    rw [request_eq stale.found goesOn asks]
    exact (stale.withConnection _).1
  direct _ work := (stale.withConnection work).1
  isClosed gone := by rw [request_isClosed stale.found gone]
  close := rfl

/-! ## Giving a handle back -/

omit [Driver σ] in
/-- A handle that is put into its own stage is left as it is. -/
theorem restage_self (found : world.handles[h]? = some handle) :
    world.restage h handle.stage = world := by
  have same : world.handles.modify h ({ · with stage := handle.stage }) = world.handles := by
    apply Array.ext_getElem?
    intro g
    rw [Array.getElem?_modify]
    split
    · rename_i same
      rw [← same, found]
      rfl
    · rfl
  unfold restage
  rw [same]

omit [Driver σ] in
/-- The last stage counts. -/
theorem restage_restage (world : World σ) (h : HandleId) (first second : Stage) :
    (world.restage h first).restage h second = world.restage h second := by
  have twice : (world.handles.modify h ({ · with stage := first })).modify h
      ({ · with stage := second }) = world.handles.modify h ({ · with stage := second }) := by
    apply Array.ext_getElem?
    intro g
    simp only [Array.getElem?_modify]
    split
    · rw [Option.map_map]
      rfl
    · rfl
  unfold restage
  dsimp only
  rw [twice]

omit [Driver σ] in
theorem found_restage (found : world.handles[h]? = some handle) (stage : Stage) :
    (world.restage h stage).handles[h]? = some { handle with stage := stage } := by
  unfold restage
  dsimp only
  rw [Array.getElem?_modify, if_pos rfl, found, Option.map_some]

/-- The world in which one more bad connection is counted, that of the handle `h`. -/
def miscounted (h : HandleId) (world : World σ) : World σ :=
  { world with
    pool := { world.pool with
      counters := { world.pool.counters with
        badConnections := world.pool.counters.badConnections + 1 }
      env := world.pool.env.write (.event (.returnRefused (world.realId h))) } }

/-- The world in which the pool has taken back the wrapper `w`. -/
def takeBack (w : WrapperId) (world : World σ) : World σ :=
  { world with pool := world.pool.release world.settings.policy w }

/-- A handle that is given back for the first time concerns the pool. -/
theorem giveBack_held (found : world.handles[h]? = some handle) (held : handle.stage = .held)
    (stage : Stage) :
    world.giveBack h stage = (.one, (world.takeBack handle.wrapper).restage h stage) := by
  unfold World.giveBack
  rw [found]
  dsimp only
  rw [if_pos held]
  rfl

/-- Later it does not. -/
theorem giveBack_again (found : world.handles[h]? = some handle) (gone : handle.stage ≠ .held)
    (stage : Stage) : world.giveBack h stage = (.none, world.restage h stage) := by
  unfold World.giveBack
  rw [found]
  dsimp only
  rw [if_neg gone]
  rfl

/-- A handle that was closed may be closed again, which changes nothing. -/
theorem close_again (found : world.handles[h]? = some handle) (closed : handle.stage = .closed) :
    world.act (.request h .close) = (.none, world) := by
  show world.giveBack h .closed = _
  rw [giveBack_again found (closed ▸ Stage.noConfusion), ← closed, restage_self found]

/-! ## Sequences of uses -/

/-- A use of a stale handle that does not give it back for the first time disturbs nobody and
notifies nobody. -/
theorem Stale.act_use (stale : world.Stale h handle) (present : handle.stage ≠ .dropped)
    {action : Action σ} (use : Step.Uses h (.act action))
    (again : handle.stage = .held → (Step.act action).returns = none) :
    (world.act action).1 = .none ∧ world.Undisturbed handle.wrapper (world.act action).2 := by
  cases use with
  | converse dialogue => exact ⟨rfl, (stale.withConnection dialogue.hold).2⟩
  | request request =>
    by_cases close : request = .close
    · subst close
      have closed : handle.stage = .closed := by
        cases stage : handle.stage with
        | held => cases again stage
        | closed => rfl
        | dropped => exact absurd stage present
      rw [close_again stale.found closed]
      exact ⟨rfl, .refl _ world⟩
    · show (world.request h request).2.1 = _ ∧ World.Undisturbed _ _ (world.request h request).2.2
      by_cases asks : request = .isClosed → handle.stage = .held
      · rw [request_eq stale.found close asks]
        exact ⟨rfl, (stale.withConnection _).2⟩
      · obtain ⟨rfl, gone⟩ := Classical.not_imp.1 asks
        rw [request_isClosed stale.found gone]
        exact ⟨rfl, .refl _ world⟩

/-- However long its holder goes on using a stale handle, this disturbs nobody. -/
theorem Stale.follow (stale : world.Stale h handle) {steps : List (Step σ)}
    (uses : ∀ step ∈ steps, step.Uses h)
    (again : handle.stage = .held → ∀ step ∈ steps, step.returns = none)
    (run : world.follow steps = some after) : world.Undisturbed handle.wrapper after := by
  induction steps generalizing world with
  | nil =>
    cases run
    exact .refl _ _
  | cons step rest ih =>
    unfold World.follow at run
    split at run
    · rename_i allowed
      obtain ⟨action, rfl⟩ : ∃ action, step = .act action := by
        cases uses step List.mem_cons_self <;> exact ⟨_, rfl⟩
      have use := uses _ List.mem_cons_self
      have present : handle.stage ≠ .dropped := by
        have permitted : world.hasHandle h = true := by
          cases use <;> exact allowed
        unfold World.hasHandle at permitted
        rw [stale.found] at permitted
        simpa using permitted
      have first : world.Undisturbed handle.wrapper (world.take (.act action)) :=
        (stale.act_use present use fun held => again held _ List.mem_cons_self).2
      exact first.trans (ih (stale.undisturbed first)
        (fun other listed => uses other (List.mem_cons_of_mem _ listed))
        (fun held other listed => again held other (List.mem_cons_of_mem _ listed)) run)
    · cases run

/-! ## Closing and dropping -/

/-- What dropping a closed handle comes to. -/
theorem drop_again (found : world.handles[h]? = some handle) (gone : handle.stage ≠ .held) :
    world.act (.drop h) = (.none, (world.restage h .dropped).tearDown) :=
  congrArg (fun given => (given.1, given.2.tearDown)) (giveBack_again found gone .dropped)

theorem drop_held (found : world.handles[h]? = some handle) (held : handle.stage = .held) :
    world.act (.drop h) =
      (.one, ((world.takeBack handle.wrapper).restage h .dropped).tearDown) :=
  congrArg (fun given => (given.1, given.2.tearDown)) (giveBack_held found held .dropped)

theorem take_close (found : world.handles[h]? = some handle) (held : handle.stage = .held) :
    world.take (.act (.request h .close)) =
      (world.takeBack handle.wrapper).restage h .closed :=
  congrArg Prod.snd (giveBack_held found held .closed)

/-- To close a handle and to drop it then is to drop it. -/
theorem close_drop (found : world.handles[h]? = some handle) (held : handle.stage = .held) :
    (world.take (.act (.request h .close))).take (.act (.drop h)) =
      world.take (.act (.drop h)) := by
  have there : (world.takeBack handle.wrapper).handles[h]? = some handle := found
  have again := drop_again (found_restage there .closed) Stage.noConfusion
  rw [restage_restage] at again
  rw [take_close found held]
  exact (congrArg Prod.snd again).trans (congrArg Prod.snd (drop_held found held)).symm

/-- An acquisition goes on in the same way whatever becomes of an old handle. -/
theorem proceed_restage (ticket : Ticket) (acquisition : Acquisition)
    (old : h < world.handles.size) (stage : Stage) :
    (world.restage h stage).proceed ticket acquisition =
      (world.proceed ticket acquisition).restage h stage := by
  unfold World.proceed restage
  dsimp only
  cases (world.pool.acquire world.settings acquisition).1 with
  | failed error => rfl
  | asleep again => rfl
  | granted w =>
    have pushed : (world.handles.modify h ({ · with stage := stage })).push { wrapper := w } =
        (world.handles.push { wrapper := w }).modify h ({ · with stage := stage }) := by
      apply Array.ext_getElem?
      intro g
      simp only [Array.getElem?_modify, Array.getElem?_push, Array.size_modify]
      by_cases last : g = world.handles.size
      · rw [if_pos last, if_neg (last ▸ Nat.ne_of_lt old), if_pos last]
      · rw [if_neg last, if_neg last]
    unfold World.record
    dsimp only
    rw [Array.size_modify, pushed]

theorem found_proceed (ticket : Ticket) (acquisition : Acquisition)
    (found : world.handles[h]? = some handle) :
    (world.proceed ticket acquisition).handles[h]? = some handle := by
  obtain ⟨old, -⟩ := Array.getElem?_eq_some_iff.1 found
  unfold World.proceed
  cases (world.pool.acquire world.settings acquisition).1 with
  | failed error => exact found
  | asleep again => exact found
  | granted w =>
    show (world.handles.push { wrapper := w })[h]? = some handle
    rw [Array.getElem?_push, if_neg (Nat.ne_of_lt old), found]

/-- Closing a handle and dropping it later comes to the same as dropping it at once, also if a
sleeper wakes after the close. -/
theorem close_wake_drop (found : world.handles[h]? = some handle) (held : handle.stage = .held)
    (place : Nat) :
    ((world.take (.act (.request h .close))).take (.wake place)).take (.act (.drop h)) =
      (world.take (.act (.drop h))).take (.wake place) := by
  have dropped : world.take (.act (.drop h)) = _ := congrArg Prod.snd (drop_held found held)
  have there : (world.takeBack handle.wrapper).handles[h]? = some handle := found
  cases asleep : world.sleepers[place]? with
  | none =>
    -- Nobody wakes.
    have silent {other : World σ} (same : other.sleepers = world.sleepers) :
        other.take (.wake place) = other := by
      show other.wakeAt place = other
      unfold World.wakeAt
      rw [same, asleep]
    have first : (world.take (.act (.request h .close))).sleepers = world.sleepers := by
      rw [take_close found held]
      rfl
    have second : (world.take (.act (.drop h))).sleepers = world.sleepers := by
      rw [dropped]
      exact (tearDown_frame _).1
    rw [silent first, silent second, close_drop found held]
  | some sleeper =>
    obtain ⟨old, -⟩ := Array.getElem?_eq_some_iff.1 found
    have queued : world.sleepers ≠ [] := by
      intro none
      rw [none] at asleep
      cases asleep
    let back := (world.takeBack handle.wrapper).roused place sleeper
    let woken := back.proceed sleeper.ticket sleeper.acquisition
    have wakes (stage : Stage) : ((world.takeBack handle.wrapper).restage h stage).take
        (.wake place) = (woken.restage h stage).tearDown := by
      have wakes : ((world.takeBack handle.wrapper).restage h stage).wakeAt place = _ :=
        wakeAt_eq asleep
      have inside : h < back.handles.size := old
      exact wakes.trans (congrArg tearDown (proceed_restage _ _ inside stage))
    have here : back.handles[h]? = some handle := found
    have there : woken.handles[h]? = some handle := found_proceed _ _ here
    -- The closed handle is still there, so that the pool does not end.
    have reached : (woken.restage h .closed).tearDown = woken.restage h .closed :=
      tearDown_of_reached (isAbandoned_of_handle (found_restage there .closed) Stage.noConfusion)
    have drops : (woken.restage h .closed).take (.act (.drop h)) = _ :=
      congrArg Prod.snd (drop_again (found_restage there .closed) Stage.noConfusion)
    have stays : ((world.takeBack handle.wrapper).restage h .dropped).tearDown =
        (world.takeBack handle.wrapper).restage h .dropped := tearDown_of_sleepers queued
    rw [take_close found held, dropped, wakes, reached, drops, restage_restage, stays, wakes]

/-- A stale handle disturbs nobody. -/
structure Inert (h : HandleId) (handle : Handle) (world : World σ) : Prop where
  /-- However long its holder goes on using it, without giving it back for the first time:
  every operation is turned away, and nothing happens but that the wrapper of the handle may
  have been used. The wrapper that holds the connection now is another one. -/
  uses : ∀ steps after, (∀ step ∈ steps, step.Uses h) →
    (handle.stage = .held → ∀ step ∈ steps, step.returns = none) →
    world.follow steps = some after →
    after.TurnsAway h handle ∧ world.Undisturbed handle.wrapper after ∧
      ∀ v conn, world.pool.slot v = some conn →
        after.pool.wrappers[v]? = world.pool.wrappers[v]?
  /-- No such use notifies anybody. -/
  silent : handle.stage ≠ .dropped → ∀ action, Step.Uses h (.act action) →
    (handle.stage = .held → (Step.act action).returns = none) → (world.act action).1 = .none
  /-- The first time that the handle is given back, one more bad connection is counted and
  nothing else changes in the pool, before somebody is notified. -/
  closed : handle.stage = .held →
    world.act (.request h .close) =
      (.one, (world.miscounted h).restage h .closed)
  dropped : handle.stage = .held →
    world.act (.drop h) = (.one, ((world.miscounted h).restage h .dropped).tearDown)
  /-- Closing it again has no effect. Dropping it then has none but that the handle is gone,
  which ends the pool if nobody is left who could use it. -/
  closedAgain : handle.stage = .closed → world.act (.request h .close) = (.none, world)
  droppedThen : handle.stage = .closed →
    world.act (.drop h) = (.none, (world.restage h .dropped).tearDown)
  spared : (world.restage h .dropped).isAbandoned = false →
    (world.restage h .dropped).tearDown = world.restage h .dropped
  /-- To close the handle and to drop it then is to drop it, also if somebody wakes who was
  notified. -/
  alike : handle.stage = .held →
    (world.take (.act (.request h .close))).take (.act (.drop h)) =
        world.take (.act (.drop h)) ∧
      ∀ place,
        ((world.take (.act (.request h .close))).take (.wake place)).take (.act (.drop h)) =
          (world.take (.act (.drop h))).take (.wake place)

omit [Driver σ] in
/-- The wrapper of a stale handle holds no connection. -/
theorem Orderly.invalid_of_stale (orderly : world.Orderly) (stale : world.Stale h handle) :
    world.pool.isValid handle.wrapper = false := by
  rcases stale.lost with gone | invalid
  · refine Bool.eq_false_iff.2 fun valid => ?_
    have listed := orderly.owns.mem_active valid (orderly.handles.busy stale.found).1
    obtain ⟨g, other, found, same, held⟩ := orderly.handles.held _ listed
    obtain rfl := orderly.handles.inj found stale.found same
    rw [stale.found] at found
    cases found
    exact gone held
  · exact invalid

/-- A stale handle is refused when it is given back for the first time. -/
theorem Orderly.takeBack_of_stale (orderly : world.Orderly) (stale : world.Stale h handle) :
    world.takeBack handle.wrapper = world.miscounted h := by
  have named : world.realId h = world.pool.realId handle.wrapper := by
    unfold World.realId
    rw [stale.found]
  unfold takeBack miscounted
  rw [orderly.owns.release_of_invalid _ (orderly.invalid_of_stale stale), named]
  rfl

/-- In every reachable world stale handles are inert. -/
theorem inert_of_reachable {settings : Settings} {driver : σ}
    (reachable : Reachable settings driver world) (stale : world.Stale h handle) :
    world.Inert h handle := by
  have orderly := reachable.sound.toOrderly
  have refused := orderly.takeBack_of_stale stale
  constructor
  case uses =>
    intro steps after uses again run
    have undisturbed := stale.follow uses again run
    refine ⟨(stale.undisturbed undisturbed).turnsAway, undisturbed, fun v conn held => ?_⟩
    apply undisturbed.pool.others
    rintro rfl
    have valid := (orderly.owns.toCoherent.isValid_iff_slot _).2 ⟨conn, held⟩
    rw [orderly.invalid_of_stale stale] at valid
    cases valid
  case silent => exact fun present action use again => (stale.act_use present use again).1
  case closed =>
    intro held
    rw [← refused]
    exact giveBack_held stale.found held .closed
  case dropped =>
    intro held
    rw [← refused]
    exact drop_held stale.found held
  case closedAgain => exact fun closed => close_again stale.found closed
  case droppedThen =>
    exact fun closed => drop_again stale.found (closed ▸ Stage.noConfusion)
  case spared =>
    exact tearDown_of_reached
  case alike =>
    exact fun held => ⟨close_drop stale.found held, close_wake_drop stale.found held⟩

end

/-- When the third caller of the example has claimed the connection of the first one, the first
handle is stale, and its holder may go on without disturbing the third caller. -/
theorem inert_claimed : ∃ world : World Simulation.State,
    (World.start tightSettings {}).follow (claimSteps.take 6) = some world ∧
    world.realId 0 = world.realId 2 ∧ world.isValid 2 = true ∧
    world.handles[0]? = some { wrapper := 0 } ∧ world.pool.isValid 0 = false ∧
    world.Inert 0 { wrapper := 0 } := by
  have run : ((World.start tightSettings ({} : Simulation.State)).follow
      (claimSteps.take 6)).map (fun world =>
        (world.realId 0, world.realId 2, world.isValid 2, world.handles[0]?,
          world.pool.isValid 0)) =
      some (1, 1, true, some { wrapper := 0 }, false) := by decide +kernel
  obtain ⟨world, found, seen⟩ := Option.map_eq_some_iff.1 run
  simp only [Prod.mk.injEq] at seen
  obtain ⟨first, third, valid, handle, invalid⟩ := seen
  exact ⟨world, found, first.trans third.symm, valid, handle, invalid,
    inert_of_reachable (Reachable.start.follow found) ⟨handle, .inr invalid⟩⟩

/-- When the first handle, which is stale and was closed, is all that is left of the example,
dropping it ends the pool: a connection that was idle until then is closed. -/
theorem lastDrop_ends : ∃ world : World Simulation.State,
    (World.start tightSettings {}).follow
      (claimSteps ++ [.act (.request 0 .close), .act (.drop 2), .act .dropClone]) = some world ∧
    world.handles[0]? = some { wrapper := 0, stage := .closed } ∧
    world.pool.isValid 0 = false ∧
    world.pool.idle = [3] ∧ world.pool.env.closes 1 = 0 ∧
    (world.take (.act (.drop 0))).pool.idle = [] ∧
    (world.take (.act (.drop 0))).pool.env.closes 1 = 1 := by
  have run : ((World.start tightSettings ({} : Simulation.State)).follow
      (claimSteps ++ [.act (.request 0 .close), .act (.drop 2), .act .dropClone])).map
        (fun world => (world.handles[0]?, world.pool.isValid 0,
          (world.pool.idle, world.pool.env.closes 1),
          (world.take (.act (.drop 0))).pool.idle,
          (world.take (.act (.drop 0))).pool.env.closes 1)) =
      some (some { wrapper := 0, stage := .closed }, false, ([3], 0), [], 1) := by decide +kernel
  obtain ⟨world, found, seen⟩ := Option.map_eq_some_iff.1 run
  simp only [Prod.mk.injEq] at seen
  obtain ⟨handle, invalid, ⟨idle, spared⟩, ended⟩ := seen
  exact ⟨world, found, handle, invalid, idle, spared, ended⟩

end World

end ConnectionPooling
