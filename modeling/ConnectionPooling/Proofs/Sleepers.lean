/-
# Sleepers that are left behind

An acquisition sleeps because there is no room for another checkout, and it should
not go on sleeping when there is. A step is completed when every sleeper that was
notified, and every one whose deadline has come, has gone on; in which order they
do so is left open, and others may wake among them.

What is proved here is when completed steps leave a sleeper behind beside free room.
They do so in one case only. An acquisition that rejects the connection it claimed
has made room, but notifies nobody; if it then ends with a setback, because no new
connection can be opened or because that was one bad candidate too many, and no other
acquisition comes to an end after it, then everybody who sleeps is left behind.
-/

import ConnectionPooling.Proofs.Soundness
import ConnectionPooling.Proofs.Completion
import Mathlib.Data.List.Perm.Basic
import ConnectionPooling.Simulation.Driver

namespace ConnectionPooling

namespace World

variable {σ : Type}

/-- How many more connections may be checked out. -/
def room (world : World σ) : Nat :=
  world.pool.room world.settings.policy

/-- Somebody sleeps although the pool has an idle connection or may have another one
checked out. -/
def Stranded (world : World σ) : Prop :=
  world.sleepers ≠ [] ∧
    ¬(world.pool.idle = [] ∧ world.pool.active.length = world.settings.policy.maxActive)

/-- The last acquisition that came to an end did so with a setback. -/
def EndedInSetback (world : World σ) : Prop :=
  ∃ ticket error earlier, world.finished = (ticket, .error error) :: earlier ∧
    error.isSetback = true

/-- The invariant while sleepers go on: whoever is not among those called sleeps for
want of room, but for one place that either is left for one of those called or was
left by a setback. -/
structure Settling (called : List Ticket) (world : World σ) : Prop where
  nodup : (world.sleepers.map Sleeper.ticket).Nodup
  started : ∀ sleeper ∈ world.sleepers, sleeper.ticket < world.nextTicket
  closed : world.pool.closed = true → ∀ sleeper ∈ world.sleepers, sleeper.ticket ∈ called
  setback : world.EndedInSetback → 1 ≤ world.room
  served : (∀ sleeper ∈ world.sleepers, sleeper.ticket ∈ called) ∨ world.room = 0 ∨
    world.room = 1 ∧ (world.EndedInSetback ∨ ∃ sleeper ∈ world.sleepers, sleeper.ticket ∈ called)

/-- Between two steps the tickets of the sleepers are distinct, and nobody sleeps at a
closed pool. -/
structure Settled (world : World σ) : Prop extends Sound world where
  nodup : (world.sleepers.map Sleeper.ticket).Nodup
  started : ∀ sleeper ∈ world.sleepers, sleeper.ticket < world.nextTicket
  closed : world.pool.closed = true → world.sleepers = []

/-- There is room for another checkout exactly if the pool could serve a sleeper. -/
theorem Orderly.room_eq_zero_iff {world : World σ} (orderly : world.Orderly) :
    world.room = 0 ↔
      world.pool.idle = [] ∧ world.pool.active.length = world.settings.policy.maxActive := by
  have load := orderly.load
  unfold Pool.load at load
  unfold World.room Pool.room
  rw [← List.length_eq_zero_iff]
  omega

theorem Orderly.stranded_iff {world : World σ} (orderly : world.Orderly) :
    world.Stranded ↔ world.sleepers ≠ [] ∧ world.room ≠ 0 := by
  unfold Stranded
  rw [← orderly.room_eq_zero_iff]

/-- When all who were called have gone on, a sleeper is left behind exactly if the
last acquisition to end met a setback. -/
theorem Settling.quiet {called : List Ticket} {world : World σ} (settling : world.Settling called)
    (sound : world.Sound) (quiet : ∀ sleeper ∈ world.sleepers, sleeper.ticket ∉ called) :
    world.Settled ∧ (world.Stranded ↔ world.sleepers ≠ [] ∧ world.EndedInSetback) := by
  have none (all : ∀ sleeper ∈ world.sleepers, sleeper.ticket ∈ called) : world.sleepers = [] :=
    List.eq_nil_iff_forall_not_mem.2 fun sleeper asleep =>
      quiet sleeper asleep (all sleeper asleep)
  constructor
  · exact {
      toSound := sound
      nodup := settling.nodup
      started := settling.started
      closed := fun closed => none (settling.closed closed) }
  · rw [sound.toOrderly.stranded_iff]
    constructor
    · rintro ⟨asleep, room⟩
      refine ⟨asleep, ?_⟩
      rcases settling.served with all | full | ⟨-, setback | ⟨sleeper, mem, called⟩⟩
      · exact absurd (none all) asleep
      · exact absurd full room
      · exact setback
      · exact absurd called (quiet sleeper mem)
    · rintro ⟨asleep, setback⟩
      have := settling.setback setback
      exact ⟨asleep, by omega⟩

/-- What matters about a world for those who sleep in it. -/
theorem Settling.congr {called : List Ticket} {world after : World σ}
    (settling : world.Settling called) (sleepers : after.sleepers = world.sleepers)
    (finished : after.finished = world.finished) (next : after.nextTicket = world.nextTicket)
    (closed : after.pool.closed = world.pool.closed) (room : after.room = world.room) :
    after.Settling called := by
  have same : after.EndedInSetback ↔ world.EndedInSetback := by
    unfold EndedInSetback
    rw [finished]
  exact {
    nodup := by rw [sleepers]; exact settling.nodup
    started := by rw [sleepers, next]; exact settling.started
    closed := by rw [sleepers, closed]; exact settling.closed
    setback := by rw [same, room]; exact settling.setback
    served := by rw [same, sleepers, room]; exact settling.served }

/-- Where nobody sleeps, nobody is left behind. -/
theorem Settling.of_no_sleepers {called : List Ticket} {world : World σ}
    (empty : world.sleepers = []) (setback : world.EndedInSetback → 1 ≤ world.room) :
    world.Settling called where
  nodup := by simp [empty]
  started := by simp [empty]
  closed := by simp [empty]
  setback := setback
  served := .inl (by simp [empty])

/-- The invariant while the acquisition `ticket` runs: whoever else is not among those
called has at most the one place to miss that this acquisition may take. -/
structure Running (called : List Ticket) (ticket : Ticket) (world : World σ) : Prop where
  nodup : (ticket :: world.sleepers.map Sleeper.ticket).Nodup
  started : ∀ sleeper ∈ world.sleepers, sleeper.ticket < world.nextTicket
  own : ticket < world.nextTicket
  closed : world.pool.closed = true → ∀ sleeper ∈ world.sleepers, sleeper.ticket ∈ called
  setback : world.EndedInSetback → 1 ≤ world.room
  served : (∀ sleeper ∈ world.sleepers, sleeper.ticket ∈ called) ∨ world.room ≤ 1

namespace Running

variable {called : List Ticket} {ticket : Ticket} {world : World σ} {pool : Pool σ}

/-- The world settles when the acquisition that runs gets a connection. -/
theorem grant (running : world.Running called ticket) (closed : pool.closed = world.pool.closed)
    (room : pool.room world.settings.policy = world.room - 1) {w : WrapperId} :
    Settling called (World.record ticket (.granted w) { world with pool := pool }) where
  nodup := running.nodup.of_cons
  started := running.started
  closed now := running.closed (closed ▸ now)
  setback := by
    rintro ⟨_, _, _, ended, -⟩
    cases ended
  served := by
    rcases running.served with all | few
    · exact .inl all
    · exact .inr (.inl (room.trans (by omega)))

/-- The world settles when the acquisition that runs sleeps, at the end of the queue, because
there is no room. -/
theorem sleep (running : world.Running called ticket) (closed : pool.closed = false)
    (full : world.room = 0) (room : pool.room world.settings.policy = 0)
    {acquisition : Acquisition} :
    Settling called (World.record ticket (.asleep acquisition) { world with pool := pool }) where
  nodup := by
    show (List.map Sleeper.ticket (world.sleepers ++ [_])).Nodup
    rw [List.map_append]
    exact (List.perm_append_singleton ticket _).nodup_iff.2 running.nodup
  started := by
    intro sleeper mem
    rcases List.mem_append.1 mem with mem | mem
    · exact running.started sleeper mem
    · rw [List.mem_singleton.1 mem]
      exact running.own
  closed now := absurd (closed.symm.trans now) (by decide)
  setback := by
    intro ended
    have left : 1 ≤ world.room := running.setback ended
    omega
  served := .inr (.inl room)

/-- The world settles when the acquisition that runs fails, with a setback or because no
connection may be checked out at all. -/
theorem fail (running : world.Running called ticket) (closed : pool.closed = world.pool.closed)
    {error : PoolError} (uses : (Progress.failed error).Uses world.room
      (pool.room world.settings.policy)) :
    Settling called (World.record ticket (.failed error) { world with pool := pool }) := by
  have after : (World.record ticket (.failed error) { world with pool := pool }).room =
      pool.room world.settings.policy := rfl
  simp only [Progress.Uses] at uses
  cases kind : error.isSetback with
  | true =>
    rw [if_pos kind] at uses
    exact {
      nodup := running.nodup.of_cons
      started := running.started
      closed := fun now => running.closed (closed ▸ now)
      setback := fun _ => by rw [after]; omega
      served := by
        rw [after]
        rcases running.served with all | few
        · exact .inl all
        · exact .inr (.inr ⟨by omega, .inl ⟨ticket, error, world.finished, rfl, kind⟩⟩) }
  | false =>
    rw [if_neg (by simp [kind])] at uses
    exact {
      nodup := running.nodup.of_cons
      started := running.started
      closed := fun now => running.closed (closed ▸ now)
      setback := by
        rintro ⟨_, _, _, ended, isSetback⟩
        cases ended
        rw [kind] at isSetback
        cases isSetback
      served := .inr (.inl uses.2) }

/-- The world settles when the acquisition that runs is refused because the pool is closed,
which everybody learns. -/
theorem refuse (running : world.Running called ticket) (closed : world.pool.closed = true)
    {error : PoolError} (kind : error.isSetback = false) :
    Settling called (World.record ticket (.failed error) world) where
  nodup := running.nodup.of_cons
  started := running.started
  closed := running.closed
  setback := by
    rintro ⟨_, _, _, ended, isSetback⟩
    cases ended
    rw [kind] at isSetback
    cases isSetback
  served := .inl (running.closed closed)

end Running

variable [Driver σ]

/-- Ending a pool that nobody can reach leaves nobody behind, since nobody sleeps. -/
theorem Settling.tearDown {called : List Ticket} {world : World σ}
    (settling : world.Settling called) (orderly : world.Orderly) :
    world.tearDown.Settling called := by
  by_cases asleep : world.sleepers = []
  · refine .of_no_sleepers ((tearDown_frame world).1.trans asleep) ?_
    intro setback
    unfold World.tearDown at setback ⊢
    split at setback
    · have before := settling.setback setback
      have emptied := (orderly.owns.forceCloseAll world.settings.source).active
      rename_i gone
      rw [if_pos gone]
      unfold World.room Pool.room at before ⊢
      dsimp only
      rw [emptied, List.length_nil]
      omega
    · rename_i kept
      rw [if_neg kept]
      exact settling.setback setback
  · rw [tearDown_of_sleepers asleep]
    exact settling

/-- A running acquisition leaves everybody else accounted for: it took the place, left
it, or found none. -/
theorem Running.proceed {called : List Ticket} {ticket : Ticket} {world : World σ}
    (running : world.Running called ticket) (orderly : world.Orderly)
    (acquisition : Acquisition) : (world.proceed ticket acquisition).Settling called := by
  have still : (world.pool.acquire world.settings acquisition).2.closed = world.pool.closed :=
    (orderly.owns.acquire_leaves world.settings acquisition).closed
  unfold World.proceed
  rcases Pool.acquire_cases world.settings acquisition world.pool with
    ⟨closed, refused⟩ | ⟨closed, acquires⟩
  · rw [refused]
    exact running.refuse closed (by split <;> rfl)
  · have uses := acquires.room orderly.owns orderly.load
    cases run : world.pool.acquire world.settings acquisition with
    | mk progress pool =>
      rw [run] at uses still
      cases progress with
      | granted w => exact running.grant still uses
      | asleep acquisition => exact running.sleep (still.trans closed) uses.1 uses.2
      | failed error => exact running.fail still uses

omit [Driver σ] in
/-- Whoever leaves the queue stood in it, and the others remain. -/
theorem perm_eraseIdx {sleepers : List Sleeper} {place : Nat} {sleeper : Sleeper}
    (found : sleepers[place]? = some sleeper) :
    sleepers.Perm (sleeper :: sleepers.eraseIdx place) := by
  obtain ⟨inside, rfl⟩ := List.getElem?_eq_some_iff.1 found
  exact (List.getElem_cons_eraseIdx_perm inside).symm

omit [Driver σ] in
/-- A sleeper that wakes runs, and it is not called any more. -/
theorem Settling.roused {called : List Ticket} {world : World σ}
    (settling : world.Settling called) {place : Nat} {sleeper : Sleeper}
    (found : world.sleepers[place]? = some sleeper) :
    (world.roused place sleeper).Running (called.filter (· ≠ sleeper.ticket))
      sleeper.ticket := by
  have split := perm_eraseIdx found
  have tickets := (split.map Sleeper.ticket).nodup_iff.1 settling.nodup
  rw [List.map_cons, List.nodup_cons] at tickets
  have others : ∀ other ∈ world.sleepers.eraseIdx place, other ∈ world.sleepers := by
    intro other mem
    exact split.mem_iff.2 (List.mem_cons_of_mem sleeper mem)
  have apart : ∀ other ∈ world.sleepers.eraseIdx place, other.ticket ≠ sleeper.ticket := by
    intro other mem same
    exact tickets.1 (same ▸ List.mem_map_of_mem mem)
  have stillCalled (all : ∀ other ∈ world.sleepers, other.ticket ∈ called) :
      ∀ other ∈ world.sleepers.eraseIdx place,
        other.ticket ∈ called.filter (· ≠ sleeper.ticket) := by
    intro other mem
    rw [List.mem_filter]
    exact ⟨all other (others other mem), by simpa using apart other mem⟩
  exact {
    nodup := List.nodup_cons.2 tickets
    started := fun other mem => settling.started other (others other mem)
    own := settling.started sleeper (List.mem_of_getElem? found)
    closed := fun closed => stillCalled (settling.closed closed)
    setback := settling.setback
    served := by
      rcases settling.served with all | full | ⟨one, -⟩
      · exact .inl (stillCalled all)
      · exact .inr (Nat.le_trans (Nat.le_of_eq full) (Nat.zero_le 1))
      · exact .inr (Nat.le_of_eq one) }

/-- A sleeper that wakes, called or not, leaves everybody else accounted for. -/
theorem Settling.wakeAt {called : List Ticket} {world : World σ}
    (settling : world.Settling called) (sound : world.Sound) {place : Nat} {sleeper : Sleeper}
    (found : world.sleepers[place]? = some sleeper) :
    (world.wakeAt place).Settling (called.filter (· ≠ sleeper.ticket)) := by
  have woken := sound.toOrderly.roused place sleeper
  rw [wakeAt_eq found]
  exact ((settling.roused found).proceed woken sleeper.acquisition).tearDown (woken.proceed _ _)

/-! ## Whom a step leaves behind -/

omit [Driver σ] in
/-- Whoever sleeps where nobody is left behind sleeps for want of room. -/
theorem Settled.full {world : World σ} (settled : world.Settled) (calm : ¬ world.Stranded)
    (asleep : world.sleepers ≠ []) : world.room = 0 := by
  rw [settled.toOrderly.stranded_iff] at calm
  by_contra room
  exact calm ⟨asleep, room⟩

omit [Driver σ] in
/-- Where the sleepers are those of a settled world and nothing has ended yet, it
matters only that each of them is called or has at most the place to miss that one of
those called may take. -/
theorem Settled.settling {called : List Ticket} {world after : World σ}
    (settled : world.Settled) (sleepers : after.sleepers = world.sleepers)
    (next : after.nextTicket = world.nextTicket) (finished : after.finished = [])
    (closed : after.pool.closed = world.pool.closed)
    (served : world.sleepers ≠ [] → after.room = 0 ∨
      after.room = 1 ∧ ∃ sleeper ∈ world.sleepers, sleeper.ticket ∈ called) :
    after.Settling called where
  nodup := sleepers ▸ settled.nodup
  started := by
    rw [sleepers, next]
    exact settled.started
  closed now := by
    rw [sleepers, settled.closed (closed ▸ now)]
    simp
  setback := by
    rintro ⟨_, _, _, ended, -⟩
    rw [finished] at ended
    cases ended
  served := by
    by_cases asleep : world.sleepers = []
    · exact .inl (by simp [sleepers, asleep])
    · rw [sleepers]
      rcases served asleep with full | ⟨one, someone⟩
      · exact .inr (.inl full)
      · exact .inr (.inr ⟨one, .inr someone⟩)

omit [Driver σ] in
/-- Where everybody is called, nobody is left behind. -/
theorem Settled.settling_of_all {called : List Ticket} {world after : World σ}
    (settled : world.Settled) (sleepers : after.sleepers = world.sleepers)
    (next : after.nextTicket = world.nextTicket) (finished : after.finished = [])
    (calls : Signal.all.Calls after.sleepers called) : after.Settling called := by
  have all : ∀ sleeper ∈ after.sleepers, sleeper.ticket ∈ called := by
    intro sleeper mem
    rw [calls]
    exact List.mem_map_of_mem mem
  exact {
    nodup := sleepers ▸ settled.nodup
    started := by
      rw [sleepers, next]
      exact settled.started
    closed := fun _ => all
    setback := by
      rintro ⟨_, _, _, ended, -⟩
      rw [finished] at ended
      cases ended
    served := .inl all }

/-- Giving a handle back concerns nobody, or it leaves at most one more place and
notifies one sleeper. -/
theorem Orderly.giveBack_cases {world : World σ} (orderly : world.Orderly) (h : HandleId)
    (stage : Stage) :
    (world.giveBack h stage).2.sleepers = world.sleepers ∧
      (world.giveBack h stage).2.nextTicket = world.nextTicket ∧
      (world.giveBack h stage).2.finished = world.finished ∧
      (world.giveBack h stage).2.pool.closed = world.pool.closed ∧
      (((world.giveBack h stage).1 = .none ∧ (world.giveBack h stage).2.room = world.room) ∨
        ((world.giveBack h stage).1 = .one ∧
          (world.giveBack h stage).2.room ≤ world.room + 1)) := by
  unfold World.giveBack
  cases found : world.handles[h]? with
  | none => exact ⟨rfl, rfl, rfl, rfl, .inl ⟨rfl, rfl⟩⟩
  | some handle =>
    dsimp only
    split
    · obtain ⟨-, releases⟩ :=
        orderly.owns.release world.settings.policy (orderly.handles.busy found).1
      refine ⟨rfl, rfl, rfl, releases.closed, .inr ⟨rfl, ?_⟩⟩
      unfold World.room Pool.room
      dsimp only
      rw [releases.active, List.length_erase]
      split <;> omega
    · exact ⟨rfl, rfl, rfl, rfl, .inl ⟨rfl, rfl⟩⟩

/-- The place that a handle leaves is for the one sleeper that is notified. -/
theorem Settled.giveBack {called : List Ticket} {world : World σ} (settled : world.Settled)
    (calm : ¬ world.Stranded) (new : world.finished = []) (h : HandleId) (stage : Stage)
    (calls : (world.giveBack h stage).1.Calls world.sleepers called) :
    (world.giveBack h stage).2.Settling called := by
  obtain ⟨sleepers, next, finished, closed, change⟩ :=
    settled.toOrderly.giveBack_cases h stage
  apply settled.settling sleepers next (finished.trans new) closed
  intro asleep
  have full := settled.full calm asleep
  rcases change with ⟨-, room⟩ | ⟨one, room⟩
  · exact .inl (room.trans full)
  · rw [one] at calls
    rcases calls with ⟨none, -⟩ | ⟨sleeper, mem, rfl⟩
    · exact absurd none asleep
    · by_cases left : (world.giveBack h stage).2.room = 0
      · exact .inl left
      · exact .inr ⟨by omega, sleeper, mem, List.mem_singleton_self _⟩

omit [Driver σ] in
/-- What changes neither the sleepers nor how many connections are checked out leaves
nobody behind. -/
theorem Settled.settling_of_room {called : List Ticket} {world after : World σ}
    (settled : world.Settled) (calm : ¬ world.Stranded) (new : after.finished = [])
    (sleepers : after.sleepers = world.sleepers) (next : after.nextTicket = world.nextTicket)
    (closed : after.pool.closed = world.pool.closed) (room : after.room = world.room) :
    after.Settling called :=
  settled.settling sleepers next new closed fun asleep =>
    .inl (room.trans (settled.full calm asleep))

omit [Driver σ] in
theorem Settled.settling_of_keeps {called : List Ticket} {world : World σ}
    (settled : world.Settled) (calm : ¬ world.Stranded) (new : world.finished = [])
    {pool : Pool σ} (keeps : world.pool.Keeps pool) :
    Settling called { world with pool := pool } := by
  have room : World.room { world with pool := pool } = world.room := by
    unfold World.room Pool.room
    dsimp only
    rw [keeps.active]
  exact settled.settling_of_room calm new rfl rfl keeps.closed room

omit [Driver σ] in
/-- A new acquisition runs where nobody is left behind. -/
theorem Settled.running {called : List Ticket} {world : World σ} (settled : world.Settled)
    (calm : ¬ world.Stranded) (new : world.finished = []) :
    Running called world.nextTicket { world with nextTicket := world.nextTicket + 1 } where
  nodup := by
    refine List.nodup_cons.2 ⟨fun taken => ?_, settled.nodup⟩
    obtain ⟨sleeper, mem, same⟩ := List.mem_map.1 taken
    have earlier := settled.started sleeper mem
    lia
  started sleeper mem := Nat.lt_succ_of_lt (settled.started sleeper mem)
  own := Nat.lt_succ_self _
  closed now := by
    rw [settled.closed now]
    simp
  setback := by
    rintro ⟨_, _, _, ended, -⟩
    rw [new] at ended
    cases ended
  served := by
    by_cases asleep : world.sleepers = []
    · exact .inl (by simp [asleep])
    · exact .inr (Nat.le_trans (Nat.le_of_eq (settled.full calm asleep)) (Nat.zero_le 1))

/-- A change of a setting calls everybody, or it leaves the limits as they are. -/
theorem Settled.reconfigure {called : List Ticket} {world : World σ} (settled : world.Settled)
    (calm : ¬ world.Stranded) (new : world.finished = []) {change : Change}
    (calls : (world.reconfigure change).1.Calls (world.reconfigure change).2.sleepers called) :
    (world.reconfigure change).2.Settling called := by
  unfold World.reconfigure at calls ⊢
  dsimp only at calls ⊢
  by_cases drains : change.drains = true
  · rw [if_pos drains] at calls ⊢
    exact settled.settling_of_all rfl rfl new calls
  · rw [if_neg drains]
    cases change with
    | tolerance count => exact settled.settling_of_room calm new rfl rfl rfl rfl
    | _ => exact absurd rfl drains

/-- Whatever somebody does where nobody is left behind, everybody who sleeps then is
called, or has at most the place to miss that one of those called may take. -/
theorem Settled.act {called : List Ticket} {world : World σ} (settled : world.Settled)
    (calm : ¬ world.Stranded) (new : world.finished = []) {action : Action σ}
    (calls : (world.act action).1.Calls (world.act action).2.sleepers called) :
    (world.act action).2.Settling called := by
  have kept {pool : Pool σ} (keeps : world.pool.Keeps pool) :
      Settling called { world with pool := pool } :=
    settled.settling_of_keeps calm new keeps
  cases action with
  | acquire who =>
    have next : Orderly { world with nextTicket := world.nextTicket + 1 } :=
      settled.congr rfl rfl rfl
    show (world.acquire (who.getD world.settings.source.who)).2.Settling called
    rw [acquire_eq]
    exact (settled.running calm new).proceed next _
  | request h request =>
    show (world.request h request).2.2.Settling called
    change (world.request h request).2.1.Calls (world.request h request).2.2.sleepers called
      at calls
    rcases world.request_cases h request with ⟨-, closed⟩ | ⟨pool, keeps, after⟩
    · rw [closed] at calls ⊢
      change (world.giveBack h .closed).1.Calls (world.giveBack h .closed).2.sleepers called
        at calls
      rw [(settled.toOrderly.giveBack_cases h .closed).1] at calls
      exact settled.giveBack calm new h .closed calls
    · rw [after]
      exact kept keeps
  | converse h dialogue =>
    obtain ⟨pool, keeps, after⟩ := world.exists_withConnection h dialogue.within_hold
    show (world.withConnection h dialogue.hold).2.Settling called
    rw [after]
    exact kept keeps
  | drop h =>
    show (world.giveBack h .dropped).2.tearDown.Settling called
    change (world.giveBack h .dropped).1.Calls (world.giveBack h .dropped).2.tearDown.sleepers
      called at calls
    rw [(tearDown_frame _).1, (settled.toOrderly.giveBack_cases h .dropped).1] at calls
    exact (settled.giveBack calm new h .dropped calls).tearDown
      (settled.toOrderly.giveBack h .dropped)
  | forceCloseAll => exact settled.settling_of_all rfl rfl new calls
  | shutDown => exact settled.settling_of_all rfl rfl new calls
  | change change => exact settled.reconfigure calm new calls
  | addClone => exact settled.settling_of_room calm new rfl rfl rfl rfl
  | dropClone =>
    have same : Orderly { world with clones := world.clones - 1 } := settled.congr rfl rfl rfl
    exact Settling.tearDown (settled.settling_of_room calm new rfl rfl rfl rfl) same
  | elapse target => exact kept (world.pool.keeps_talk (Environment.talks_elapse _ _))
  | disturb update => exact kept (world.pool.keeps_talk (Environment.talks_disturb _ _))

/-- Everybody has gone on: the world is settled, and somebody is left behind exactly
if the last acquisition to end met a setback. -/
theorem Settles.settled {called : List Ticket} {world after : World σ}
    (settles : Settles called world after) (settling : world.Settling called)
    (sound : world.Sound) :
    after.Settled ∧ (after.Stranded ↔ after.sleepers ≠ [] ∧ after.EndedInSetback) := by
  -- Every way to go on keeps `Settling`, which says what is left once all is quiet.
  induction settles with
  | done quiet => exact settling.quiet sound fun sleeper mem => (quiet sleeper mem).1
  | @pass _ world _ target _ ih =>
    have later := sound.keep (world.pool.keeps_talk (Environment.talks_elapse target _))
    exact ih (settling.congr rfl rfl rfl rfl rfl) later
  | @wake _ _ _ place _ found _ ih => exact ih (settling.wakeAt sound found) (sound.wakeAt place)

/-- A step that is completed where nobody was left behind leaves somebody behind
exactly if the last acquisition that ended in it met a setback while another one
slept. -/
theorem Completes.settled {action : Action σ} {world after : World σ}
    (completes : Completes action world after) (settled : world.Settled)
    (calm : ¬ world.Stranded) :
    after.Settled ∧ (after.Stranded ↔ after.sleepers ≠ [] ∧ after.EndedInSetback) := by
  obtain ⟨permitted, called, calls, settles⟩ := completes
  have begun : Settled { world with finished := [] } :=
    ⟨⟨settled.congr rfl rfl rfl, settled.abandoned⟩, settled.nodup, settled.started,
      settled.closed⟩
  exact settles.settled (begun.act calm rfl calls) (begun.toSound.act permitted)

omit [Driver σ] in
theorem settled_start (settings : Settings) (driver : σ) :
    (World.start settings driver).Settled where
  toSound := sound_start settings driver
  nodup := List.nodup_nil
  started _ mem := absurd mem List.not_mem_nil
  closed _ := rfl

omit [Driver σ] in
theorem not_stranded_start (settings : Settings) (driver : σ) :
    ¬ (World.start settings driver).Stranded :=
  fun stranded => stranded.1 rfl

/-- As long as nobody was left behind, every world of a run is settled. -/
theorem Run.settled {settings : Settings} {driver : σ} {world : World σ}
    {history : List (World σ)} (run : Run settings driver world history)
    (calm : ∀ after ∈ history, ¬ after.Stranded) : world.Settled ∧ ¬ world.Stranded := by
  induction run with
  | start => exact ⟨settled_start settings driver, not_stranded_start settings driver⟩
  | step run completes ih =>
    obtain ⟨now, earlier⟩ := List.forall_mem_cons.1 calm
    obtain ⟨before, none⟩ := ih earlier
    exact ⟨(completes.settled before none).1, now⟩

/-- One connection may be checked out, a checkout is soon overdue, and who sleeps has
no deadline. -/
def singleSettings : Settings where
  source := { url := "db" }
  policy := { maxActive := 1, maxIdle := 1, maxCheckoutTime := 10, timeToWait := 0, tolerance := 0 }

/-- One caller has the connection and another one sleeps. When the checkout is
overdue, the connection is dead and the database cannot be reached for a moment, a
third caller asks for a connection. -/
def setbackActions : List (Action Simulation.State) :=
  [.acquire none, .acquire none, .elapse 20,
    .disturb fun state =>
      (state.follow 0 { dead := some true }).getD state |>.followTemplate
        { faults := [(.connect, some { error := .connect "down", times := some 1 })] },
    .acquire none]

/-- In a run no completed step leaves anybody behind beside free room exactly if in
none of its steps the last acquisition that ended met a setback while another one
slept. -/
theorem no_stranded_iff_no_setback {settings : Settings} {driver : σ} {world : World σ}
    {history : List (World σ)} (run : Run settings driver world history) :
    (∀ after ∈ history, ¬ after.Stranded) ↔
      ∀ after ∈ history, after.sleepers ≠ [] → ¬ after.EndedInSetback := by
  induction run with
  | start => simp
  | @step world after history action run completes ih =>
    -- Whether this step leaves somebody behind is settled only if no earlier one did.
    rw [List.forall_mem_cons, List.forall_mem_cons, ← ih]
    apply and_congr_left
    intro calm
    obtain ⟨settled, none⟩ := run.settled calm
    rw [(completes.settled settled none).2, not_and]

/-- The third caller claims the connection, rejects it, and cannot get another one.
The second caller is left behind: nothing is idle and nothing is checked out, and it
has no deadline. -/
theorem setback_strands : ∃ world history,
    completeQuietly setbackActions (.start singleSettings {}) [] = some (world, history) ∧
    world.sleepers.map Sleeper.ticket = [1] ∧ world.pool.active = [] ∧ world.Stranded ∧
    ((∀ after ∈ history, ¬ after.Stranded) ↔
      ∀ after ∈ history, after.sleepers ≠ [] → ¬ after.EndedInSetback) := by
  have run : (completeQuietly setbackActions (.start singleSettings {}) []).map
      (fun result => (result.1.sleepers.map Sleeper.ticket, result.1.pool.active,
        result.1.settings.policy.maxActive)) = some ([1], [], 1) := by decide +kernel
  obtain ⟨⟨world, history⟩, found, seen⟩ := Option.map_eq_some_iff.1 run
  simp only [Prod.mk.injEq] at seen
  obtain ⟨sleepers, active, maxActive⟩ := seen
  refine ⟨world, history, found, sleepers, active, ⟨?_, ?_⟩,
    no_stranded_iff_no_setback (Run.start.completeQuietly found)⟩
  · intro none
    simp [none] at sleepers
  · simp [active, maxActive]

end World

end ConnectionPooling
