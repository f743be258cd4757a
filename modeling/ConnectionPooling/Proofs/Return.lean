/-
# How connections come back

A connection that is given back ends in one of two ways, which `Returns` lists: it
is closed and its wrapper laid aside, or it moves into a new wrapper and becomes
idle, for which there must be room. Closing all connections by force ends each of
them in the first way.

The main statements are that a pool which owns its connections properly still does
so afterwards, and that no wrapper gets into the lists but the one that holds the
connection given back.
-/

import ConnectionPooling.Proofs.Capacity

namespace ConnectionPooling

namespace Pool

variable {σ α : Type}

/-! ## Use by a holder -/

/-- From `before` to `after` the pool has the same connections in the same places,
and it asked for no new one. -/
structure Keeps (before after : Pool σ) : Prop where
  owns : before.Owns [] → after.Owns []
  idle : after.idle = before.idle
  active : after.active = before.active
  size : after.wrappers.size = before.wrappers.size
  closed : after.closed = before.closed
  connects : after.env.connects = before.env.connects

theorem Keeps.draws {before after : Pool σ} (keeps : before.Keeps after) :
    before.Draws after where
  idle := keeps.idle ▸ List.suffix_rfl
  active := keeps.active ▸ List.suffix_rfl
  size := Nat.le_of_eq keeps.size.symm
  closed := keeps.closed

theorem Keeps.trans {before mid after : Pool σ} (first : before.Keeps mid)
    (second : mid.Keeps after) : before.Keeps after where
  owns := second.owns ∘ first.owns
  idle := second.idle.trans first.idle
  active := second.active.trans first.active
  size := second.size.trans first.size
  closed := second.closed.trans first.closed
  connects := second.connects.trans first.connects

/-- Talk concerns the surroundings of a pool only. -/
theorem keeps_talk (pool : Pool σ) {env : Environment σ} (talks : pool.env.Talks env) :
    pool.Keeps { pool with env := env } :=
  ⟨fun owns => owns.talk talks, rfl, rfl, rfl, rfl, talks.connects⟩

theorem keeps_touch (pool : Pool σ) (w : WrapperId) : pool.Keeps (pool.touch w) :=
  ⟨fun owns => owns.alter (keepsHolding_used pool.now) w, rfl, rfl, size_alter pool w _, rfl, rfl⟩

theorem keeps_count (pool : Pool σ) (update : Counters → Counters) :
    pool.Keeps (pool.count update) :=
  ⟨fun owns => owns.count update, rfl, rfl, rfl, rfl, rfl⟩

/-- Work that only talks to a connection leaves every connection where it is. -/
theorem keeps_withConnection (pool : Pool σ) (w : WrapperId) {work : ConnId → Exchange σ α}
    (talks : ∀ conn, Exchange.Within Entry.IsTalk (work conn)) :
    pool.Keeps (pool.withConnection w work).2 := by
  unfold withConnection
  cases pool.reach w with
  | none => exact pool.keeps_talk (.refl _ _)
  | some conn => exact pool.keeps_talk (talks conn pool.env)

/-! ## Giving one connection back -/

/-- What becomes of the connection of the wrapper `w` when the pool has taken that
wrapper in hand and puts it away. The totals may change in any way. -/
inductive Returns (policy : Policy) (w : WrapperId) (pool : Pool σ) : Pool σ → Prop
  /-- The connection is closed. -/
  | closed {env : Environment σ} {conn : ConnId} {counters : Counters}
      (held : pool.slot w = some conn) (shuts : pool.env.Shuts conn env) :
      Returns policy w pool { pool.spend w env with counters := counters }
  /-- The connection becomes idle in a new wrapper. -/
  | kept {env : Environment σ} {old : Wrapper} {conn : ConnId} {counters : Counters}
      (room : pool.idle.length < policy.maxIdle) (holds : pool.Holds w old conn)
      (talks : pool.env.Talks env) :
      Returns policy w pool
        { pool.renew w old conn with
          idle := pool.idle ++ [pool.wrappers.size]
          counters := counters
          env := env }

namespace Returns

variable {policy : Policy} {w : WrapperId} {pool after : Pool σ}

/-- Nothing is in hand any more when a connection was put away. -/
theorem owns (returns : Returns policy w pool after) (owns : pool.Owns [w]) :
    after.Owns [] := by
  cases returns with
  | closed held shuts => exact (owns.spend held shuts).relist (.refl _)
  | @kept env old conn counters _ holds talks =>
    have listed : Owns []
        { pool.renew w old conn with
          idle := pool.idle ++ [pool.wrappers.size], counters := counters } := by
      apply (owns.renew holds).relist
      rw [List.append_nil, List.append_assoc, List.append_assoc]
      exact List.perm_append_comm.append_left pool.idle
    exact listed.talk talks

theorem active (returns : Returns policy w pool after) : after.active = pool.active := by
  cases returns <;> rfl

/-- Either the idle queue is as it was, or the connection has joined it in the next
wrapper, for which there was room. -/
theorem idle (returns : Returns policy w pool after) :
    after.idle = pool.idle ∨
      (pool.idle.length < policy.maxIdle ∧ after.idle = pool.idle ++ [pool.wrappers.size]) := by
  cases returns with
  | closed => exact .inl rfl
  | kept room => exact .inr ⟨room, rfl⟩

theorem size (returns : Returns policy w pool after) :
    pool.wrappers.size ≤ after.wrappers.size := by
  cases returns with
  | closed => exact Nat.le_of_eq (size_alter pool w _).symm
  | kept => simp [renew, wrap, size_alter]

theorem closed_eq (returns : Returns policy w pool after) : after.closed = pool.closed := by
  cases returns <;> rfl

/-- Putting a connection away asks for no new one. -/
theorem connects (returns : Returns policy w pool after) :
    after.env.connects = pool.env.connects := by
  cases returns with
  | closed _ shuts => exact shuts.connects
  | kept _ _ talks => exact talks.connects

/-- What was said and counted before a connection is put away does not matter. -/
theorem of_talks {env : Environment σ} {counters : Counters}
    (talks : pool.env.Talks env)
    (returns : Returns policy w { pool with env := env, counters := counters } after) :
    Returns policy w pool after := by
  cases returns with
  | closed held shuts => exact .closed held (.of_talks talks shuts)
  | kept room holds later =>
    exact .kept room ⟨holds.found, holds.valid, holds.held⟩ (talks.trans later)

end Returns

/-- How giving back the wrapper `w` changes the lists. -/
structure Releases (policy : Policy) (w : WrapperId) (pool after : Pool σ) : Prop where
  active : after.active = pool.active.erase w
  /-- The connection became idle only if there was room and `w` was checked out. -/
  idle : after.idle = pool.idle ∨
    (w ∈ pool.active ∧ pool.idle.length < policy.maxIdle ∧
      after.idle = pool.idle ++ [pool.wrappers.size])
  size : pool.wrappers.size ≤ after.wrappers.size
  closed : after.closed = pool.closed
  connects : after.env.connects = pool.env.connects

theorem Releases.load_le {policy : Policy} {w : WrapperId} {pool after : Pool σ}
    (releases : Releases policy w pool after) : after.load ≤ pool.load := by
  unfold load
  rw [releases.active]
  rcases releases.idle with same | ⟨listed, -, joined⟩
  · rw [same]
    exact Nat.add_le_add_left List.length_erase_le _
  · rw [joined, List.length_append, List.length_singleton, List.length_erase_of_mem listed]
    have := List.length_pos_of_mem listed
    omega

theorem Releases.idle_le {policy : Policy} {w : WrapperId} {pool after : Pool σ}
    (releases : Releases policy w pool after) (fits : pool.idle.length ≤ policy.maxIdle) :
    after.idle.length ≤ policy.maxIdle := by
  rcases releases.idle with same | ⟨-, room, joined⟩
  · rw [same]
    exact fits
  · rw [joined, List.length_append, List.length_singleton]
    exact room

theorem Releases.mem_idle {policy : Policy} {w v : WrapperId} {pool after : Pool σ}
    (releases : Releases policy w pool after) (listed : v ∈ after.idle) :
    v ∈ pool.idle ∨ pool.wrappers.size ≤ v := by
  rcases releases.idle with same | ⟨-, -, joined⟩
  · exact .inl (same ▸ listed)
  · rw [joined, List.mem_append, List.mem_singleton] at listed
    exact listed.imp_right fun new => Nat.le_of_eq new.symm

/-- From `before` to `after` the pool lost all its connections, and it asked for no
new one. -/
structure Empties (before after : Pool σ) : Prop where
  owns : after.Owns []
  idle : after.idle = []
  active : after.active = []
  size : before.wrappers.size ≤ after.wrappers.size
  connects : after.env.connects = before.env.connects

theorem Empties.note {before after : Pool σ} (empties : before.Empties after) (event : Event) :
    before.Empties (after.note event) where
  owns := empties.owns.note event
  idle := empties.idle
  active := empties.active
  size := empties.size
  connects := (Environment.talks_note _ _).connects.trans empties.connects

/-- A valid wrapper that is not idle is checked out. -/
theorem Owns.mem_active {pool : Pool σ} (owns : pool.Owns []) {w : WrapperId}
    (valid : pool.isValid w = true) (busy : w ∉ pool.idle) : w ∈ pool.active := by
  have listed := (owns.isValid_iff w).1 valid
  rw [List.append_nil, List.mem_append] at listed
  exact listed.resolve_left busy

variable [Driver σ]

/-- A wrapper that holds a connection is retired by closing it. -/
theorem Holds.retire {pool : Pool σ} {w : WrapperId} {wrapper : Wrapper} {conn : ConnId}
    (holds : pool.Holds w wrapper conn) (policy : Policy) :
    Returns policy w pool (pool.retire w) := by
  unfold Pool.retire
  dsimp only
  rw [holds.dispose]
  have shuts := (Exchange.ends_shutDown conn).orComplain
    (.returnCloseFailed (pool.realId w)) pool.env
  exact .closed holds.slot (shuts.talks (Environment.talks_note _ _))

/-- A wrapper that holds a connection moves it into the next wrapper to become
idle. -/
theorem Holds.makeIdle {pool : Pool σ} {w : WrapperId} {wrapper : Wrapper} {conn : ConnId}
    (holds : pool.Holds w wrapper conn) {policy : Policy}
    (room : pool.idle.length < policy.maxIdle) :
    Returns policy w pool (pool.makeIdle w) := by
  unfold Pool.makeIdle
  dsimp only
  rw [holds.rewrap]
  exact .kept room holds (Environment.talks_note _ pool.env)

/-- A good connection in hand is put away. -/
theorem Holds.putAway {pool : Pool σ} {w : WrapperId} {wrapper : Wrapper} {conn : ConnId}
    (holds : pool.Holds w wrapper conn) (policy : Policy) :
    Returns policy w pool (pool.putAway policy w) := by
  unfold Pool.putAway
  by_cases reusable : pool.isReusable policy w = true
  · rw [if_pos reusable, holds.withConnection]
    have room : pool.idle.length < policy.maxIdle := by
      unfold isReusable at reusable
      exact of_decide_eq_true (Bool.and_eq_true_iff.1 reusable).1
    have undo := Exchange.rollbackIfNeeded_talks conn pool.env
    cases back : (Exchange.rollbackIfNeeded conn).perform pool.env with
    | mk outcome env =>
      rw [back] at undo
      cases outcome with
      | ok _ => exact .of_talks undo ((holds.talk env).makeIdle room)
      | error error =>
        have said := undo.trans (Environment.talks_note
          (.returnRollbackFailed (pool.realId w) error) env)
        exact .of_talks said ((holds.talk _).retire policy)
  · rw [if_neg reusable]
    exact holds.retire policy

/-- What giving back the wrapper `w` comes to. An invalid wrapper is refused, and
only a bad connection is counted; a valid one leaves the checkouts and its
connection is put away. -/
theorem Owns.release_cases {pool : Pool σ} (owns : pool.Owns []) (policy : Policy)
    (w : WrapperId) :
    (pool.isValid w = false ∧ pool.release policy w =
      { pool with active := pool.active.erase w }.refuse w) ∨
    (pool.isValid w = true ∧
      Returns policy w { pool with active := pool.active.erase w } (pool.release policy w)) := by
  cases valid : pool.isValid w with
  | false =>
    refine .inl ⟨rfl, ?_⟩
    unfold release
    dsimp only
    rw [if_neg]
    exact Bool.eq_false_iff.1 valid
  | true =>
    refine .inr ⟨rfl, ?_⟩
    obtain ⟨wrapper, conn, found⟩ := owns.toCoherent.exists_holds valid
    have holds : Holds { pool with active := pool.active.erase w } w wrapper conn :=
      ⟨found.found, found.valid, found.held⟩
    unfold release
    dsimp only
    rw [if_pos holds.isValid]
    have checks := check_checks policy holds
    cases run : Pool.check policy w { pool with active := pool.active.erase w } with
    | mk outcome checked =>
      rw [run] at checks
      cases checks with
      | @good env talks =>
        dsimp only [count]
        have counted : ∀ counters, Holds
            { pool with active := pool.active.erase w, env := env, counters := counters }
            w wrapper conn := fun _ => ⟨holds.found, holds.valid, holds.held⟩
        exact .of_talks talks ((counted _).putAway policy)
      | bad rejection held shuts =>
        exact .closed held (shuts.talks (Environment.talks_note _ _))

/-- Giving back a wrapper that is not idle keeps all connections owned properly. -/
theorem Owns.release {pool : Pool σ} (owns : pool.Owns []) (policy : Policy) {w : WrapperId}
    (busy : w ∉ pool.idle) :
    (pool.release policy w).Owns [] ∧ Releases policy w pool (pool.release policy w) := by
  rcases owns.release_cases policy w with ⟨invalid, same⟩ | ⟨valid, returns⟩
  · have absent : w ∉ pool.active := by
      intro listed
      have := (owns.isValid_iff w).2 (by simp [listed])
      simp [this] at invalid
    rw [same]
    constructor
    · have still : Owns [] { pool with active := pool.active.erase w } := by
        apply owns.relist
        rw [List.erase_of_not_mem absent]
      exact (still.count _).note _
    · exact ⟨rfl, .inl rfl, Nat.le_refl _, rfl, (Environment.talks_note _ _).connects⟩
  · have listed := owns.mem_active valid busy
    have taken : Owns [w] { pool with active := pool.active.erase w } := by
      apply owns.relist
      rw [List.append_nil, List.append_assoc]
      apply List.Perm.append_left
      exact (List.perm_append_comm).trans (List.perm_cons_erase listed).symm
    refine ⟨returns.owns taken, returns.active, ?_, returns.size, returns.closed_eq,
      returns.connects⟩
    rcases returns.idle with same | ⟨room, joined⟩
    · exact .inl same
    · exact .inr ⟨listed, room, joined⟩

/-! ## Closing by force -/

/-- Closing the first wrapper in hand by force lays it aside. -/
theorem Owns.forceClose {pool : Pool σ} {w : WrapperId} {inHand : List WrapperId}
    (owns : pool.Owns (w :: inHand)) :
    (pool.forceClose w).Owns inHand ∧ pool.Draws (pool.forceClose w) ∧
      (pool.forceClose w).env.connects = pool.env.connects := by
  obtain ⟨wrapper, conn, holds⟩ := owns.exists_holds_hand
  have shuts := (Exchange.ends_shutDown conn).orComplain
    (.forcedCloseFailed (pool.realId w)) pool.env
  unfold Pool.forceClose
  rw [holds.dispose]
  exact ⟨owns.spend holds.slot shuts,
    ⟨List.suffix_rfl, List.suffix_rfl, Nat.le_of_eq (size_alter pool w _).symm, rfl⟩,
    shuts.connects⟩

/-- Closing all wrappers in hand by force, one after the other, leaves none. -/
theorem Owns.foldl_forceClose {pool : Pool σ} {inHand : List WrapperId}
    (owns : pool.Owns inHand) :
    (inHand.foldl Pool.forceClose pool).Owns [] ∧
      pool.Draws (inHand.foldl Pool.forceClose pool) ∧
      (inHand.foldl Pool.forceClose pool).env.connects = pool.env.connects := by
  induction inHand generalizing pool with
  | nil => exact ⟨owns, .refl pool, rfl⟩
  | cons w rest ih =>
    obtain ⟨left, draws, same⟩ := owns.forceClose
    obtain ⟨none, later, still⟩ := ih left
    exact ⟨none, draws.trans later, still.trans same⟩

/-- After all connections were closed by force, none is listed. -/
theorem Owns.forceCloseAll {pool : Pool σ} (owns : pool.Owns []) (source : DataSource) :
    pool.Empties (pool.forceCloseAll source) := by
  have taken : Owns (pool.active ++ pool.idle)
      { pool with expected := source.fingerprint, active := [], idle := [] } := by
    apply owns.relist
    rw [List.append_nil, List.nil_append, List.append_nil]
    exact List.perm_append_comm
  obtain ⟨none, draws, connects⟩ := taken.foldl_forceClose
  have closed : pool.Empties
      ((pool.active ++ pool.idle).foldl Pool.forceClose
        { pool with expected := source.fingerprint, active := [], idle := [] }) := {
    owns := none
    idle := List.suffix_nil.1 draws.idle
    active := List.suffix_nil.1 draws.active
    size := draws.size
    connects := connects }
  exact closed.note _

end Pool

end ConnectionPooling
