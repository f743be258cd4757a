/-
# Who holds a connection

A physical connection is held by at most one wrapper, a wrapper is valid exactly
as long as it holds one, and the pool has closed a connection exactly if it was
opened and no wrapper holds it any more. `Coherent` says this of the wrappers and
the journal of a pool.

`Owns` adds the lists: the valid wrappers are the idle ones, the checked-out ones
and those that the pool has in hand at the moment, each in one place only. An
operation of the pool takes a wrapper in hand, checks, spends or renews it, and
puts what is left of it into a list. Each of these moves keeps `Owns`.
-/

import ConnectionPooling.Proofs.Journal
import Mathlib.Data.List.Nodup
import Mathlib.Tactic.Common

namespace ConnectionPooling

namespace Pool

variable {σ : Type}

/-- The connection that a wrapper holds, whether or not it may be used. -/
def slot (pool : Pool σ) (w : WrapperId) : Option ConnId :=
  pool.wrappers[w]?.bind Wrapper.slot

/-! ## Looking wrappers up after a change -/

@[simp]
theorem wrappers_alter (pool : Pool σ) (w v : WrapperId) (update : Wrapper → Wrapper) :
    (pool.alter w update).wrappers[v]? =
      if w = v then pool.wrappers[v]?.map update else pool.wrappers[v]? := by
  simp only [alter, Array.getElem?_modify]

@[simp]
theorem wrappers_push (pool : Pool σ) (v : WrapperId) (wrapper : Wrapper) :
    (pool.wrappers.push wrapper)[v]? =
      if v = pool.wrappers.size then some wrapper else pool.wrappers[v]? :=
  Array.getElem?_push

/-- What a change leaves as it is can be read off as before. -/
theorem map_wrappers_alter {α : Type} (pool : Pool σ) (w v : WrapperId)
    {update : Wrapper → Wrapper} {field : Wrapper → α}
    (keeps : ∀ wrapper, field (update wrapper) = field wrapper) :
    (pool.alter w update).wrappers[v]?.map field = pool.wrappers[v]?.map field := by
  rw [wrappers_alter]
  split
  · rw [Option.map_map]
    exact congrArg (Option.map · pool.wrappers[v]?) (funext keeps)
  · rfl

theorem bind_wrappers_alter {α : Type} (pool : Pool σ) (w v : WrapperId)
    {update : Wrapper → Wrapper} {field : Wrapper → Option α}
    (keeps : ∀ wrapper, field (update wrapper) = field wrapper) :
    (pool.alter w update).wrappers[v]?.bind field = pool.wrappers[v]?.bind field := by
  rw [wrappers_alter]
  split
  · rw [Option.bind_map]
    exact congrArg pool.wrappers[v]?.bind (funext keeps)
  · rfl

theorem size_alter (pool : Pool σ) (w : WrapperId) (update : Wrapper → Wrapper) :
    (pool.alter w update).wrappers.size = pool.wrappers.size := by
  simp [alter]

theorem lt_size_of_isValid {pool : Pool σ} {w : WrapperId} (h : pool.isValid w = true) :
    w < pool.wrappers.size := by
  by_contra hge
  have none : pool.wrappers[w]? = none := Array.getElem?_eq_none (Nat.le_of_not_lt hge)
  simp [isValid, none] at h

/-- The pool after the wrapper `w` lost its connection. -/
def spend (w : WrapperId) (env : Environment σ) (pool : Pool σ) : Pool σ :=
  { pool.alter w Wrapper.spent with env := env }

/-- The pool after the connection of the wrapper `w` moved into a new wrapper,
which is as `old` was but for the fingerprint. -/
def renew (w : WrapperId) (old : Wrapper) (conn : ConnId) (pool : Pool σ) : Pool σ :=
  ((pool.alter w Wrapper.spent).wrap (old.renewed conn)).2

/-- The pool after a connection was opened for it and got a name and a wrapper. -/
def enrol (conn : ConnId) (env : Environment σ) (pool : Pool σ) : Pool σ :=
  { pool with
    env := env
    lastRealId := pool.lastRealId + 1
    wrappers := pool.wrappers.push (.fresh (pool.lastRealId + 1) conn env.clock) }

theorem slot_spend (pool : Pool σ) (w v : WrapperId) (env : Environment σ) :
    (pool.spend w env).slot v = if w = v then none else pool.slot v := by
  simp only [slot, spend, wrappers_alter]
  by_cases h : w = v
  · rw [if_pos h, if_pos h]
    cases pool.wrappers[v]? <;> rfl
  · rw [if_neg h, if_neg h]

theorem isValid_spend (pool : Pool σ) (w v : WrapperId) (env : Environment σ) :
    (pool.spend w env).isValid v = true ↔ pool.isValid v = true ∧ v ≠ w := by
  simp only [isValid, spend, wrappers_alter]
  by_cases h : w = v
  · subst h
    cases pool.wrappers[w]? <;> simp [Wrapper.spent]
  · simp [h, Ne.symm h]

theorem realId_spend (pool : Pool σ) (w v : WrapperId) (env : Environment σ) :
    (pool.spend w env).realId v = pool.realId v :=
  congrArg (Option.getD · 0) (pool.map_wrappers_alter w v fun _ => rfl)

theorem wrappers_renew (pool : Pool σ) (w v : WrapperId) (old : Wrapper) (conn : ConnId) :
    (pool.renew w old conn).wrappers[v]? =
      if v = pool.wrappers.size then some (old.renewed conn)
      else (pool.spend w pool.env).wrappers[v]? := by
  simp only [renew, wrap, wrappers_push, size_alter, spend]

theorem slot_renew (pool : Pool σ) (w v : WrapperId) (old : Wrapper) (conn : ConnId) :
    (pool.renew w old conn).slot v =
      if v = pool.wrappers.size then some conn else (pool.spend w pool.env).slot v := by
  simp only [slot, wrappers_renew]
  by_cases h : v = pool.wrappers.size
  · rw [if_pos h, if_pos h]
    rfl
  · rw [if_neg h, if_neg h]

theorem isValid_renew (pool : Pool σ) (w v : WrapperId) (old : Wrapper) (conn : ConnId) :
    (pool.renew w old conn).isValid v = true ↔
      v = pool.wrappers.size ∨ (pool.isValid v = true ∧ v ≠ w) := by
  rw [← isValid_spend pool w v pool.env]
  simp only [isValid, wrappers_renew]
  by_cases h : v = pool.wrappers.size
  · simp [h, Wrapper.renewed]
  · simp [h]

theorem realId_renew (pool : Pool σ) (w v : WrapperId) (old : Wrapper) (conn : ConnId) :
    (pool.renew w old conn).realId v =
      if v = pool.wrappers.size then old.realId else pool.realId v := by
  rw [← realId_spend pool w v pool.env]
  simp only [realId, wrappers_renew]
  by_cases h : v = pool.wrappers.size
  · rw [if_pos h, if_pos h]
    rfl
  · rw [if_neg h, if_neg h]

theorem slot_enrol (pool : Pool σ) (v : WrapperId) (conn : ConnId) (env : Environment σ) :
    (pool.enrol conn env).slot v = if v = pool.wrappers.size then some conn else pool.slot v := by
  simp only [slot, enrol, wrappers_push]
  by_cases h : v = pool.wrappers.size
  · rw [if_pos h, if_pos h]
    rfl
  · rw [if_neg h, if_neg h]

theorem isValid_enrol (pool : Pool σ) (v : WrapperId) (conn : ConnId) (env : Environment σ) :
    (pool.enrol conn env).isValid v = true ↔
      v = pool.wrappers.size ∨ pool.isValid v = true := by
  simp only [isValid, enrol, wrappers_push]
  by_cases h : v = pool.wrappers.size
  · simp [h, Wrapper.fresh]
  · simp [h]

theorem realId_enrol (pool : Pool σ) (v : WrapperId) (conn : ConnId) (env : Environment σ) :
    (pool.enrol conn env).realId v =
      if v = pool.wrappers.size then pool.lastRealId + 1 else pool.realId v := by
  simp only [realId, enrol, wrappers_push]
  by_cases h : v = pool.wrappers.size
  · rw [if_pos h, if_pos h]
    rfl
  · rw [if_neg h, if_neg h]

/-- A valid wrapper with the connection that it holds. -/
structure Holds (pool : Pool σ) (w : WrapperId) (wrapper : Wrapper) (conn : ConnId) : Prop where
  found : pool.wrappers[w]? = some wrapper
  valid : wrapper.valid = true
  held : wrapper.slot = some conn

namespace Holds

variable {pool : Pool σ} {w : WrapperId} {wrapper : Wrapper} {conn : ConnId}
  (holds : pool.Holds w wrapper conn)

include holds

theorem slot : pool.slot w = some conn := by
  simp [Pool.slot, holds.found, holds.held]

theorem reach : pool.reach w = some conn := by
  simp [Pool.reach, holds.found, Wrapper.reach, holds.valid, holds.held]

theorem isValid : pool.isValid w = true := by
  simp [Pool.isValid, holds.found, holds.valid]

theorem realId : pool.realId w = wrapper.realId := by
  simp [Pool.realId, holds.found]

/-- Work with the connection is done where the pool stands. -/
theorem withConnection {α : Type} (work : ConnId → Exchange σ α) :
    pool.withConnection w work =
      (((work conn).perform pool.env).1,
        { pool with env := ((work conn).perform pool.env).2 }) := by
  simp only [Pool.withConnection, holds.reach]

/-- Ending the connection spends the wrapper. -/
theorem dispose (ending : ConnId → Exchange σ Unit) (complaint : ConnectionError → Event) :
    pool.dispose w ending complaint =
      pool.spend w (((ending conn).orComplain complaint).perform pool.env).2 := by
  have slot := holds.slot
  unfold Pool.slot at slot
  simp only [Pool.dispose, invalidate, slot]
  rfl

/-- The connection moves into the next wrapper. -/
theorem rewrap : pool.rewrap w = (some pool.wrappers.size, pool.renew w wrapper conn) := by
  simp only [Pool.rewrap, holds.found, invalidate, Option.bind_some, holds.held]
  simp only [wrap, renew, size_alter]

/-- Talking to the driver leaves the wrapper as it is. -/
theorem talk (env : Environment σ) : Holds { pool with env := env } w wrapper conn :=
  ⟨holds.found, holds.valid, holds.held⟩

/-- Whoever holds a connection after the move stands for one who held it before. -/
theorem exists_slot_of_renew {v : WrapperId} {other : ConnId}
    (h : (pool.renew w wrapper conn).slot v = some other) :
    ∃ u, pool.slot u = some other ∧ (v = pool.wrappers.size ∧ u = w ∨ v ≠ w ∧ u = v) := by
  rw [slot_renew] at h
  split at h
  · cases h
    exact ⟨w, holds.slot, .inl ⟨‹_›, rfl⟩⟩
  · rw [slot_spend] at h
    split at h
    · cases h
    · exact ⟨v, h, .inr ⟨Ne.symm ‹_›, rfl⟩⟩

/-- Whoever is valid after the move stands for one of the same name who was valid
before. -/
theorem exists_isValid_of_renew {v : WrapperId}
    (h : (pool.renew w wrapper conn).isValid v = true) :
    ∃ u, pool.isValid u = true ∧ (pool.renew w wrapper conn).realId v = pool.realId u ∧
      (v = pool.wrappers.size ∧ u = w ∨ v ≠ w ∧ u = v) := by
  rw [isValid_renew] at h
  rw [realId_renew]
  rcases h with rfl | ⟨hv, different⟩
  · exact ⟨w, holds.isValid, by rw [if_pos rfl, holds.realId], .inl ⟨rfl, rfl⟩⟩
  · refine ⟨v, hv, ?_, .inr ⟨different, rfl⟩⟩
    rw [if_neg (Nat.ne_of_lt (lt_size_of_isValid hv))]

end Holds

/-! ## Wrappers and connections -/

/-- Some wrapper holds the connection. -/
def IsHeld (pool : Pool σ) (conn : ConnId) : Prop :=
  ∃ w, pool.slot w = some conn

/-- The wrappers of a pool agree with each other and with the journal. -/
structure Coherent (pool : Pool σ) : Prop where
  /-- A wrapper is valid exactly as long as it holds a connection. -/
  valid_iff_slot : ∀ {w : WrapperId} {wrapper : Wrapper},
    pool.wrappers[w]? = some wrapper → (wrapper.valid = true ↔ wrapper.slot.isSome = true)
  /-- No connection is held twice. -/
  slot_inj : ∀ {v w conn}, pool.slot v = some conn → pool.slot w = some conn → v = w
  /-- No two valid wrappers carry the same name. -/
  realId_inj : ∀ {v w}, pool.isValid v = true → pool.isValid w = true →
    pool.realId v = pool.realId w → v = w
  /-- Every name was given out. -/
  realId_le : ∀ w, pool.realId w ≤ pool.lastRealId
  /-- The journal agrees with which connections are held. -/
  accounts : pool.env.Accounts pool.IsHeld

namespace Coherent

variable {pool : Pool σ}

/-- A valid wrapper holds a connection. -/
theorem exists_holds (coherent : pool.Coherent) {w : WrapperId} (h : pool.isValid w = true) :
    ∃ wrapper conn, pool.Holds w wrapper conn := by
  cases found : pool.wrappers[w]? with
  | none => simp [isValid, found] at h
  | some wrapper =>
    have valid : wrapper.valid = true := by simpa [isValid, found] using h
    obtain ⟨conn, held⟩ := Option.isSome_iff_exists.1 ((coherent.valid_iff_slot found).1 valid)
    exact ⟨wrapper, conn, found, valid, held⟩

theorem isValid_iff_slot (coherent : pool.Coherent) (w : WrapperId) :
    pool.isValid w = true ↔ ∃ conn, pool.slot w = some conn := by
  constructor
  · intro h
    obtain ⟨wrapper, conn, holds⟩ := coherent.exists_holds h
    exact ⟨conn, holds.slot⟩
  · rintro ⟨conn, hconn⟩
    obtain ⟨wrapper, found, hslot⟩ := Option.bind_eq_some_iff.1 hconn
    have := (coherent.valid_iff_slot found).2 (by simp [hslot])
    simp [isValid, found, this]

/-- A wrapper that holds a connection exists. -/
theorem lt_size_of_slot (coherent : pool.Coherent) {w : WrapperId} {conn : ConnId}
    (h : pool.slot w = some conn) : w < pool.wrappers.size :=
  lt_size_of_isValid ((coherent.isValid_iff_slot w).2 ⟨conn, h⟩)

/-- What the driver does beside the wrappers keeps the pool coherent as long as it
keeps the account. -/
theorem environment (coherent : pool.Coherent) {env : Environment σ}
    (accounts : env.Accounts pool.IsHeld) : Coherent { pool with env := env } :=
  ⟨coherent.valid_iff_slot, coherent.slot_inj, coherent.realId_inj, coherent.realId_le, accounts⟩

/-- Talking to the driver does not concern the wrappers. -/
theorem talk (coherent : pool.Coherent) {env : Environment σ} (talks : pool.env.Talks env) :
    Coherent { pool with env := env } :=
  coherent.environment (coherent.accounts.talk talks)

/-- What opening a connection leaves behind when it fails does not concern the
wrappers. -/
theorem refuse (coherent : pool.Coherent) {env : Environment σ}
    (refuses : pool.env.Refuses env) : Coherent { pool with env := env } :=
  coherent.environment (coherent.accounts.refuses refuses)

/-- A wrapper that loses its connection was the only one to hold it. -/
theorem isHeld_spend (coherent : pool.Coherent) {w : WrapperId} {conn : ConnId}
    (held : pool.slot w = some conn) (env : Environment σ) (other : ConnId) :
    (pool.spend w env).IsHeld other ↔ pool.IsHeld other ∧ other ≠ conn := by
  constructor
  · rintro ⟨v, h⟩
    rw [slot_spend] at h
    split at h
    · cases h
    · refine ⟨⟨v, h⟩, ?_⟩
      rintro rfl
      exact absurd (coherent.slot_inj held h) ‹w ≠ v›
  · rintro ⟨⟨v, h⟩, different⟩
    refine ⟨v, ?_⟩
    rw [slot_spend, if_neg ?_, h]
    rintro rfl
    exact different (Option.some.inj (h.symm.trans held))

/-- A wrapper loses its connection when the pool closes that connection. -/
theorem spend (coherent : pool.Coherent) {w : WrapperId} {conn : ConnId}
    (held : pool.slot w = some conn) {env : Environment σ} (shuts : pool.env.Shuts conn env) :
    (pool.spend w env).Coherent where
  valid_iff_slot {v wrapper} found := by
    simp only [Pool.spend, wrappers_alter] at found
    by_cases h : w = v
    · rw [if_pos h, Option.map_eq_some_iff] at found
      obtain ⟨_, -, rfl⟩ := found
      simp [Wrapper.spent]
    · rw [if_neg h] at found
      exact coherent.valid_iff_slot found
  slot_inj {u v other} hu hv := by
    rw [slot_spend] at hu hv
    split at hu
    · cases hu
    · split at hv
      · cases hv
      · exact coherent.slot_inj hu hv
  realId_inj {u v} hu hv same := by
    rw [isValid_spend] at hu hv
    rw [realId_spend, realId_spend] at same
    exact coherent.realId_inj hu.1 hv.1 same
  realId_le v := by
    rw [realId_spend]
    exact coherent.realId_le v
  accounts :=
    (coherent.accounts.shuts ⟨w, held⟩ shuts).congr (coherent.isHeld_spend held env)

/-- Moving a connection into a new wrapper changes nothing about which are held. -/
theorem isHeld_renew (coherent : pool.Coherent) {w : WrapperId} {old : Wrapper} {conn : ConnId}
    (holds : pool.Holds w old conn) (other : ConnId) :
    (pool.renew w old conn).IsHeld other ↔ pool.IsHeld other := by
  constructor
  · rintro ⟨v, h⟩
    obtain ⟨u, hu, -⟩ := holds.exists_slot_of_renew h
    exact ⟨u, hu⟩
  · rintro ⟨v, h⟩
    by_cases moved : w = v
    · subst moved
      refine ⟨pool.wrappers.size, ?_⟩
      rw [slot_renew, if_pos rfl, ← holds.slot, h]
    · refine ⟨v, ?_⟩
      rw [slot_renew, if_neg (Nat.ne_of_lt (coherent.lt_size_of_slot h)), slot_spend,
        if_neg moved, h]

/-- A connection may move into a new wrapper. -/
theorem renew (coherent : pool.Coherent) {w : WrapperId} {old : Wrapper} {conn : ConnId}
    (holds : pool.Holds w old conn) :
    (pool.renew w old conn).Coherent where
  valid_iff_slot {v wrapper} found := by
    rw [wrappers_renew] at found
    split at found
    · cases found
      simp [Wrapper.renewed]
    · simp only [Pool.spend, wrappers_alter] at found
      split at found
      · obtain ⟨_, -, rfl⟩ := Option.map_eq_some_iff.1 found
        simp [Wrapper.spent]
      · exact coherent.valid_iff_slot found
  slot_inj {u v other} hu hv := by
    obtain ⟨u', hu', cu⟩ := holds.exists_slot_of_renew hu
    obtain ⟨v', hv', cv⟩ := holds.exists_slot_of_renew hv
    have same := coherent.slot_inj hu' hv'
    lia
  realId_inj {u v} hu hv same := by
    obtain ⟨u', hu', nu, cu⟩ := holds.exists_isValid_of_renew hu
    obtain ⟨v', hv', nv, cv⟩ := holds.exists_isValid_of_renew hv
    rw [nu, nv] at same
    have same := coherent.realId_inj hu' hv' same
    lia
  realId_le v := by
    rw [realId_renew]
    split
    · rw [← holds.realId]
      exact coherent.realId_le w
    · exact coherent.realId_le v
  accounts := Environment.Accounts.congr coherent.accounts (coherent.isHeld_renew holds)

/-- A new wrapper adds its connection to those that are held. -/
theorem isHeld_enrol (coherent : pool.Coherent) (conn : ConnId) (env : Environment σ)
    (other : ConnId) :
    (pool.enrol conn env).IsHeld other ↔ pool.IsHeld other ∨ other = conn := by
  constructor
  · rintro ⟨v, h⟩
    rw [slot_enrol] at h
    split at h
    · cases h
      exact .inr rfl
    · exact .inl ⟨v, h⟩
  · rintro (⟨v, h⟩ | rfl)
    · refine ⟨v, ?_⟩
      rw [slot_enrol, if_neg (Nat.ne_of_lt (coherent.lt_size_of_slot h)), h]
    · exact ⟨pool.wrappers.size, by rw [slot_enrol, if_pos rfl]⟩

/-- A connection that was opened gets a new name and a new wrapper. -/
theorem enrol (coherent : pool.Coherent) {env : Environment σ} (opens : pool.env.Opens env) :
    (pool.enrol pool.env.opened env).Coherent where
  valid_iff_slot {v wrapper} found := by
    simp only [Pool.enrol, wrappers_push] at found
    split at found
    · cases found
      simp [Wrapper.fresh]
    · exact coherent.valid_iff_slot found
  slot_inj {u v conn} hu hv := by
    have new : ¬ pool.IsHeld pool.env.opened :=
      fun held => absurd (coherent.accounts.held_lt held) (Nat.lt_irrefl _)
    rw [slot_enrol] at hu hv
    split at hu
    · split at hv
      · exact ‹u = _›.trans ‹v = _›.symm
      · cases hu
        exact absurd ⟨v, hv⟩ new
    · split at hv
      · cases hv
        exact absurd ⟨u, hu⟩ new
      · exact coherent.slot_inj hu hv
  realId_inj {u v} hu hv same := by
    rw [isValid_enrol] at hu hv
    rw [realId_enrol, realId_enrol] at same
    have hleU := coherent.realId_le u
    have hleV := coherent.realId_le v
    split at same
    · split at same
      · exact ‹u = _›.trans ‹v = _›.symm
      · omega
    · split at same
      · omega
      · exact coherent.realId_inj (hu.resolve_left ‹_›) (hv.resolve_left ‹_›) same
  realId_le v := by
    rw [realId_enrol]
    split
    · exact Nat.le_refl _
    · exact Nat.le_succ_of_le (coherent.realId_le v)
  accounts := (coherent.accounts.opens opens).congr (coherent.isHeld_enrol _ env)

/-- Which wrappers are listed, and what is counted, does not concern the wrappers. -/
theorem relist (coherent : pool.Coherent) (idle active : List WrapperId) (counters : Counters)
    (expected : Fingerprint) (closed : Bool) :
    Coherent { pool with
      idle := idle, active := active, counters := counters, expected := expected,
      closed := closed } :=
  ⟨coherent.valid_iff_slot, coherent.slot_inj, coherent.realId_inj, coherent.realId_le,
    coherent.accounts⟩

end Coherent

/-- A change of a wrapper that leaves its name, its validity and its connection as
they are. -/
structure KeepsHolding (update : Wrapper → Wrapper) : Prop where
  realId : ∀ wrapper, (update wrapper).realId = wrapper.realId
  valid : ∀ wrapper, (update wrapper).valid = wrapper.valid
  slot : ∀ wrapper, (update wrapper).slot = wrapper.slot

namespace KeepsHolding

variable {update : Wrapper → Wrapper} (keeps : KeepsHolding update) (pool : Pool σ)

include keeps

theorem slot_alter (w v : WrapperId) : (pool.alter w update).slot v = pool.slot v :=
  pool.bind_wrappers_alter w v keeps.slot

theorem isValid_alter (w v : WrapperId) :
    (pool.alter w update).isValid v = pool.isValid v :=
  congrArg (Option.getD · false) (pool.map_wrappers_alter w v keeps.valid)

theorem realId_alter (w v : WrapperId) :
    (pool.alter w update).realId v = pool.realId v :=
  congrArg (Option.getD · 0) (pool.map_wrappers_alter w v keeps.realId)

theorem coherent (h : pool.Coherent) (w : WrapperId) : (pool.alter w update).Coherent where
  valid_iff_slot {v wrapper} found := by
    rw [wrappers_alter] at found
    split at found
    · obtain ⟨old, hold, rfl⟩ := Option.map_eq_some_iff.1 found
      rw [keeps.valid, keeps.slot]
      exact h.valid_iff_slot hold
    · exact h.valid_iff_slot found
  slot_inj {u v conn} hu hv := by
    rw [keeps.slot_alter] at hu hv
    exact h.slot_inj hu hv
  realId_inj {u v} hu hv same := by
    rw [keeps.isValid_alter] at hu hv
    rw [keeps.realId_alter, keeps.realId_alter] at same
    exact h.realId_inj hu hv same
  realId_le v := by
    rw [keeps.realId_alter]
    exact h.realId_le v
  accounts := by
    apply Environment.Accounts.congr h.accounts
    intro conn
    simp only [IsHeld, keeps.slot_alter]

end KeepsHolding

theorem keepsHolding_checkedOut (code : Fingerprint) (now : Instant) :
    KeepsHolding (·.checkedOut code now) :=
  ⟨fun _ => rfl, fun _ => rfl, fun _ => rfl⟩

theorem keepsHolding_used (now : Instant) :
    KeepsHolding fun wrapper => { wrapper with lastUsedAt := now } :=
  ⟨fun _ => rfl, fun _ => rfl, fun _ => rfl⟩

theorem slot_touch (pool : Pool σ) (w v : WrapperId) : (pool.touch w).slot v = pool.slot v :=
  (keepsHolding_used pool.now).slot_alter pool w v

/-! ## Wrappers and lists -/

/-- The valid wrappers are the idle ones, the checked-out ones and those in hand,
and each of them stands in one place only. -/
structure Owns (inHand : List WrapperId) (pool : Pool σ) : Prop extends Coherent pool where
  nodup : (pool.idle ++ pool.active ++ inHand).Nodup
  isValid_iff : ∀ w, pool.isValid w = true ↔ w ∈ pool.idle ++ pool.active ++ inHand

namespace Owns

variable {pool : Pool σ} {inHand : List WrapperId} {w : WrapperId}

theorem talk (owns : pool.Owns inHand) {env : Environment σ} (talks : pool.env.Talks env) :
    Owns inHand { pool with env := env } :=
  ⟨owns.toCoherent.talk talks, owns.nodup, owns.isValid_iff⟩

theorem note (owns : pool.Owns inHand) (event : Event) : (pool.note event).Owns inHand :=
  owns.talk (Environment.talks_note event pool.env)

theorem refuse (owns : pool.Owns inHand) {env : Environment σ}
    (refuses : pool.env.Refuses env) : Owns inHand { pool with env := env } :=
  ⟨owns.toCoherent.refuse refuses, owns.nodup, owns.isValid_iff⟩

/-- Wrappers may move between the lists and the hand. -/
theorem relist (owns : pool.Owns inHand) {idle active inHand' : List WrapperId}
    {counters : Counters} {expected : Fingerprint} {closed : Bool}
    (h : (idle ++ active ++ inHand').Perm (pool.idle ++ pool.active ++ inHand)) :
    Owns inHand' { pool with
      idle := idle, active := active, counters := counters, expected := expected,
      closed := closed } :=
  ⟨owns.toCoherent.relist idle active counters expected closed, h.nodup_iff.2 owns.nodup,
    fun w => (owns.isValid_iff w).trans h.mem_iff.symm⟩

theorem count (owns : pool.Owns inHand) (update : Counters → Counters) :
    (pool.count update).Owns inHand :=
  owns.relist (.refl _)

theorem alter (owns : pool.Owns inHand) {update : Wrapper → Wrapper}
    (keeps : KeepsHolding update) (w : WrapperId) : (pool.alter w update).Owns inHand :=
  ⟨keeps.coherent pool owns.toCoherent w, owns.nodup,
    fun v => by rw [keeps.isValid_alter]; exact owns.isValid_iff v⟩

/-- A wrapper that holds a connection is in a list or in hand. -/
theorem mem_of_slot (owns : pool.Owns inHand) {v : WrapperId} {conn : ConnId}
    (h : pool.slot v = some conn) : v ∈ pool.idle ++ pool.active ++ inHand :=
  (owns.isValid_iff v).1 ((owns.toCoherent.isValid_iff_slot v).2 ⟨conn, h⟩)

/-- The first wrapper in hand is valid. -/
theorem isValid_hand (owns : pool.Owns (w :: inHand)) : pool.isValid w = true :=
  (owns.isValid_iff w).2 (by simp)

/-- The first wrapper in hand holds a connection. -/
theorem exists_holds_hand (owns : pool.Owns (w :: inHand)) :
    ∃ wrapper conn, pool.Holds w wrapper conn :=
  owns.toCoherent.exists_holds owns.isValid_hand

/-- The first wrapper in hand stands nowhere else. -/
theorem hand_fresh (owns : pool.Owns (w :: inHand)) :
    w ∉ pool.idle ++ pool.active ++ inHand ∧ (pool.idle ++ pool.active ++ inHand).Nodup := by
  have := owns.nodup
  rwa [List.perm_middle.nodup_iff, List.nodup_cons] at this

/-- A wrapper in hand that loses its connection is laid aside. -/
theorem spend (owns : pool.Owns (w :: inHand)) {conn : ConnId} (held : pool.slot w = some conn)
    {env : Environment σ} (shuts : pool.env.Shuts conn env) :
    (pool.spend w env).Owns inHand := by
  obtain ⟨fresh, nodup⟩ := owns.hand_fresh
  refine ⟨owns.toCoherent.spend held shuts, nodup, fun v => ?_⟩
  have before := owns.isValid_iff v
  rw [List.perm_middle.mem_iff, List.mem_cons] at before
  rw [isValid_spend, before]
  constructor
  · rintro ⟨h, different⟩
    exact h.resolve_left different
  · intro h
    exact ⟨.inr h, fun same => fresh (same ▸ h)⟩

/-- No listed wrapper has the number that the next one gets. -/
theorem size_not_mem (owns : pool.Owns inHand) :
    pool.wrappers.size ∉ pool.idle ++ pool.active ++ inHand := by
  intro h
  exact absurd (lt_size_of_isValid ((owns.isValid_iff _).2 h)) (Nat.lt_irrefl _)

/-- A wrapper in hand whose connection moves into a new one is exchanged for it. -/
theorem renew (owns : pool.Owns (w :: inHand)) {old : Wrapper} {conn : ConnId}
    (holds : pool.Holds w old conn) :
    (pool.renew w old conn).Owns (pool.wrappers.size :: inHand) := by
  obtain ⟨fresh, nodup⟩ := owns.hand_fresh
  have next : pool.wrappers.size ∉ pool.idle ++ pool.active ++ inHand := by
    intro h
    apply owns.size_not_mem
    rw [List.perm_middle.mem_iff]
    exact List.mem_cons_of_mem w h
  refine ⟨owns.toCoherent.renew holds, ?_, fun v => ?_⟩
  · rw [List.perm_middle.nodup_iff, List.nodup_cons]
    exact ⟨next, nodup⟩
  · have before := owns.isValid_iff v
    rw [List.perm_middle.mem_iff, List.mem_cons] at before ⊢
    rw [isValid_renew, before]
    constructor
    · rintro (h | ⟨h, different⟩)
      · exact .inl h
      · exact .inr (h.resolve_left different)
    · rintro (h | h)
      · exact .inl h
      · exact .inr ⟨.inr h, fun same => fresh (same ▸ h)⟩

/-- A connection that was opened is taken in hand. -/
theorem enrol (owns : pool.Owns inHand) {env : Environment σ} (opens : pool.env.Opens env) :
    (pool.enrol pool.env.opened env).Owns (pool.wrappers.size :: inHand) := by
  refine ⟨owns.toCoherent.enrol opens, ?_, fun v => ?_⟩
  · rw [List.perm_middle.nodup_iff, List.nodup_cons]
    exact ⟨owns.size_not_mem, owns.nodup⟩
  · rw [List.perm_middle.mem_iff, List.mem_cons, isValid_enrol, owns.isValid_iff]
    rfl

end Owns

end Pool

end ConnectionPooling
