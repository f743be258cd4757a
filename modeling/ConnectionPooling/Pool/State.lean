/-
# The state of a pool

A physical connection is always held by a wrapper. Whenever the pool moves a
connection from one caller to another it makes a new wrapper around the same
connection and takes the connection out of the old one, so that a caller who
still has the old wrapper can no longer reach the connection. Wrappers are
numbered and never forgotten: a handle may outlive the validity of its wrapper.

The idle queue and the list of checkouts hold wrapper numbers, the oldest first.
-/

import ConnectionPooling.Pool.Policy

namespace ConnectionPooling

/-- The number of a wrapper. -/
abbrev WrapperId := Nat

/-- What a pool knows about one holding of a physical connection. -/
structure Wrapper where
  /-- The name of the physical connection; it stays the same in every wrapper
  around that connection. -/
  realId : Nat
  valid : Bool
  /-- The physical connection, until it is taken away. -/
  slot : Option ConnId
  /-- When the physical connection was opened and configured. -/
  createdAt : Instant
  /-- When the connection was last used by a caller. -/
  lastUsedAt : Instant
  checkoutAt : Instant
  /-- The fingerprint of the credentials it was last checked out under. -/
  fingerprint : Option Fingerprint
  deriving DecidableEq

namespace Wrapper

/-- The wrapper of a connection that has just been opened. -/
def fresh (realId : Nat) (conn : ConnId) (now : Instant) : Wrapper where
  realId := realId
  valid := true
  slot := some conn
  createdAt := now
  lastUsedAt := now
  checkoutAt := now
  fingerprint := none

/-- The wrapper after its connection was taken away. -/
def spent (wrapper : Wrapper) : Wrapper :=
  { wrapper with valid := false, slot := none }

/-- A new wrapper around a connection that was taken out of this one. Times are
kept, the fingerprint is not. -/
def renewed (wrapper : Wrapper) (conn : ConnId) : Wrapper :=
  { wrapper with valid := true, slot := some conn, fingerprint := none }

/-- The wrapper after it was checked out. -/
def checkedOut (wrapper : Wrapper) (code : Fingerprint) (now : Instant) : Wrapper :=
  { wrapper with checkoutAt := now, lastUsedAt := now, fingerprint := some code }

/-- The connection that can be reached through a wrapper. -/
def reach (wrapper : Wrapper) : Option ConnId :=
  if wrapper.valid then wrapper.slot else none

end Wrapper

/-- A pool with the surroundings it works in. -/
structure Pool (σ : Type) where
  env : Environment σ
  /-- All wrappers ever made, by number. -/
  wrappers : Array Wrapper := #[]
  /-- The idle connections, the one that has been idle longest first. -/
  idle : List WrapperId := []
  /-- The checkouts, the oldest first. -/
  active : List WrapperId := []
  counters : Counters := {}
  /-- How many connections the pool has opened, which is the name that the last
  one got. -/
  lastRealId : Nat := 0
  /-- The fingerprint that a connection must carry to become idle. -/
  expected : Fingerprint
  closed : Bool := false

namespace Pool

variable {σ α : Type}

/-- The time. -/
def now (pool : Pool σ) : Instant :=
  pool.env.clock

/-- Write an event into the log. -/
def note (event : Event) (pool : Pool σ) : Pool σ :=
  { pool with env := pool.env.write (.event event) }

/-- Change the running totals. -/
def count (update : Counters → Counters) (pool : Pool σ) : Pool σ :=
  { pool with counters := update pool.counters }

/-- One more bad connection. -/
def countBad (pool : Pool σ) : Pool σ :=
  pool.count fun c => { c with badConnections := c.badConnections + 1 }

/-- The name of the physical connection of a wrapper. -/
def realId (pool : Pool σ) (w : WrapperId) : Nat :=
  (pool.wrappers[w]?.map Wrapper.realId).getD 0

/-- Whether a wrapper may be used. -/
def isValid (pool : Pool σ) (w : WrapperId) : Bool :=
  (pool.wrappers[w]?.map Wrapper.valid).getD false

/-- The connection that can be reached through a wrapper. -/
def reach (pool : Pool σ) (w : WrapperId) : Option ConnId :=
  pool.wrappers[w]?.bind Wrapper.reach

/-- The fingerprint that a wrapper carries. -/
def fingerprint (pool : Pool σ) (w : WrapperId) : Option Fingerprint :=
  pool.wrappers[w]?.bind Wrapper.fingerprint

/-- How long ago a moment in the life of a wrapper was. -/
def since (moment : Wrapper → Instant) (pool : Pool σ) (w : WrapperId) : Duration :=
  pool.now - (pool.wrappers[w]?.map moment).getD 0

/-- How long a wrapper has been checked out. -/
def checkoutTime (pool : Pool σ) (w : WrapperId) : Duration :=
  pool.since Wrapper.checkoutAt w

/-- How long the connection of a wrapper has not been used. -/
def unusedTime (pool : Pool σ) (w : WrapperId) : Duration :=
  pool.since Wrapper.lastUsedAt w

/-- How long ago the connection of a wrapper was opened. -/
def age (pool : Pool σ) (w : WrapperId) : Duration :=
  pool.since Wrapper.createdAt w

/-- Change one wrapper. -/
def alter (w : WrapperId) (update : Wrapper → Wrapper) (pool : Pool σ) : Pool σ :=
  { pool with wrappers := pool.wrappers.modify w update }

/-- Add a wrapper, which gets the next number. -/
def wrap (wrapper : Wrapper) (pool : Pool σ) : WrapperId × Pool σ :=
  (pool.wrappers.size, { pool with wrappers := pool.wrappers.push wrapper })

/-- Take the connection out of a wrapper, which is of no use from then on. -/
def invalidate (w : WrapperId) (pool : Pool σ) : Option ConnId × Pool σ :=
  (pool.wrappers[w]?.bind Wrapper.slot, pool.alter w Wrapper.spent)

/-- Move the connection of a wrapper into a new one. There is none if the
wrapper has no connection left. -/
def rewrap (w : WrapperId) (pool : Pool σ) : Option WrapperId × Pool σ :=
  match pool.wrappers[w]? with
  | none => (none, pool)
  | some old =>
      match pool.invalidate w with
      | (none, pool) => (none, pool)
      | (some conn, pool) =>
          let (fresh, pool) := pool.wrap (old.renewed conn)
          (some fresh, pool)

/-- Record that the connection of a wrapper is used now. -/
def touch (w : WrapperId) (pool : Pool σ) : Pool σ :=
  let now := pool.now
  pool.alter w fun wrapper => { wrapper with lastUsedAt := now }

/-- Work with the connection that can be reached through a wrapper. If there is
none, the work fails and nothing is asked of the driver. -/
def withConnection (w : WrapperId) (work : ConnId → Exchange σ α) (pool : Pool σ) :
    Except ConnectionError α × Pool σ :=
  match pool.reach w with
  | none => (.error (.invalidated (pool.realId w)), pool)
  | some conn =>
      let (result, env) := (work conn).perform pool.env
      (result, { pool with env := env })

/-- Take the connection out of a wrapper and end it; a failure to do so is
logged and nothing else. -/
def dispose (w : WrapperId) (ending : ConnId → Exchange σ Unit)
    (complaint : ConnectionError → Event) (pool : Pool σ) : Pool σ :=
  match pool.invalidate w with
  | (none, pool) => pool
  | (some conn, pool) =>
      { pool with env := ((ending conn).orComplain complaint |>.perform pool.env).2 }

end Pool

end ConnectionPooling
