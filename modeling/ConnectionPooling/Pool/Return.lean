/-
# Giving connections back

What happens to a connection when its holder gives it back, and when the pool
takes all connections away. A returned connection becomes idle only if it is
good, there is room, it was checked out under the credentials that are the
defaults today, and it holds no open transaction; in every other case it is
closed. Nothing here fails: what goes wrong is logged.
-/

import ConnectionPooling.Pool.State
import ConnectionPooling.Pool.Check

namespace ConnectionPooling.Pool

variable {σ : Type} [Driver σ]

/-- Close a returned connection for good. -/
def retire (w : WrapperId) (pool : Pool σ) : Pool σ :=
  let realId := pool.realId w
  (pool.dispose w Exchange.shutDown (.returnCloseFailed realId)).note (.returnClosed realId)

/-- Whether a returned connection may become idle: there is room, and it was
checked out under the credentials that are the defaults today. -/
def isReusable (policy : Policy) (w : WrapperId) (pool : Pool σ) : Bool :=
  decide (pool.idle.length < policy.maxIdle) && pool.fingerprint w == some pool.expected

/-- Make a returned connection idle. -/
def makeIdle (w : WrapperId) (pool : Pool σ) : Pool σ :=
  let realId := pool.realId w
  match pool.rewrap w with
  | (some fresh, pool) =>
      let pool := { pool with idle := pool.idle ++ [fresh] }
      pool.note (.returned realId pool.idle.length)
  | (none, pool) => pool.retire w

/-- Keep a good returned connection, or close it. -/
def putAway (policy : Policy) (w : WrapperId) (pool : Pool σ) : Pool σ :=
  if pool.isReusable policy w then
    match pool.withConnection w Exchange.rollbackIfNeeded with
    | (.ok (), pool) => pool.makeIdle w
    | (.error error, pool) =>
        (pool.note (.returnRollbackFailed (pool.realId w) error)).retire w
  else pool.retire w

/-- Refuse a bad connection that is given back. -/
def refuse (w : WrapperId) (pool : Pool σ) : Pool σ :=
  pool.countBad.note (.returnRefused (pool.realId w))

/-- Take back a connection from its holder. Its checkout time counts only if the
connection is still good. -/
def release (policy : Policy) (w : WrapperId) (pool : Pool σ) : Pool σ :=
  let pool := { pool with active := pool.active.erase w }
  if pool.isValid w then
    match pool.check policy w with
    | (.error _, pool) => pool.refuse w
    | (.ok (), pool) =>
        let checkedOut := pool.checkoutTime w
        (pool.count fun c => { c with checkoutTime := c.checkoutTime + checkedOut }).putAway
          policy w
  else pool.refuse w

/-- Close the connection of one listed wrapper by force. -/
def forceClose (pool : Pool σ) (w : WrapperId) : Pool σ :=
  pool.dispose w Exchange.shutDown (.forcedCloseFailed (pool.realId w))

/-- Close all connections by force, the checked-out ones first, and expect the
fingerprint of the data source as it is now. -/
def forceCloseAll (source : DataSource) (pool : Pool σ) : Pool σ :=
  let active := pool.active
  let idle := pool.idle
  let pool := { pool with expected := source.fingerprint, active := [], idle := [] }
  ((active ++ idle).foldl forceClose pool).note (.forceClosed active.length idle.length)

end ConnectionPooling.Pool
