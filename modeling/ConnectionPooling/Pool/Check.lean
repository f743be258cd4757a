/-
# Checking a connection

Whether the connection of a wrapper is still usable. A connection that says it
is closed never is. A connection that nobody used for longer than the policy
allows is pinged as well, and whatever transaction the ping left open is rolled
back. A connection that fails its check is closed at once, and its wrapper is of
no use any more.
-/

import ConnectionPooling.Pool.State

namespace ConnectionPooling

variable {σ : Type} [Driver σ]

namespace Exchange

/-- Run the ping query and undo what it may have begun. -/
def ping (realId : Nat) (query : String) (conn : ConnId) : Exchange σ Unit := do
  note (.pinging realId query)
  match ← attempt (ask conn (.probe query)) with
  | .error error => do
      note (.pingFailed realId query error)
      throw error
  | .ok () => do
      rollbackIfNeeded conn
      note (.pingPassed realId)

/-- Succeed if the connection is not closed and, where a query is given, answers
it. -/
def checkAlive (realId : Nat) (query : Option String) (conn : ConnId) :
    Exchange σ Unit := do
  if ← ask conn .isClosed then throw .closed
  else match query with
    | none => pure ()
    | some query => ping realId query conn

end Exchange

namespace Pool

/-- The query to ping a wrapper's connection with, if it is to be pinged: pings
must be enabled, and the connection must have been unused for strictly longer
than the policy's threshold. -/
def pingQuery (policy : Policy) (w : WrapperId) (pool : Pool σ) : Option String :=
  if policy.pingEnabled = true ∧ policy.pingNotUsedFor < pool.unusedTime w then
    some policy.pingQuery
  else none

/-- Check the connection of a wrapper, and close it if it fails. -/
def check (policy : Policy) (w : WrapperId) (pool : Pool σ) :
    Except Rejection Unit × Pool σ :=
  let realId := pool.realId w
  match pool.withConnection w (Exchange.checkAlive realId (pool.pingQuery policy w)) with
  | (.ok (), pool) => (.ok (), pool)
  | (.error cause, pool) =>
      let pool := pool.dispose w (Exchange.ask · .close) (.badCloseFailed realId)
      (.error ⟨realId, cause⟩, pool.note (.foundBad realId cause))

/-- Check the connection of a wrapper and undo any open transaction. If either
fails, the connection is closed. -/
def vet (policy : Policy) (w : WrapperId) (pool : Pool σ) :
    Except Rejection Unit × Pool σ :=
  let realId := pool.realId w
  match pool.check policy w with
  | (.error rejection, pool) => (.error rejection, pool)
  | (.ok (), pool) =>
      match pool.withConnection w Exchange.rollbackIfNeeded with
      | (.ok (), pool) => (.ok (), pool)
      | (.error cause, pool) =>
          (.error ⟨realId, cause⟩,
            pool.dispose w (Exchange.ask · .close) (.discardCloseFailed realId))

end Pool

end ConnectionPooling
