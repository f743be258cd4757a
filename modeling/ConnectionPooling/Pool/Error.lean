/-
# Errors of the pool

Why the pool could not hand out a connection. A candidate connection that fails
its checks is rejected; rejections are counted and only too many of them end an
acquisition.
-/

import ConnectionPooling.Connection.Error

namespace ConnectionPooling

/-- A candidate connection that was found unusable. -/
structure Rejection where
  realId : Nat
  cause : ConnectionError
  deriving DecidableEq

/-- Why a pool has no connection left to hand out. -/
inductive Exhaustion
  /-- The pool may not check out any connection at all. -/
  | noCapacity (maxActive : Nat)
  /-- An overdue checkout had lost its connection before it was claimed. -/
  | nothingToClaim (realId : Nat)
  /-- One acquisition rejected more candidates than it tolerates. -/
  | tooManyBad (count : Nat) (last : Rejection)
  | because (text : String)
  deriving DecidableEq

/-- Why an operation of the pool failed. -/
inductive PoolError
  | connectFailure (url : String) (source : ConnectionError)
  | badConnection (realId : Nat) (reason : String)
  | exhausted (reason : Exhaustion)
  /-- The pool was closed while the caller waited. -/
  | waitInterrupted
  | closed
  deriving DecidableEq

/-- The text of a rejection. -/
def Rejection.message (r : Rejection) : String :=
  "bad connection " ++ toString r.realId ++ ": " ++ r.cause.message

/-- The reason in words. -/
def Exhaustion.message : Exhaustion → String
  | .noCapacity maxActive =>
      "no capacity to hand out a connection (max_active = " ++ toString maxActive ++ ")"
  | .nothingToClaim realId =>
      "active connection " ++ toString realId ++ " had no physical connection to reclaim"
  | .tooManyBad count last =>
      "could not get a good connection to the database after " ++ toString count ++
        " bad connections (last: " ++ last.message ++ ")"
  | .because text => text

/-- The name of the kind of an error. -/
def PoolError.kindName : PoolError → String
  | .connectFailure .. => "ConnectFailure"
  | .badConnection .. => "BadConnection"
  | .exhausted _ => "PoolExhausted"
  | .waitInterrupted => "WaitInterrupted"
  | .closed => "Closed"

/-- The text that a reader sees. -/
def PoolError.message : PoolError → String
  | .connectFailure url source =>
      "failed to open connection to " ++ url ++ ": " ++ source.message
  | .badConnection realId reason => "bad connection " ++ toString realId ++ ": " ++ reason
  | .exhausted reason => "pool exhausted: " ++ reason.message
  | .waitInterrupted => "wait for a pooled connection was interrupted"
  | .closed => "connection pool is closed"

end ConnectionPooling
