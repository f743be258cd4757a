/-
# Log events

What the pool and its data source report while they work. An event is kept as
what happened, with exact figures; its level, its message and its fields are
functions of that.
-/

import ConnectionPooling.Statistics
import ConnectionPooling.Pool.Error

namespace ConnectionPooling

/-- Something worth a line in the log. -/
inductive Event
  | takenFromIdle (realId : Nat)
  /-- A connection was opened; the number counts the ones checked out. -/
  | opened (realId active : Nat)
  /-- An overdue connection could not be rolled back when it was claimed. -/
  | claimRollbackFailed (realId : Nat) (error : ConnectionError)
  | overdueClaimed (realId : Nat) (checkedOut : Duration)
  | configureFailed (url : String) (error : ConnectionError)
  /-- A connection that could not be configured could not be closed either. -/
  | unconfiguredCloseFailed (url : String) (error : ConnectionError)
  | candidateRejected (rejection : Rejection)
  | discardCloseFailed (realId : Nat) (error : ConnectionError)
  /-- The ping query is about to be run. -/
  | pinging (realId : Nat) (query : String)
  | pingFailed (realId : Nat) (query : String) (error : ConnectionError)
  /-- The ping query succeeded and left no transaction behind. -/
  | pingPassed (realId : Nat)
  | badCloseFailed (realId : Nat) (error : ConnectionError)
  | foundBad (realId : Nat) (error : ConnectionError)
  /-- A bad connection was given back and is not kept. -/
  | returnRefused (realId : Nat)
  /-- A connection was given back and is idle now; the number counts the idle
  ones. -/
  | returned (realId idle : Nat)
  | returnRollbackFailed (realId : Nat) (error : ConnectionError)
  | returnCloseFailed (realId : Nat) (error : ConnectionError)
  | returnClosed (realId : Nat)
  | forcedCloseFailed (realId : Nat) (error : ConnectionError)
  | forceClosed (active idle : Nat)
  /-- An acquisition goes to sleep for at most the given time. -/
  | waiting (slice : Duration)
  | gaveUp (bad : Nat)
  | poolClosed
  | reported (statistics : Statistics)
  deriving DecidableEq

namespace Event

/-- How important an event is. -/
inductive Level
  | debug | info | warning
  deriving DecidableEq

/-- What a field of an event holds. -/
inductive Field
  | number (value : Nat)
  | text (value : String)
  deriving DecidableEq

/-- A failure to tidy up is a warning, a step that concerns the whole pool is
information, and all else helps to find errors. -/
def level : Event → Level
  | unconfiguredCloseFailed .. | discardCloseFailed .. | pingFailed .. | badCloseFailed ..
  | returnRollbackFailed .. | returnCloseFailed .. | forcedCloseFailed .. => .warning
  | forceClosed .. | poolClosed | reported .. => .info
  | _ => .debug

/-- The message of an event. -/
def message : Event → String
  | takenFromIdle .. => "checked out connection from pool"
  | opened .. => "created connection"
  | claimRollbackFailed .. => "bad connection, could not roll back"
  | overdueClaimed .. => "claimed overdue connection"
  | configureFailed .. => "failed to configure new connection"
  | unconfiguredCloseFailed .. => "error while closing unconfigured connection"
  | candidateRejected .. =>
      "a bad connection was returned from the pool, getting another connection"
  | discardCloseFailed .. => "error while closing discarded connection"
  | pinging .. => "testing connection"
  | pingFailed .. => "execution of ping query failed"
  | pingPassed .. => "connection is good"
  | badCloseFailed .. => "error while closing bad connection"
  | foundBad .. => "connection is bad"
  | returnRefused .. =>
      "a bad connection attempted to return to the pool, discarding connection"
  | returned .. => "returned connection to pool"
  | returnRollbackFailed .. => "rollback on return failed, closing connection"
  | returnCloseFailed .. => "error while closing returned connection"
  | returnClosed .. => "closed connection"
  | forcedCloseFailed .. => "error while force-closing connection"
  | forceClosed .. => "forcefully closed/removed all connections"
  | waiting .. => "waiting for connection"
  | gaveUp .. => "could not get a good connection to the database"
  | poolClosed => "connection pool closed"
  | reported .. => "pool statistics"

/-- The field that names a physical connection. -/
def idField (realId : Nat) : String × Field :=
  ("real_id", .number realId)

/-- The field that names an error. -/
def errorField (text : String) : String × Field :=
  ("error", .text text)

/-- The fields of an event beside its message. -/
def fields : Event → List (String × Field)
  | takenFromIdle id | pingPassed id | returnRefused id | returnClosed id => [idField id]
  | opened id active => [idField id, ("active", .number active)]
  | claimRollbackFailed id error | discardCloseFailed id error | badCloseFailed id error
  | foundBad id error | returnRollbackFailed id error | returnCloseFailed id error
  | forcedCloseFailed id error => [idField id, errorField error.message]
  | overdueClaimed id checkedOut =>
      [idField id, ("checkout_ms", .number checkedOut.reportedMillis)]
  | configureFailed url error | unconfiguredCloseFailed url error =>
      [("url", .text url), errorField error.message]
  | candidateRejected rejection =>
      [idField rejection.realId, errorField rejection.message]
  | pinging id query => [idField id, ("query", .text query)]
  | pingFailed id query error =>
      [idField id, ("query", .text query), errorField error.message]
  | returned id idle => [idField id, ("idle", .number idle)]
  | forceClosed active idle => [("active", .number active), ("idle", .number idle)]
  | waiting slice => [("wait_ms", .number slice.reportedMillis)]
  | gaveUp bad => [("bad", .number bad)]
  | poolClosed => []
  | reported s =>
      [("active", .number s.active), ("idle", .number s.idle),
       ("requests", .number s.requests),
       ("avg_request_ms", .number s.averageRequestMillis),
       ("avg_checkout_ms", .number s.averageCheckoutMillis),
       ("had_to_wait", .number s.waits), ("avg_wait_ms", .number s.averageWaitMillis),
       ("claimed_overdue", .number s.overdueClaims),
       ("bad_connections", .number s.badConnections)]

end Event

end ConnectionPooling
