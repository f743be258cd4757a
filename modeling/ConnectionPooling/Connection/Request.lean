/-
# Requests to a database driver

The operations that a physical connection offers, the answer that each of them
promises, and what is assumed of the driver that carries them out. Nothing is
assumed about when a driver succeeds: its answers may depend in any way on a
state of its own, and every answer takes some time.
-/

import ConnectionPooling.Time
import ConnectionPooling.Fingerprint
import ConnectionPooling.Properties
import ConnectionPooling.Connection.Isolation
import ConnectionPooling.Connection.Error

namespace ConnectionPooling

/-- The number of a physical connection: how many were opened before it. -/
abbrev ConnId := Nat

/-- What is needed to open a physical connection. -/
structure ConnectRequest where
  url : String
  who : Credentials
  /-- Further settings that only the driver reads. -/
  properties : Properties
  deriving DecidableEq

/-- An operation on an open physical connection. -/
inductive Request
  /-- Ask whether the connection already counts as closed. -/
  | isClosed
  /-- Ask whether every statement is committed by itself. -/
  | autoCommit
  | setAutoCommit (on : Bool)
  | setIsolation (level : Isolation)
  | setNetworkTimeout (timeout : Duration)
  /-- Run a statement. -/
  | execute (sql : String)
  /-- Run a query only to see whether the connection is alive. -/
  | probe (query : String)
  | commit
  | rollback
  | close
  deriving DecidableEq

namespace Request

/-- The name of an operation. -/
def name : Request → String
  | .isClosed => "is_closed"
  | .autoCommit => "auto_commit"
  | .setAutoCommit _ => "set_auto_commit"
  | .setIsolation _ => "set_isolation"
  | .setNetworkTimeout _ => "set_network_timeout"
  | .execute _ => "execute"
  | .probe _ => "probe"
  | .commit => "commit"
  | .rollback => "rollback"
  | .close => "close"

/-- What a successful answer to a request holds: a truth value for the two
questions, the number of affected rows for a statement, and nothing else. -/
@[reducible]
def Reply : Request → Type
  | .isClosed => Bool
  | .autoCommit => Bool
  | .execute _ => Nat
  | _ => Unit

end Request

/-- How a driver answers: with an outcome, after some time, and in a new state. -/
structure Answer (σ α : Type) where
  outcome : Except ConnectionError α
  elapsed : Duration
  next : σ

/-- A database driver with states in `σ`. -/
class Driver (σ : Type) where
  /-- Try to open a connection, which is to have the given number. -/
  connect : σ → ConnId → ConnectRequest → Answer σ Unit
  /-- Try an operation on an open connection. -/
  call : σ → ConnId → (request : Request) → Answer σ request.Reply

end ConnectionPooling
