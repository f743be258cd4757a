/-
# Exchanges with the driver

The surroundings in which a pool works: a clock, a database driver, and a
journal of everything that was asked of the driver and everything that was
logged, each with the time at which it was finished. An exchange is a piece of
work that talks to the driver and may fail. It can neither see nor change
anything of a pool.
-/

import ConnectionPooling.Connection.Request
import ConnectionPooling.Connection.Event

namespace ConnectionPooling

/-- On whose behalf an operation on a connection is made. -/
inductive Party
  /-- The pool or its data source. -/
  | pool
  /-- The caller that holds the connection. -/
  | holder
  deriving DecidableEq

/-- What the journal keeps. -/
inductive Entry
  /-- A try to open a connection, with the number that it got. -/
  | connect (request : ConnectRequest) (result : Except ConnectionError ConnId)
  /-- An operation on an open connection, with its answer. -/
  | call (party : Party) (conn : ConnId) (request : Request)
      (result : Except ConnectionError request.Reply)
  | event (event : Event)

/-- An entry of the journal with the time at which it was written. -/
structure Record where
  time : Instant
  entry : Entry

/-- What a pool works in. -/
structure Environment (σ : Type) where
  clock : Instant := 0
  driver : σ
  /-- How many connections were ever opened. -/
  opened : ConnId := 0
  /-- All that happened, the latest first. -/
  journal : List Record := []

/-- A piece of work that talks to the driver and may fail. -/
abbrev Exchange (σ α : Type) := ExceptT ConnectionError (StateM (Environment σ)) α

variable {σ α : Type}

/-- Add an entry to the journal. -/
def Environment.write (env : Environment σ) (entry : Entry) : Environment σ :=
  { env with journal := ⟨env.clock, entry⟩ :: env.journal }

namespace Exchange

/-- The outcome of an exchange and the surroundings after it. -/
def perform (work : Exchange σ α) (env : Environment σ) :
    Except ConnectionError α × Environment σ :=
  work env

/-- Write an event into the log. -/
def note (event : Event) : Exchange σ Unit :=
  modify fun env => env.write (.event event)

/-- Do the work and report how it went instead of failing. -/
def attempt (work : Exchange σ α) : Exchange σ (Except ConnectionError α) := fun env =>
  let (result, env) := work.perform env
  (.ok result, env)

variable [Driver σ]

/-- Try to open a connection. If the driver succeeds, the connection gets the
next number. -/
def connect (request : ConnectRequest) : Exchange σ ConnId := fun env =>
  let answer := Driver.connect env.driver env.opened request
  let env := { env with clock := env.clock + answer.elapsed, driver := answer.next }
  match answer.outcome with
  | .ok () =>
      (.ok env.opened,
        { env.write (.connect request (.ok env.opened)) with opened := env.opened + 1 })
  | .error error => (.error error, env.write (.connect request (.error error)))

/-- Try an operation on a connection on behalf of one party. -/
def call (party : Party) (conn : ConnId) (request : Request) :
    Exchange σ request.Reply := fun env =>
  let answer := Driver.call env.driver conn request
  let env := { env with clock := env.clock + answer.elapsed, driver := answer.next }
  (answer.outcome, env.write (.call party conn request answer.outcome))

/-- Try an operation on a connection on behalf of the pool. -/
def ask (conn : ConnId) (request : Request) : Exchange σ request.Reply :=
  call .pool conn request

/-- Undo whatever transaction may be open: unless the connection says that it
commits every statement by itself, roll it back. -/
def rollbackIfNeeded (conn : ConnId) : Exchange σ Unit := do
  let autoCommit ← ask conn .autoCommit
  if autoCommit then pure () else ask conn .rollback

/-- Roll back if needed and then close. The connection is closed even if the
first part fails; of two failures the first one is reported. -/
def shutDown (conn : ConnId) : Exchange σ Unit := do
  let rolledBack ← attempt (rollbackIfNeeded conn)
  let closed ← attempt (ask conn .close)
  match rolledBack with
  | .error error => throw error
  | .ok () => match closed with
    | .error error => throw error
    | .ok () => pure ()

/-- Do the work; if it fails, log that with `complaint` and go on. -/
def orComplain (work : Exchange σ Unit) (complaint : ConnectionError → Event) :
    Exchange σ Unit := do
  match ← attempt work with
  | .ok () => pure ()
  | .error error => note (complaint error)

end Exchange

end ConnectionPooling
