/-
# A pool and its callers

A pool is shared by any number of clones, and is used by callers of three kinds:
those who hold a handle on a checked-out connection, those who sleep until they
can get one, and those who change the pool as a whole. A world is the pool
together with all of them.

The operations here are single critical sections: each runs to its end before
any other caller does anything. Waking sleepers afterwards is a matter of its own.
-/

import ConnectionPooling.Pool.Checkout
import ConnectionPooling.Pool.Return

namespace ConnectionPooling

/-- The number of a handle. -/
abbrev HandleId := Nat

/-- The number of an acquisition, in the order in which they were started. -/
abbrev Ticket := Nat

/-- What has become of a handle. -/
inductive Stage
  /-- Its holder has it and has not closed it. -/
  | held
  /-- Its holder has it and has closed it. -/
  | closed
  | dropped
  deriving DecidableEq

/-- What a caller got from a successful acquisition. -/
structure Handle where
  wrapper : WrapperId
  stage : Stage := .held
  deriving DecidableEq

/-- An acquisition that sleeps. -/
structure Sleeper where
  ticket : Ticket
  acquisition : Acquisition
  since : Instant
  /-- When it wakes up by itself, if ever. -/
  deadline : Option Instant
  deriving DecidableEq

/-- Whom an operation on the pool notifies when it is done. -/
inductive Signal
  | none
  /-- The acquisition that has slept longest. -/
  | one
  | all
  deriving DecidableEq

/-- A pool with its settings and its callers. -/
structure World (σ : Type) where
  settings : Settings
  pool : Pool σ
  /-- The sleeping acquisitions, the one that fell asleep first in front. -/
  sleepers : List Sleeper := []
  /-- All handles ever handed out, by number. -/
  handles : Array Handle := #[]
  /-- How many owners share the pool. -/
  clones : Nat := 1
  nextTicket : Ticket := 0
  /-- The acquisitions that came to an end, the latest first. -/
  finished : List (Ticket × Except PoolError HandleId) := []

namespace World

variable {σ α : Type}

/-- A new pool with one owner, in which nothing has happened. -/
def start (settings : Settings) (driver : σ) : World σ where
  settings := settings
  pool := { env := { driver := driver }, expected := settings.source.fingerprint }

/-- Nobody can reach the pool any more: it has no owner, no handle is left, and
no acquisition is under way. -/
def isAbandoned (world : World σ) : Bool :=
  world.clones == 0 && world.sleepers.isEmpty &&
    world.handles.all fun handle => handle.stage == .dropped

/-- The physical connection that a handle stands or stood for. -/
def realId (world : World σ) (h : HandleId) : Nat :=
  match world.handles[h]? with
  | none => 0
  | some handle => world.pool.realId handle.wrapper

/-- Whether a handle still gives access to a connection. -/
def isValid (world : World σ) (h : HandleId) : Bool :=
  match world.handles[h]? with
  | none => false
  | some handle => handle.stage == .held && world.pool.isValid handle.wrapper

/-- How long the connection of a handle has been checked out. -/
def checkoutTime (world : World σ) (h : HandleId) : Duration :=
  match world.handles[h]? with
  | none => 0
  | some handle => world.pool.checkoutTime handle.wrapper

/-- How long ago the connection of a handle was opened. -/
def age (world : World σ) (h : HandleId) : Duration :=
  match world.handles[h]? with
  | none => 0
  | some handle => world.pool.age handle.wrapper

/-- A report on the pool's activity. -/
def statistics (world : World σ) : Statistics :=
  .ofCounters world.pool.counters world.pool.idle.length world.pool.active.length

/-- The pool as inspection shows it. -/
def shown (world : World σ) : Text.Shown :=
  .record "ConnectionPool"
    [("datasource", world.settings.source.shown),
     ("config", world.settings.policy.shown),
     ("idle", .ofNat world.pool.idle.length),
     ("active", .ofNat world.pool.active.length),
     ("closed", .ofBool world.pool.closed)]
    false

/-- A handle as inspection shows it. -/
def shownHandle (world : World σ) (h : HandleId) : Text.Shown :=
  .record "LogicalConnection"
    [("real_id", .ofNat (world.realId h)), ("valid", .ofBool (world.isValid h))] false

/-- Let time pass until `target`; a moment that is over already changes
nothing. -/
def advanceTo (target : Instant) (world : World σ) : World σ :=
  { world with pool.env.clock := max world.pool.now target }

variable [Driver σ]

/-- Close the remaining connections if the pool cannot be reached any more. -/
def tearDown (world : World σ) : World σ :=
  if world.isAbandoned && !(world.pool.idle.isEmpty && world.pool.active.isEmpty) then
    { world with pool := world.pool.forceCloseAll world.settings.source }
  else world

/-- Record how far an acquisition got: a granted one gets a handle, and a
sleeping one joins the end of the queue. -/
def record (ticket : Ticket) (progress : Progress) (world : World σ) : World σ :=
  match progress with
  | .granted w =>
      { world with
        handles := world.handles.push { wrapper := w }
        finished := (ticket, .ok world.handles.size) :: world.finished }
  | .failed error =>
      { world with finished := (ticket, .error error) :: world.finished }
  | .asleep acquisition =>
      let slice := world.settings.policy.timeToWait
      let now := world.pool.now
      let deadline := if slice = 0 then none else some (now + slice)
      { world with sleepers := world.sleepers ++ [⟨ticket, acquisition, now, deadline⟩] }

/-- Let a caller ask for a connection under the given credentials. -/
def acquire (who : Credentials) (world : World σ) : Ticket × World σ :=
  let ticket := world.nextTicket
  let (progress, pool) :=
    world.pool.acquire world.settings { who := who, started := world.pool.now }
  (ticket, { world with pool := pool, nextTicket := ticket + 1 }.record ticket progress)

/-- Let a caller ask for a connection under the default credentials, which are
read once and at the start. -/
def acquireDefault (world : World σ) : Ticket × World σ :=
  world.acquire world.settings.source.who

/-- Let an acquisition that has left the queue look for a connection again. The
time it slept is added to the pool's total. -/
def resume (sleeper : Sleeper) (world : World σ) : World σ :=
  let slept := world.pool.now - sleeper.since
  let pool := world.pool.count fun c => { c with waitTime := c.waitTime + slept }
  let (progress, pool) := pool.acquire world.settings sleeper.acquisition
  ({ world with pool := pool }.record sleeper.ticket progress).tearDown

/-- Wake the sleeper at one place of the queue. -/
def wakeAt (place : Nat) (world : World σ) : World σ :=
  match world.sleepers[place]? with
  | none => world
  | some sleeper =>
      { world with sleepers := world.sleepers.eraseIdx place }.resume sleeper

/-- Work with the physical connection behind a handle. The connection counts as
used, whatever the work comes to. A handle that was given back reaches nothing. -/
def withConnection (h : HandleId) (work : ConnId → Exchange σ α) (world : World σ) :
    Except ConnectionError α × World σ :=
  match world.handles[h]? with
  | none => (.error (.invalidated 0), world)
  | some handle =>
      if handle.stage = .held then
        let (result, pool) := world.pool.withConnection handle.wrapper work
        (result, { world with pool := pool.touch handle.wrapper })
      else (.error (.invalidated (world.pool.realId handle.wrapper)), world)

/-- Give a handle back, and put it into its new stage. Only the first time does
this concern the pool, which then notifies one sleeper. -/
def giveBack (h : HandleId) (stage : Stage) (world : World σ) : Signal × World σ :=
  match world.handles[h]? with
  | none => (.none, world)
  | some handle =>
      let handles := world.handles.modify h ({ · with stage := stage })
      if handle.stage = .held then
        (.one,
          { world with
            handles := handles
            pool := world.pool.release world.settings.policy handle.wrapper })
      else (.none, { world with handles := handles })

/-- Close a handle. It remains with its holder but is of no further use. -/
def close (h : HandleId) (world : World σ) : Signal × World σ :=
  world.giveBack h .closed

/-- Drop a handle. If nobody is left who could use the pool, that ends it. -/
def drop (h : HandleId) (world : World σ) : Signal × World σ :=
  let (signal, world) := world.giveBack h .dropped
  (signal, world.tearDown)

/-- Use a handle like a connection. Closing it gives it back, and a handle that
was given back says that it is closed; anything else is asked of the physical
connection. -/
def request (h : HandleId) (request : Request) (world : World σ) :
    Except ConnectionError request.Reply × Signal × World σ :=
  match request with
  | .close =>
      let (signal, world) := world.close h
      (.ok (), signal, world)
  | .isClosed =>
      if world.handles[h]?.any fun handle => handle.stage != .held then (.ok true, .none, world)
      else
        let (result, world) := world.withConnection h (Exchange.call .holder · .isClosed)
        (result, .none, world)
  | request =>
      let (result, world) := world.withConnection h (Exchange.call .holder · request)
      (result, .none, world)

/-- Run a statement directly on the physical connection of a handle. The outer
result says whether the connection could be reached at all. -/
def executeDirectly (h : HandleId) (sql : String) (world : World σ) :
    Except ConnectionError (Except ConnectionError Nat) × World σ :=
  world.withConnection h fun conn =>
    Exchange.attempt (Exchange.call .holder conn (.execute sql))

/-- Close every connection by force and notify everybody. -/
def forceCloseAll (world : World σ) : Signal × World σ :=
  (.all, { world with pool := world.pool.forceCloseAll world.settings.source })

/-- Close the pool for ever and notify everybody. -/
def shutDown (world : World σ) : Signal × World σ :=
  let pool := { world.pool with closed := true }.forceCloseAll world.settings.source
  (.all, { world with pool := pool.note .poolClosed })

/-- Change a setting. If the connections that exist may not fit the new settings,
they are all closed by force. -/
def reconfigure (change : Change) (world : World σ) : Signal × World σ :=
  let world := { world with settings := change.apply world.settings }
  if change.drains then world.forceCloseAll else (.none, world)

/-- Add an owner. -/
def addClone (world : World σ) : World σ :=
  { world with clones := world.clones + 1 }

/-- Remove an owner. If nobody is left who could use the pool, that ends it. -/
def dropClone (world : World σ) : World σ :=
  { world with clones := world.clones - 1 }.tearDown

end World

end ConnectionPooling
