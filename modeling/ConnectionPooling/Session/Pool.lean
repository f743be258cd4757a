/-
# Scripted use of a pool

A session uses a pool on a simulated driver, one step after another. Callers go
by names: a name stands for an acquisition while it is under way and for the
handle once there is one. After each step the callers that it notifies go on, and
then those whose deadline has come.
-/

import ConnectionPooling.World.Waking
import ConnectionPooling.Session.Transcript

namespace ConnectionPooling.Session

open ConnectionPooling

/-- What can be done with a pool through an owner; `clone` and `drop` add and remove
one. -/
inductive PoolStep
  | forceCloseAll
  | close
  | logStatistics
  | isClosed
  | statistics
  | display
  | policy
  | source
  /-- Ask for the fingerprint that a connection must carry to become idle. -/
  | expected
  /-- Inspect the pool, on one line or spread over several. -/
  | inspect (spread : Bool)
  | clone
  | drop
  | change (change : Change)

/-- What can be done with a handle. -/
inductive HandleStep
  | drop
  /-- Use the handle like a connection. -/
  | request (request : Request)
  /-- Run a statement directly on the physical connection. -/
  | executeDirectly (sql : String)
  | info
  | inspect (spread : Bool)

/-- One step of a session. -/
inductive Step
  /-- Ask for a connection, under given or under the default credentials. -/
  | acquire (name : String) (who : Option Credentials)
  | advance (time : Duration)
  /-- Change how new connections behave. -/
  | template (plan : Simulation.TemplatePlan)
  /-- Change how one connection behaves. -/
  | connection (conn : ConnId) (plan : Simulation.Plan)
  | pool (step : PoolStep)
  | handle (name : String) (step : HandleStep)

/-- What a step comes to. -/
inductive Reply
  | done
  | granted (realId : Nat)
  | waiting
  | truth (value : Bool)
  | number (value : Nat)
  | text (value : String)
  | poolError (error : PoolError)
  | connectionError (error : ConnectionError)
  /-- What came of a statement run directly on the physical connection. -/
  | direct (result : Except ConnectionError Nat)
  /-- The figures of a handle, with times in microseconds. -/
  | info (realId : Nat) (valid : Bool) (checkedOut age : Nat)
  | statistics (report : Statistics)
  | policy (policy : Policy)
  | source (source : DataSource)
  | fingerprint (code : Fingerprint)
  | events (events : List Event)
  | nameTaken
  | noPool
  | noHandle
  | noConnection

/-- What a name stands for: an acquisition that is under way, or a handle. -/
inductive Binding
  | pending (ticket : Ticket)
  | held (h : HandleId)
  deriving DecidableEq

/-- All that is seen of one step. -/
structure Report where
  reply : Reply
  /-- The report on the pool after the step, if the pool still has an owner. -/
  statistics : Option Statistics
  /-- What was asked of the driver and what was logged, in order. -/
  records : List Record
  /-- The acquisitions of earlier steps that came to an end, in the order in
  which they were started: the name, and the connection or the error. -/
  resumed : List (String × Except PoolError Nat)

end Session

/-- A pool on a simulated driver, with the names of its callers and what they stand
for. -/
structure Session where
  world : World Simulation.State
  names : List (String × Session.Binding) := []

namespace Session

/-- A session that begins with a new pool. -/
def start (settings : Settings) (plan : Simulation.TemplatePlan) : Session where
  world := .start settings (Simulation.State.followTemplate plan {})

/-- Change the simulated driver. -/
def withDriver (driver : Simulation.State) (session : Session) : Session :=
  { session with world.pool.env.driver := driver }

/-- The handle that a name stands for. -/
def handle? (session : Session) (name : String) : Option HandleId :=
  match session.names.lookup name with
  | some (.held h) => some h
  | _ => none

/-- Make a name free. -/
def forget (name : String) (session : Session) : Session :=
  { session with names := session.names.filter (·.1 ≠ name) }

/-- Answer a question and leave everything as it is. -/
def answer (reply : Reply) (session : Session) : Reply × Signal × Session :=
  (reply, .none, session)

/-- Do something with the pool. -/
def poolStep (step : PoolStep) (session : Session) : Reply × Signal × Session :=
  let world := session.world
  let act := fun (done : Signal × World Simulation.State) =>
    (Reply.done, done.1, { session with world := done.2 })
  match step with
  | .forceCloseAll => act world.forceCloseAll
  | .close => act world.shutDown
  | .change change => act (world.reconfigure change)
  | .clone => act (.none, world.addClone)
  | .drop => act (.none, world.dropClone)
  | .logStatistics => session.answer (.events [.reported world.statistics])
  | .isClosed => session.answer (.truth world.pool.closed)
  | .statistics => session.answer (.statistics world.statistics)
  | .display => session.answer (.text world.statistics.render)
  | .policy => session.answer (.policy world.settings.policy)
  | .source => session.answer (.source world.settings.source)
  | .expected => session.answer (.fingerprint world.pool.expected)
  | .inspect spread => session.answer (.text (world.shown.render spread))

/-- The reply that a request to a connection comes to. -/
def replyOf : (request : Request) → Except ConnectionError request.Reply → Reply
  | _, .error error => .connectionError error
  | .isClosed, .ok value => .truth value
  | .autoCommit, .ok value => .truth value
  | .execute _, .ok rows => .number rows
  | .setAutoCommit _, .ok () => .done
  | .setIsolation _, .ok () => .done
  | .setNetworkTimeout _, .ok () => .done
  | .probe _, .ok () => .done
  | .commit, .ok () => .done
  | .rollback, .ok () => .done
  | .close, .ok () => .done

/-- Do something with the handle that a name stands for. -/
def handleStep (name : String) (h : HandleId) (step : HandleStep) (session : Session) :
    Reply × Signal × Session :=
  let world := session.world
  match step with
  | .drop =>
      let (signal, world) := world.drop h
      (.done, signal, { session with world := world }.forget name)
  | .request request =>
      let (result, signal, world) := world.request h request
      (replyOf request result, signal, { session with world := world })
  | .executeDirectly sql =>
      let (result, world) := world.executeDirectly h sql
      let reply := match result with
        | .ok inner => Reply.direct inner
        | .error error => .connectionError error
      (reply, .none, { session with world := world })
  | .info =>
      session.answer (.info (world.realId h) (world.isValid h)
        (world.checkoutTime h).reportedMicros (world.age h).reportedMicros)
  | .inspect spread => session.answer (.text ((world.shownHandle h).render spread))

/-- Take the end of an acquisition to the name that stands for it. -/
def conclude (ended : Ticket × Except PoolError HandleId) (session : Session) : Session :=
  { session with
    names := session.names.filterMap fun entry =>
      if entry.2 = .pending ended.1 then
        match ended.2 with
        | .ok h => some (entry.1, .held h)
        | .error _ => none
      else some entry }

/-- The name that stands for an acquisition under way. -/
def nameOf (ticket : Ticket) (session : Session) : String :=
  ((session.names.find? fun entry => entry.2 = .pending ticket).map (·.1)).getD ""

/-- Ask for a connection under a name that is free. -/
def acquire (name : String) (who : Option Credentials) (session : Session) :
    Reply × Signal × Session :=
  let (ticket, world) := match who with
    | none => session.world.acquireDefault
    | some who => session.world.acquire who
  match world.finished with
  | (_, .ok h) :: _ =>
      (.granted (world.realId h), .none,
        { session with
          world := { world with finished := [] }
          names := (name, .held h) :: session.names })
  | (_, .error error) :: _ =>
      (.poolError error, .none, { session with world := { world with finished := [] } })
  | [] =>
      (.waiting, .none,
        { session with world := world, names := (name, .pending ticket) :: session.names })

/-- Carry out a step without waking anybody for it. -/
def carryOut (step : Step) (session : Session) : Reply × Signal × Session :=
  match step with
  | .acquire name who =>
      if (session.names.lookup name).isSome then session.answer .nameTaken
      else if session.world.clones = 0 then session.answer .noPool
      else session.acquire name who
  | .advance time => (.done, .none, { session with world := session.world.advance time })
  | .template plan =>
      (.done, .none,
        session.withDriver (session.world.pool.env.driver.followTemplate plan))
  | .connection conn plan =>
      match session.world.pool.env.driver.follow conn plan with
      | none => session.answer .noConnection
      | some driver => (.done, .none, session.withDriver driver)
  | .pool step =>
      if session.world.clones = 0 then session.answer .noPool else session.poolStep step
  | .handle name step =>
      match session.handle? name with
      | none => session.answer .noHandle
      | some h => session.handleStep name h step

/-- See to everything that follows from a step that was carried out, and report
on it. -/
def complete (before : Nat) (outcome : Reply × Signal × Session) : Report × Session :=
  let (reply, signal, session) := outcome
  let world := (session.world.notify signal).settle
  let ended := world.finished.mergeSort fun x y => x.1 ≤ y.1
  let resumed := ended.map fun (ticket, result) =>
    (session.nameOf ticket, result.map world.realId)
  let session := ended.foldl (fun session ended => session.conclude ended)
    { session with world := { world with finished := [] } }
  ({ reply := reply
     statistics := if world.clones = 0 then none else some world.statistics
     records := Simulation.recordsSince before world.pool.env
     resumed := resumed }, session)

/-- Carry out one step, let everybody go on who can, and report on it. -/
def step (step : Step) (session : Session) : Report × Session :=
  complete session.world.pool.env.journal.length (session.carryOut step)

/-- Report on a step that could not be understood: nothing is done, but callers
whose deadline has come go on as after any step. -/
def skip (session : Session) : Report × Session :=
  complete session.world.pool.env.journal.length (session.answer .done)

end Session

end ConnectionPooling
