/-
# A simulated database driver

A driver without a database. Each operation takes a time that was chosen before
and fails where a fault was planted; a connection remembers no more than whether
it is closed and whether it commits every statement by itself. The driver makes
every connection after a template.
-/

import ConnectionPooling.Connection.Request
import ConnectionPooling.Text.Shown

namespace ConnectionPooling.Simulation

/-- An operation that can be given a latency or a fault. -/
inductive Operation
  | connect
  | isClosed
  | autoCommit
  | setAutoCommit
  | setIsolation
  | setNetworkTimeout
  | execute
  /-- Running a query that tests the connection. -/
  | probe
  | commit
  | rollback
  | close
  deriving DecidableEq

namespace Operation

/-- All operations. -/
def all : List Operation :=
  [.connect, .isClosed, .autoCommit, .setAutoCommit, .setIsolation, .setNetworkTimeout,
    .execute, .probe, .commit, .rollback, .close]

/-- The name of an operation. -/
def name : Operation → String
  | .connect => "open"
  | .isClosed => "is_closed"
  | .autoCommit => "auto_commit"
  | .setAutoCommit => "set_auto_commit"
  | .setIsolation => "set_isolation"
  | .setNetworkTimeout => "set_network_timeout"
  | .execute => "execute"
  | .probe => "probe"
  | .commit => "commit"
  | .rollback => "rollback"
  | .close => "close"

/-- The operation with a given name. -/
def ofName? (name : String) : Option Operation :=
  all.find? fun operation => operation.name == name

/-- The operation that a request asks for. -/
def ofRequest : Request → Operation
  | .isClosed => .isClosed
  | .autoCommit => .autoCommit
  | .setAutoCommit _ => .setAutoCommit
  | .setIsolation _ => .setIsolation
  | .setNetworkTimeout _ => .setNetworkTimeout
  | .execute _ => .execute
  | .probe _ => .probe
  | .commit => .commit
  | .rollback => .rollback
  | .close => .close

end Operation

/-- A planted failure. -/
structure Fault where
  error : ConnectionError
  /-- How often it fails before the fault is gone; for ever if there is no
  number. -/
  times : Option Nat := none
  deriving DecidableEq

/-- How one connection behaves, or how new ones will. -/
structure Behaviour where
  /-- The planted failures, at most one for each operation. -/
  faults : List (Operation × Fault) := []
  /-- How long operations take; nothing if not given. -/
  latencies : List (Operation × Duration) := []
  /-- Whether the other side is gone. -/
  dead : Bool := false
  deriving DecidableEq

namespace Behaviour

/-- The fault planted for an operation. -/
def fault? (behaviour : Behaviour) (operation : Operation) : Option Fault :=
  behaviour.faults.lookup operation

/-- The time that an operation takes. -/
def latency (behaviour : Behaviour) (operation : Operation) : Duration :=
  (behaviour.latencies.lookup operation).getD 0

/-- Plant a fault for an operation in place of any other, or remove it. -/
def setFault (operation : Operation) (fault : Option Fault) (behaviour : Behaviour) :
    Behaviour :=
  let others := behaviour.faults.filter (·.1 ≠ operation)
  { behaviour with
    faults := match fault with
      | none => others
      | some fault => (operation, fault) :: others }

/-- Choose the time that an operation takes. -/
def setLatency (operation : Operation) (time : Duration) (behaviour : Behaviour) :
    Behaviour :=
  { behaviour with
    latencies := (operation, time) :: behaviour.latencies.filter (·.1 ≠ operation) }

/-- The behaviour after a fault has made an operation fail once more: a fault
that fails a number of times is gone after the last of them. -/
def useFault (operation : Operation) (fault : Fault) (behaviour : Behaviour) : Behaviour :=
  match fault.times with
  | none => behaviour
  | some times =>
      if times ≤ 1 then behaviour.setFault operation none
      else behaviour.setFault operation (some { fault with times := some (times - 1) })

/-- Meet the fault planted for an operation, if there is one. -/
def meetFault (operation : Operation) (behaviour : Behaviour) :
    Option ConnectionError × Behaviour :=
  match behaviour.fault? operation with
  | none => (none, behaviour)
  | some fault => (some fault.error, behaviour.useFault operation fault)

end Behaviour

/-- A change of behaviour. What is not named stays as it is. -/
structure Plan where
  /-- Faults to plant or to remove. -/
  faults : List (Operation × Option Fault) := []
  latencies : List (Operation × Duration) := []
  dead : Option Bool := none

/-- The behaviour after a change. -/
def Behaviour.follow (plan : Plan) (behaviour : Behaviour) : Behaviour :=
  let behaviour := plan.faults.foldl (fun b planted => b.setFault planted.1 planted.2) behaviour
  let behaviour := plan.latencies.foldl (fun b chosen => b.setLatency chosen.1 chosen.2) behaviour
  { behaviour with dead := plan.dead.getD behaviour.dead }

/-- A simulated connection. -/
structure Connection where
  behaviour : Behaviour
  autoCommit : Bool
  closed : Bool := false
  /-- Whether it has no network timeout of its own. Setting one then succeeds
  without its taking part. -/
  plain : Bool
  deriving DecidableEq

/-- The simulated driver with all connections that it has opened. -/
structure State where
  /-- How new connections will behave. -/
  template : Behaviour := {}
  manualCommit : Bool := false
  plain : Bool := false
  /-- The connections, by number. -/
  connections : Array Connection := #[]
  deriving DecidableEq

/-- A connection does what it is asked and answers. -/
def Connection.act (connection : Connection) :
    (request : Request) → request.Reply × Connection
  | .isClosed => (connection.behaviour.dead || connection.closed, connection)
  | .autoCommit => (connection.autoCommit, connection)
  | .setAutoCommit on => ((), { connection with autoCommit := on })
  | .setIsolation _ => ((), connection)
  | .setNetworkTimeout _ => ((), connection)
  | .execute sql => (sql.utf8ByteSize, connection)
  | .probe _ => ((), connection)
  | .commit => ((), connection)
  | .rollback => ((), connection)
  | .close => ((), connection)

/-- Whether a dead or closed connection refuses an operation before any planted
fault is met. Closing and asking whether it is closed are always possible. -/
def Connection.refuses (connection : Connection) (operation : Operation) : Bool :=
  (connection.behaviour.dead || connection.closed) &&
    operation ≠ .isClosed && operation ≠ .close

/-- A connection answers a request. -/
def Connection.answer (connection : Connection) (request : Request) :
    Except ConnectionError request.Reply × Connection :=
  let operation := Operation.ofRequest request
  if connection.refuses operation then (.error .closed, connection)
  else
    let connection :=
      { connection with closed := connection.closed || operation == Operation.close }
    match connection.behaviour.meetFault operation with
    | (some error, behaviour) =>
        (.error error, { connection with behaviour := behaviour })
    | (none, _) =>
        let (reply, connection) := connection.act request
        (.ok reply, connection)

/-- Whether a connection takes part in an operation. One without a network
timeout of its own has no part in setting it. -/
def Connection.takesPart (connection : Connection) : Request → Bool
  | .setNetworkTimeout _ => !connection.plain
  | _ => true

namespace State

/-- Whether a connection takes part in an operation. -/
def takesPart (state : State) (conn : ConnId) (request : Request) : Bool :=
  state.connections[conn]?.any (·.takesPart request)

/-- A connection as inspection shows it. -/
def shown (state : State) (conn : ConnId) : Text.Shown :=
  let own := Text.Shown.wrapped "SimConn" (.ofNat conn)
  if state.connections[conn]?.any (·.plain) then .wrapped "PlainConn" own else own

/-- Try to open a connection: it is made after the template, unless a fault is
planted for opening. -/
def connect (state : State) : Answer State Unit :=
  let elapsed := state.template.latency .connect
  match state.template.meetFault .connect with
  | (some error, template) =>
      ⟨.error error, elapsed, { state with template := template }⟩
  | (none, _) =>
      let connection : Connection :=
        { behaviour := state.template, autoCommit := !state.manualCommit, plain := state.plain }
      ⟨.ok (), elapsed, { state with connections := state.connections.push connection }⟩

/-- Try an operation on a connection. -/
def call (state : State) (conn : ConnId) (request : Request) : Answer State request.Reply :=
  match state.connections[conn]? with
  | none => ⟨.error .closed, 0, state⟩
  | some connection =>
      if connection.takesPart request then
        let elapsed := connection.behaviour.latency (.ofRequest request)
        let (outcome, connection) := connection.answer request
        ⟨outcome, elapsed,
          { state with connections := state.connections.modify conn fun _ => connection }⟩
      else
        ⟨.ok (connection.act request).1, 0, state⟩

instance : Driver State where
  connect state _ _ := state.connect
  call := call

end State

/-- A change of the driver as a whole. -/
structure TemplatePlan extends Plan where
  manualCommit : Option Bool := none
  plain : Option Bool := none

namespace State

/-- The driver after a change of the template. -/
def followTemplate (plan : TemplatePlan) (state : State) : State :=
  { state with
    template := state.template.follow plan.toPlan
    manualCommit := plan.manualCommit.getD state.manualCommit
    plain := plan.plain.getD state.plain }

/-- The driver after a change of one connection, if there is that connection. -/
def follow (conn : ConnId) (plan : Plan) (state : State) : Option State :=
  if conn < state.connections.size then
    some { state with
      connections := state.connections.modify conn fun connection =>
        { connection with behaviour := connection.behaviour.follow plan } }
  else none

end State

end ConnectionPooling.Simulation
