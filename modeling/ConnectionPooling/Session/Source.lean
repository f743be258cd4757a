/-
# Scripted use of a data source

A session uses a data source on a simulated driver, one step after another, and
without a pool. Each connection that it opens is rolled back once, which shows
that it can be used.
-/

import ConnectionPooling.Connection.DataSource
import ConnectionPooling.Session.Transcript

namespace ConnectionPooling

/-- A data source on a simulated driver. -/
structure SourceSession where
  source : DataSource
  env : Environment Simulation.State

namespace SourceSession

/-- One step of a session. -/
inductive Step
  | credentials (user password : String)
  | properties (properties : Properties)
  | autoCommit (on : Bool)
  | isolation (level : Isolation)
  | networkTimeout (timeout : Duration)
  | fields
  /-- Ask for a fingerprint, with given or with the default credentials. -/
  | fingerprint (who : Option Credentials)
  /-- Open a connection, with given or with the default credentials. -/
  | connect (who : Option Credentials)
  /-- Change how new connections behave. -/
  | template (plan : Simulation.TemplatePlan)
  /-- Inspect the data source, on one line or spread over several. -/
  | inspect (spread : Bool)

/-- What a step comes to. -/
inductive Reply
  | done
  | source (source : DataSource)
  | fingerprint (code : Fingerprint)
  /-- A connection was opened, which inspection shows like this; the result is
  that of rolling it back. -/
  | opened (conn : String) (rolledBack : Except ConnectionError Unit)
  | connectionError (error : ConnectionError)
  | text (value : String)

/-- A session that begins with a data source and a driver that was not used
before. -/
def start (source : DataSource) (plan : Simulation.TemplatePlan) : SourceSession where
  source := source
  env := { driver := Simulation.State.followTemplate plan {} }

/-- Go on with a changed data source. -/
def become (source : DataSource) (session : SourceSession) : Reply × SourceSession :=
  (.source source, { session with source := source })

/-- Open a connection, and roll it back if there is one. -/
def connect (who : Credentials) (session : SourceSession) : Reply × SourceSession :=
  match (session.source.connect who).perform session.env with
  | (.error error, env) => (.connectionError error, { session with env := env })
  | (.ok conn, env) =>
      let (rolledBack, env) := (Exchange.call .holder conn .rollback).perform env
      (.opened (env.driver.shown conn).inline rolledBack, { session with env := env })

/-- Carry out one step. -/
def carryOut (step : Step) (session : SourceSession) : Reply × SourceSession :=
  let source := session.source
  match step with
  | .credentials user password => session.become { source with who := ⟨user, password⟩ }
  | .properties properties => session.become { source with properties := properties }
  | .autoCommit on => session.become { source with autoCommit := some on }
  | .isolation level => session.become { source with isolation := some level }
  | .networkTimeout timeout => session.become { source with networkTimeout := some timeout }
  | .fields => session.become source
  | .fingerprint who => (.fingerprint (source.fingerprintFor (who.getD source.who)), session)
  | .connect who => session.connect (who.getD source.who)
  | .template plan =>
      (.done, { session with env.driver := session.env.driver.followTemplate plan })
  | .inspect spread => (.text (source.shown.render spread), session)

/-- Carry out one step. Beside the reply, everything is returned that was asked
of the driver and that was logged, in order. -/
def step (step : Step) (session : SourceSession) : Reply × List Record × SourceSession :=
  let before := session.env.journal.length
  let (reply, session) := session.carryOut step
  (reply, Simulation.recordsSince before session.env, session)

end SourceSession

end ConnectionPooling
