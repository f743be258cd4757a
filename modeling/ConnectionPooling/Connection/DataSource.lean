/-
# Data sources

Where connections come from: a url with default credentials, properties for the
driver, and the settings that every new connection gets before anyone uses it.
Opening is all or nothing. A connection that cannot be configured is closed
again, and the caller sees the error that configuring it met.
-/

import ConnectionPooling.Connection.Exchange
import ConnectionPooling.Text.Shown
import ConnectionPooling.Text.Quoted

namespace ConnectionPooling

/-- How connections are opened and configured. -/
structure DataSource where
  url : String
  /-- The user name and the password that are used when a caller gives none. -/
  who : Credentials := {}
  /-- Further settings that only the driver reads. -/
  properties : Properties := {}
  /-- Whether a new connection is to commit every statement by itself. -/
  autoCommit : Option Bool := none
  isolation : Option Isolation := none
  networkTimeout : Option Duration := none
  deriving DecidableEq

namespace DataSource

/-- The fingerprint of the data source's url with the given credentials. -/
def fingerprintFor (source : DataSource) (who : Credentials) : Fingerprint :=
  Fingerprint.of source.url who

/-- The fingerprint of the data source's url with its default credentials. -/
def fingerprint (source : DataSource) : Fingerprint :=
  source.fingerprintFor source.who

/-- The data source as inspection shows it. The password and what is only for
the driver are left out. -/
def shown (source : DataSource) : Text.Shown :=
  let text := fun value => Text.Shown.word (Text.quoted value)
  .record "DataSource"
    [("url", text source.url),
     ("username", .ofOption text source.who.user),
     ("default_auto_commit", .ofOption .ofBool source.autoCommit),
     ("default_isolation",
       .ofOption (fun level => .word level.shownName) source.isolation)]
    false

variable {σ : Type} [Driver σ]

/-- Give a connection the default network timeout, if there is one. -/
def applyNetworkTimeout (source : DataSource) (conn : ConnId) : Exchange σ Unit :=
  match source.networkTimeout with
  | none => pure ()
  | some timeout => Exchange.ask conn (.setNetworkTimeout timeout)

/-- Give a connection the default auto-commit mode, if there is one and the
connection is not in it already. -/
def applyAutoCommit (source : DataSource) (conn : ConnId) : Exchange σ Unit :=
  match source.autoCommit with
  | none => pure ()
  | some wanted => do
      let current ← Exchange.ask conn .autoCommit
      if current = wanted then pure () else Exchange.ask conn (.setAutoCommit wanted)

/-- Give a connection the default isolation level, if there is one. -/
def applyIsolation (source : DataSource) (conn : ConnId) : Exchange σ Unit :=
  match source.isolation with
  | none => pure ()
  | some level => Exchange.ask conn (.setIsolation level)

/-- Give a new connection all defaults; the first failure ends it. -/
def configure (source : DataSource) (conn : ConnId) : Exchange σ Unit := do
  source.applyNetworkTimeout conn
  source.applyAutoCommit conn
  source.applyIsolation conn

/-- Open a connection with the given credentials and configure it. If that
fails, the connection is closed before the error is passed on, and whatever
closing it meets is only logged. -/
def connect (source : DataSource) (who : Credentials) : Exchange σ ConnId := do
  let conn ← Exchange.connect ⟨source.url, who, source.properties⟩
  match ← Exchange.attempt (source.configure conn) with
  | .ok () => pure conn
  | .error error => do
      Exchange.note (.configureFailed source.url error)
      Exchange.orComplain (Exchange.ask conn .close) (.unconfiguredCloseFailed source.url)
      throw error

end DataSource

end ConnectionPooling
