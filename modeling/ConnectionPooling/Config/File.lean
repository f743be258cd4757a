/-
# Configuration files

What a configuration file says: how connections are opened, and under which
limits they are pooled. Everything but the url may be left out. A file is valid
if a pool can be built from it that can hand out connections and that does not
ping with a query that was never chosen.
-/

import ConnectionPooling.Pool.Policy
import ConnectionPooling.Text.Blank
import ConnectionPooling.Document.Value

namespace ConnectionPooling

open Document

/-- The part of a file that says how connections are opened. -/
structure SourceSection where
  url : String
  username : Option String := none
  password : Option String := none
  properties : Option Properties := none
  autoCommit : Option Bool := none
  isolation : Option Isolation := none
  networkTimeoutMillis : Option Nat := none
  deriving DecidableEq

/-- The part of a file that says how connections are pooled. Times are in
milliseconds. -/
structure PolicySection where
  maxActive : Option Nat := none
  maxIdle : Option Nat := none
  maxCheckoutMillis : Option Nat := none
  timeToWaitMillis : Option Nat := none
  tolerance : Option Nat := none
  pingEnabled : Option Bool := none
  pingQuery : Option String := none
  pingNotUsedForMillis : Option Nat := none
  deriving DecidableEq

/-- A configuration file. -/
structure PoolFile where
  source : SourceSection
  policy : Option PolicySection := none
  deriving DecidableEq

/-- The data source that a section describes. -/
def DataSource.ofSection (part : SourceSection) : DataSource where
  url := part.url
  who := { user := part.username, password := part.password }
  properties := part.properties.getD {}
  autoCommit := part.autoCommit
  isolation := part.isolation
  networkTimeout := part.networkTimeoutMillis.map Duration.ofMillis

/-- The policy that a section describes; what it leaves out is as in the default
policy. -/
def Policy.ofSection (part : PolicySection) : Policy :=
  let standard : Policy := {}
  { maxActive := part.maxActive.getD standard.maxActive
    maxIdle := part.maxIdle.getD standard.maxIdle
    maxCheckoutTime :=
      (part.maxCheckoutMillis.map Duration.ofMillis).getD standard.maxCheckoutTime
    timeToWait := (part.timeToWaitMillis.map Duration.ofMillis).getD standard.timeToWait
    tolerance := part.tolerance.getD standard.tolerance
    pingEnabled := part.pingEnabled.getD standard.pingEnabled
    pingQuery := part.pingQuery.getD standard.pingQuery
    pingNotUsedFor :=
      (part.pingNotUsedForMillis.map Duration.ofMillis).getD standard.pingNotUsedFor }

namespace PoolFile

/-- The policy of the pool that a file describes. -/
def effectivePolicy (file : PoolFile) : Policy :=
  (file.policy.map Policy.ofSection).getD {}

/-- The settings of the pool that a file describes. -/
def settings (file : PoolFile) : Settings where
  source := .ofSection file.source
  policy := file.effectivePolicy

/-- What makes a file invalid. -/
inductive Flaw
  | blankUrl
  /-- No connection may be checked out. -/
  | noActive
  /-- Pings are enabled without a query. -/
  | noPingQuery
  deriving DecidableEq

/-- The rule that a flaw breaks. -/
def Flaw.rule : Flaw → String
  | .blankUrl => "datasource.url must not be empty"
  | .noActive => "pool.max_active must be at least 1"
  | .noPingQuery => "pool.ping_enabled requires pool.ping_query"

/-- The text that a reader sees. -/
def Flaw.message (flaw : Flaw) : String :=
  "invalid config: " ++ flaw.rule

/-- The first flaw of a file. -/
def flaw? (file : PoolFile) : Option Flaw :=
  if Text.isBlank file.source.url then some .blankUrl
  else match file.policy with
    | none => none
    | some policy =>
        if policy.maxActive = some 0 then some .noActive
        else if policy.pingEnabled.getD false then
          let query := policy.pingQuery.getD placeholderPingQuery
          if Text.isBlank query || query = placeholderPingQuery then some .noPingQuery
          else none
        else none

end PoolFile

/-- The names of the fields in the part about opening. -/
def SourceSection.fieldNames : List String :=
  ["url", "username", "password", "properties", "auto_commit", "isolation",
    "network_timeout_ms"]

/-- The names of the fields in the part about pooling. -/
def PolicySection.fieldNames : List String :=
  ["max_active", "max_idle", "max_checkout_time_ms", "time_to_wait_ms",
    "local_bad_connection_tolerance", "ping_enabled", "ping_query", "ping_not_used_for_ms"]

/-- The names of the parts of a file. -/
def PoolFile.fieldNames : List String :=
  ["datasource", "pool"]

/-- Read the part about opening. -/
def SourceSection.ofValue? (style : Dialect) (value : Value) : Option SourceSection := do
  let field ← value.record? style fieldNames
  some {
    url := ← Value.required Value.text? (field "url")
    username := ← Value.optional Value.text? (field "username")
    password := ← Value.optional Value.text? (field "password")
    properties := ← Value.optional Value.properties? (field "properties")
    autoCommit := ← Value.optional Value.bool? (field "auto_commit")
    isolation := ← Value.optional (Value.isolation? style) (field "isolation")
    networkTimeoutMillis := ← Value.optional Value.word? (field "network_timeout_ms") }

/-- Read the part about pooling. -/
def PolicySection.ofValue? (style : Dialect) (value : Value) : Option PolicySection := do
  let field ← value.record? style fieldNames
  some {
    maxActive := ← Value.optional Value.word? (field "max_active")
    maxIdle := ← Value.optional Value.word? (field "max_idle")
    maxCheckoutMillis := ← Value.optional Value.word? (field "max_checkout_time_ms")
    timeToWaitMillis := ← Value.optional Value.word? (field "time_to_wait_ms")
    tolerance := ← Value.optional Value.word? (field "local_bad_connection_tolerance")
    pingEnabled := ← Value.optional Value.bool? (field "ping_enabled")
    pingQuery := ← Value.optional Value.text? (field "ping_query")
    pingNotUsedForMillis := ← Value.optional Value.word? (field "ping_not_used_for_ms") }

/-- Read a whole file. -/
def PoolFile.ofValue? (style : Dialect) (value : Value) : Option PoolFile := do
  let field ← value.record? style fieldNames
  some {
    source := ← Value.required (SourceSection.ofValue? style) (field "datasource")
    policy := ← Value.optional (PolicySection.ofValue? style) (field "pool") }

/-- Read a report on a pool's activity, in which nothing may be missing. -/
def Statistics.ofValue? (style : Dialect) (value : Value) : Option Statistics := do
  let field ← value.record? style []
  let figure := fun name => Value.required Value.word? (field name)
  some {
    requests := ← figure "request_count"
    requestMillis := ← figure "accumulated_request_time_ms"
    checkoutMillis := ← figure "accumulated_checkout_time_ms"
    waits := ← figure "had_to_wait_count"
    waitMillis := ← figure "accumulated_wait_time_ms"
    badConnections := ← figure "bad_connection_count"
    overdueClaims := ← figure "claimed_overdue_connection_count"
    overdueCheckoutMillis := ← figure "accumulated_checkout_time_of_overdue_connections_ms"
    averageRequestMillis := ← figure "average_request_time_ms"
    averageCheckoutMillis := ← figure "average_checkout_time_ms"
    averageWaitMillis := ← figure "average_wait_time_ms"
    averageOverdueMillis := ← figure "average_overdue_checkout_time_ms"
    idle := ← figure "idle_connections"
    active := ← figure "active_connections" }

end ConnectionPooling
