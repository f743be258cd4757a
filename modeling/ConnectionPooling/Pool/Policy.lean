/-
# Pool policy

The limits and thresholds that a pool works under.
-/

import ConnectionPooling.Time
import ConnectionPooling.Text.Shown
import ConnectionPooling.Text.Quoted
import ConnectionPooling.Connection.DataSource

namespace ConnectionPooling

/-- The ping query of a pool for which none was chosen. It is no query that a
database would run. -/
def placeholderPingQuery : String :=
  "NO PING QUERY SET"

/-- The limits and thresholds of a pool. A connection is active while it is checked
out, and idle while it waits for its next checkout. -/
structure Policy where
  maxActive : Nat := 10
  maxIdle : Nat := 5
  /-- How long a checkout may last before the connection can be claimed for
  another caller. -/
  maxCheckoutTime : Duration := .ofMillis 20000
  /-- How long one wait for a connection lasts before the caller looks again.
  Zero waits until it is notified. -/
  timeToWait : Duration := .ofMillis 20000
  /-- How many bad connections one acquisition tolerates beyond the number that
  may be idle. -/
  tolerance : Nat := 3
  pingEnabled : Bool := false
  pingQuery : String := placeholderPingQuery
  /-- A connection is pinged only if it was not used for longer than this. -/
  pingNotUsedFor : Duration := 0
  deriving DecidableEq

namespace Policy

/-- How many bad connections one acquisition may reject and still go on. Both
numbers are machine words, and so is their sum: one that does not fit wraps
around. -/
def badConnectionLimit (policy : Policy) : Nat :=
  (policy.maxIdle + policy.tolerance) % UInt64.size

/-- Wrapping around can only lower the limit. -/
theorem badConnectionLimit_le (policy : Policy) :
    policy.badConnectionLimit ≤ policy.maxIdle + policy.tolerance :=
  Nat.mod_le _ _

/-- The limit is the sum if that fits into a word. -/
theorem badConnectionLimit_of_fits {policy : Policy}
    (fits : policy.maxIdle + policy.tolerance < UInt64.size) :
    policy.badConnectionLimit = policy.maxIdle + policy.tolerance :=
  Nat.mod_eq_of_lt fits

example : ({ maxIdle := UInt64.size - 1, tolerance := 3 } : Policy).badConnectionLimit = 2 := by
  decide

/-- The policy as inspection shows it. -/
def shown (policy : Policy) : Text.Shown :=
  .record "PoolConfig"
    [("max_active", .ofNat policy.maxActive),
     ("max_idle", .ofNat policy.maxIdle),
     ("max_checkout_time", .word policy.maxCheckoutTime.render),
     ("time_to_wait", .word policy.timeToWait.render),
     ("local_bad_connection_tolerance", .ofNat policy.tolerance),
     ("ping_enabled", .ofBool policy.pingEnabled),
     ("ping_query", .word (Text.quoted policy.pingQuery)),
     ("ping_not_used_for", .word policy.pingNotUsedFor.render)]
    true

end Policy

/-- All that can be set about a pool. -/
structure Settings where
  source : DataSource
  policy : Policy
  deriving DecidableEq

/-- A change of one setting to a new value. -/
inductive Change
  | maxActive (count : Nat)
  | maxIdle (count : Nat)
  | maxCheckoutTime (time : Duration)
  | timeToWait (time : Duration)
  | tolerance (count : Nat)
  | pingEnabled (on : Bool)
  | pingQuery (query : String)
  | pingNotUsedFor (time : Duration)
  | url (target : String)
  | user (name : Option String)
  | password (secret : Option String)
  | properties (given : Properties)
  | autoCommit (on : Option Bool)
  | isolation (level : Option Isolation)
  | networkTimeout (time : Option Duration)
  deriving DecidableEq

namespace Change

/-- A change of the tolerance leaves connections alone. After any other change
the connections that exist may no longer be what the settings ask for. -/
def drains : Change → Bool
  | .tolerance _ => false
  | _ => true

/-- The settings after a change. -/
def apply (change : Change) (settings : Settings) : Settings :=
  let source := settings.source
  let policy := settings.policy
  match change with
  | .maxActive count => { settings with policy := { policy with maxActive := count } }
  | .maxIdle count => { settings with policy := { policy with maxIdle := count } }
  | .maxCheckoutTime time => { settings with policy := { policy with maxCheckoutTime := time } }
  | .timeToWait time => { settings with policy := { policy with timeToWait := time } }
  | .tolerance count => { settings with policy := { policy with tolerance := count } }
  | .pingEnabled on => { settings with policy := { policy with pingEnabled := on } }
  | .pingQuery query => { settings with policy := { policy with pingQuery := query } }
  | .pingNotUsedFor time => { settings with policy := { policy with pingNotUsedFor := time } }
  | .url target => { settings with source := { source with url := target } }
  | .user name => { settings with source := { source with who.user := name } }
  | .password secret => { settings with source := { source with who.password := secret } }
  | .properties given => { settings with source := { source with properties := given } }
  | .autoCommit on => { settings with source := { source with autoCommit := on } }
  | .isolation level => { settings with source := { source with isolation := level } }
  | .networkTimeout time => { settings with source := { source with networkTimeout := time } }

end Change

end ConnectionPooling
