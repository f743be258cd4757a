/-
# Statistics

The running totals that a pool keeps, and the read-only report made from them.
Totals of time are exact; the report cuts each to whole milliseconds, and an
average is the reported total divided by the number of things it belongs to.
-/

import ConnectionPooling.Time

namespace ConnectionPooling

/-- The running totals of a pool. -/
structure Counters where
  /-- The acquisitions that were granted a connection. -/
  requests : Nat := 0
  /-- The time granted acquisitions took, from call to return. -/
  requestTime : Duration := 0
  /-- The time connections were checked out, for the checkouts that ended with a
  good return or were ended because they were overdue. -/
  checkoutTime : Duration := 0
  /-- The checkouts that were ended because they were overdue. -/
  overdueClaims : Nat := 0
  /-- The part of the checkout time that belongs to overdue claims. -/
  overdueCheckoutTime : Duration := 0
  waits : Nat := 0
  waitTime : Duration := 0
  /-- The connections found bad on checkout or on return. -/
  badConnections : Nat := 0
  deriving DecidableEq

/-- A report on a pool's activity. It counts what the running totals count. All times
are in whole milliseconds. -/
structure Statistics where
  requests : Nat
  requestMillis : Nat
  checkoutMillis : Nat
  waits : Nat
  waitMillis : Nat
  badConnections : Nat
  overdueClaims : Nat
  overdueCheckoutMillis : Nat
  averageRequestMillis : Nat
  /-- The checkout time for one granted acquisition on average. -/
  averageCheckoutMillis : Nat
  averageWaitMillis : Nat
  averageOverdueMillis : Nat
  idle : Nat
  active : Nat
  deriving DecidableEq

namespace Statistics

/-- A total of time divided by a count, in reported milliseconds; zero when
there is nothing to divide by. -/
def average (total : Duration) (count : Nat) : Nat :=
  if count = 0 then 0 else total.reportedMillis / count

/-- The report made from the running totals and the numbers of idle and of
checked-out connections. -/
def ofCounters (c : Counters) (idle active : Nat) : Statistics where
  requests := c.requests
  requestMillis := c.requestTime.reportedMillis
  checkoutMillis := c.checkoutTime.reportedMillis
  waits := c.waits
  waitMillis := c.waitTime.reportedMillis
  badConnections := c.badConnections
  overdueClaims := c.overdueClaims
  overdueCheckoutMillis := c.overdueCheckoutTime.reportedMillis
  averageRequestMillis := average c.requestTime c.requests
  averageCheckoutMillis := average c.checkoutTime c.requests
  averageWaitMillis := average c.waitTime c.waits
  averageOverdueMillis := average c.overdueCheckoutTime c.overdueClaims
  idle := idle
  active := active

/-- The report of a pool in which nothing has happened. -/
def zero : Statistics :=
  ofCounters {} 0 0

/-- The report as text, one figure on a line. -/
def render (s : Statistics) : String :=
  "=== POOL STATUS ===\n" ++
  " active connections          " ++ toString s.active ++ "\n" ++
  " idle connections            " ++ toString s.idle ++ "\n" ++
  " request count               " ++ toString s.requests ++ "\n" ++
  " average request time        " ++ toString s.averageRequestMillis ++ "ms\n" ++
  " average checkout time       " ++ toString s.averageCheckoutMillis ++ "ms\n" ++
  " claimed overdue             " ++ toString s.overdueClaims ++ "\n" ++
  " average overdue checkout    " ++ toString s.averageOverdueMillis ++ "ms\n" ++
  " had to wait                 " ++ toString s.waits ++ "\n" ++
  " average wait time           " ++ toString s.averageWaitMillis ++ "ms\n" ++
  " bad connection count        " ++ toString s.badConnections

end Statistics

end ConnectionPooling
