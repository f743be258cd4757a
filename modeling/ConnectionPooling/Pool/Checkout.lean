/-
# Checking connections out

How an acquisition gets a connection. A candidate is looked for in three places,
in this order: the idle queue, the data source if fewer connections are checked
out than allowed, and the oldest checkout if it is overdue. Where none of them
yields a candidate, the acquisition has to wait. A candidate that turns out to be
bad is closed and the search starts over, until more bad ones were found than
the policy tolerates.

Everything in this module happens without interruption by other callers.
-/

import ConnectionPooling.Pool.Check

namespace ConnectionPooling

/-- One caller's attempt to get a connection. -/
structure Acquisition where
  who : Credentials
  started : Instant
  /-- Whether the caller had to wait before. -/
  waited : Bool := false
  rejected : Nat := 0
  deriving DecidableEq

/-- What the search for a candidate comes to. -/
inductive Candidate
  /-- A connection that may be handed out if it is good. -/
  | ready (w : WrapperId)
  | mustWait

/-- How far an acquisition got before it let others work. -/
inductive Progress
  /-- The connection of this wrapper is the caller's. -/
  | granted (w : WrapperId)
  | failed (error : PoolError)
  | asleep (acquisition : Acquisition)

namespace Pool

variable {σ : Type} [Driver σ]

/-- Take the connection that has been idle longest. -/
def takeIdle (w : WrapperId) (rest : List WrapperId) (pool : Pool σ) :
    Except PoolError Candidate × Pool σ :=
  (.ok (.ready w), { pool with idle := rest }.note (.takenFromIdle (pool.realId w)))

/-- Open a connection under the given credentials. Only a connection that could
be opened and configured gets a name. -/
def openFresh (source : DataSource) (who : Credentials) (pool : Pool σ) :
    Except PoolError Candidate × Pool σ :=
  match (source.connect who).perform pool.env with
  | (.error error, env) => (.error (.connectFailure source.url error), { pool with env := env })
  | (.ok conn, env) =>
      let realId := pool.lastRealId + 1
      let pool := { pool with env := env, lastRealId := realId }
      let (w, pool) := pool.wrap (.fresh realId conn pool.now)
      (.ok (.ready w), pool.note (.opened realId pool.active.length))

/-- Claim the connection of the oldest checkout, which has lasted for
`checkedOut`. The caller who had it loses it. A failing rollback is only logged
here: the candidate is checked like any other before it is handed out. -/
def claim (w : WrapperId) (rest : List WrapperId) (checkedOut : Duration) (pool : Pool σ) :
    Except PoolError Candidate × Pool σ :=
  let realId := pool.realId w
  let pool := { pool with active := rest }.count fun c =>
    { c with
      overdueClaims := c.overdueClaims + 1
      overdueCheckoutTime := c.overdueCheckoutTime + checkedOut
      checkoutTime := c.checkoutTime + checkedOut }
  let (result, pool) := pool.withConnection w Exchange.rollbackIfNeeded
  let pool := match result with
    | .ok () => pool
    | .error error => pool.note (.claimRollbackFailed realId error)
  match pool.rewrap w with
  | (some fresh, pool) => (.ok (.ready fresh), pool.note (.overdueClaimed realId checkedOut))
  | (none, pool) => (.error (.exhausted (.nothingToClaim realId)), pool)

/-- Look for a candidate. -/
def nextCandidate (settings : Settings) (who : Credentials) (pool : Pool σ) :
    Except PoolError Candidate × Pool σ :=
  match pool.idle with
  | w :: rest => pool.takeIdle w rest
  | [] =>
      if pool.active.length < settings.policy.maxActive then
        pool.openFresh settings.source who
      else
        match pool.active with
        | [] => (.error (.exhausted (.noCapacity settings.policy.maxActive)), pool)
        | oldest :: rest =>
            let checkedOut := pool.checkoutTime oldest
            if checkedOut ≤ settings.policy.maxCheckoutTime then (.ok .mustWait, pool)
            else pool.claim oldest rest checkedOut

/-- Hand a good candidate out: it joins the checkouts as the youngest and carries
the fingerprint of the credentials that were asked for. -/
def handOut (code : Fingerprint) (started : Instant) (w : WrapperId) (pool : Pool σ) :
    Pool σ :=
  let now := pool.now
  let pool := pool.alter w (·.checkedOut code now)
  { pool with active := pool.active ++ [w] }.count fun c =>
    { c with requests := c.requests + 1, requestTime := c.requestTime + (now - started) }

/-- Hand a candidate out if it is good, or reject it. -/
def activate (settings : Settings) (acquisition : Acquisition) (w : WrapperId)
    (pool : Pool σ) : Except Rejection Unit × Pool σ :=
  match pool.vet settings.policy w with
  | (.ok (), pool) =>
      (.ok (), pool.handOut (settings.source.fingerprintFor acquisition.who)
        acquisition.started w)
  | (.error rejection, pool) =>
      (.error rejection, pool.countBad.note (.candidateRejected rejection))

/-- Go to sleep. An acquisition counts as waiting once, however often it
sleeps. -/
def fallAsleep (policy : Policy) (acquisition : Acquisition) (pool : Pool σ) :
    Progress × Pool σ :=
  let pool := if acquisition.waited then pool
    else pool.count fun c => { c with waits := c.waits + 1 }
  (.asleep { acquisition with waited := true }, pool.note (.waiting policy.timeToWait))

/-- Try candidates until one is good, none is left, or one more than `budget` of
them were rejected. -/
def attempt (settings : Settings) (acquisition : Acquisition) (budget : Nat)
    (pool : Pool σ) : Progress × Pool σ :=
  match pool.nextCandidate settings acquisition.who with
  | (.error error, pool) => (.failed error, pool)
  | (.ok .mustWait, pool) => pool.fallAsleep settings.policy acquisition
  | (.ok (.ready w), pool) =>
      match pool.activate settings acquisition w with
      | (.ok (), pool) => (.granted w, pool)
      | (.error rejection, pool) =>
          let rejected := acquisition.rejected + 1
          match budget with
          | 0 =>
              (.failed (.exhausted (.tooManyBad rejected rejection)),
                pool.note (.gaveUp rejected))
          | budget + 1 => attempt settings { acquisition with rejected := rejected } budget pool

/-- Work on an acquisition until it is finished or has to sleep. A closed pool
hands out nothing; a caller that had slept learns that its wait was
interrupted. -/
def acquire (settings : Settings) (acquisition : Acquisition) (pool : Pool σ) :
    Progress × Pool σ :=
  if pool.closed then
    (.failed (if acquisition.waited then .waitInterrupted else .closed), pool)
  else
    pool.attempt settings acquisition
      (settings.policy.badConnectionLimit - acquisition.rejected)

end Pool

end ConnectionPooling
