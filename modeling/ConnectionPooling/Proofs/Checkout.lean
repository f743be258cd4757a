/-
# How an acquisition proceeds

`Acquires` takes an acquisition apart into its searches: each search yields a
candidate or ends the acquisition, and each candidate is good and handed out, or
bad and followed by another search. `Finds` lists the ways in which one search may
end, and `Checks` the two ways in which the check of a candidate may end.

The main statements are that every acquisition proceeds in this way, and that a
pool which owns its connections properly still does so afterwards, whatever the
driver answers.
-/

import ConnectionPooling.Proofs.Holding
import ConnectionPooling.Pool.Checkout

namespace ConnectionPooling

/-- The totals after a checkout that lasted for `checkedOut` was claimed. -/
def Counters.afterClaim (checkedOut : Duration) (counters : Counters) : Counters :=
  { counters with
    overdueClaims := counters.overdueClaims + 1
    overdueCheckoutTime := counters.overdueCheckoutTime + checkedOut
    checkoutTime := counters.checkoutTime + checkedOut }

/-- The wrapper that an acquisition got, if it got one. -/
def Progress.grant : Progress → List WrapperId
  | .granted w => [w]
  | _ => []

namespace Pool

variable {σ : Type}

/-! ## What is left of a pool -/

/-- From `before` to `after` both lists may have lost their oldest members, and
wrappers may have been added. The pool was not closed. -/
structure Draws (before after : Pool σ) : Prop where
  idle : after.idle <:+ before.idle
  active : after.active <:+ before.active
  size : before.wrappers.size ≤ after.wrappers.size
  closed : after.closed = before.closed

theorem Draws.refl (pool : Pool σ) : pool.Draws pool :=
  ⟨List.suffix_rfl, List.suffix_rfl, Nat.le_refl _, rfl⟩

theorem Draws.trans {before mid after : Pool σ} (first : before.Draws mid)
    (second : mid.Draws after) : before.Draws after :=
  ⟨second.idle.trans first.idle, second.active.trans first.active,
    Nat.le_trans first.size second.size, second.closed.trans first.closed⟩

theorem draws_note (event : Event) (pool : Pool σ) : pool.Draws (pool.note event) :=
  ⟨List.suffix_rfl, List.suffix_rfl, Nat.le_refl _, rfl⟩

theorem draws_count (update : Counters → Counters) (pool : Pool σ) :
    pool.Draws (pool.count update) :=
  ⟨List.suffix_rfl, List.suffix_rfl, Nat.le_refl _, rfl⟩

/-- What an acquisition leaves of a pool: it drew on the lists, and a wrapper that
was granted has joined the checkouts as the youngest. That wrapper was idle or is
new. -/
structure Leaves (before : Pool σ) (progress : Progress) (after : Pool σ) : Prop where
  idle : after.idle <:+ before.idle
  active : ∃ kept, kept <:+ before.active ∧ after.active = kept ++ progress.grant
  size : before.wrappers.size ≤ after.wrappers.size
  closed : after.closed = before.closed
  fresh : ∀ w ∈ progress.grant, w ∈ before.idle ∨ before.wrappers.size ≤ w

/-- Where nothing is granted, nothing joins the checkouts. -/
theorem Draws.leaves {before after : Pool σ} (draws : before.Draws after)
    {progress : Progress} (none : progress.grant = []) : before.Leaves progress after where
  idle := draws.idle
  active := ⟨after.active, draws.active, by rw [none, List.append_nil]⟩
  size := draws.size
  closed := draws.closed
  fresh := by simp [none]

theorem Leaves.draws {before after : Pool σ} {progress : Progress}
    (leaves : before.Leaves progress after) (none : progress.grant = []) :
    before.Draws after where
  idle := leaves.idle
  active := by
    obtain ⟨kept, suffix, active⟩ := leaves.active
    rwa [active, none, List.append_nil]
  size := leaves.size
  closed := leaves.closed

theorem Leaves.of_draws {before mid after : Pool σ} {progress : Progress}
    (draws : before.Draws mid) (leaves : mid.Leaves progress after) :
    before.Leaves progress after where
  idle := leaves.idle.trans draws.idle
  active := by
    obtain ⟨kept, suffix, active⟩ := leaves.active
    exact ⟨kept, suffix.trans draws.active, active⟩
  size := Nat.le_trans draws.size leaves.size
  closed := leaves.closed.trans draws.closed
  fresh w hw := by
    rcases leaves.fresh w hw with idle | new
    · exact .inl (draws.idle.subset idle)
    · exact .inr (Nat.le_trans draws.size new)

/-! ## Checking a candidate -/

/-- What a check of the wrapper `w` comes to: its connection is good and was only
talked to, or it is bad, was closed, and the wrapper has lost it. -/
inductive Checks (w : WrapperId) (pool : Pool σ) : Except Rejection Unit → Pool σ → Prop
  | good {env : Environment σ} (talks : pool.env.Talks env) :
      Checks w pool (.ok ()) { pool with env := env }
  | bad {env : Environment σ} {conn : ConnId} (rejection : Rejection)
      (held : pool.slot w = some conn) (shuts : pool.env.Shuts conn env) :
      Checks w pool (.error rejection) (pool.spend w env)

namespace Checks

variable {pool after : Pool σ} {w : WrapperId} {result : Except Rejection Unit}

theorem owns_good {inHand : List WrapperId} (checks : Checks w pool (.ok ()) after)
    (owns : pool.Owns inHand) : after.Owns inHand := by
  cases checks with
  | good talks => exact owns.talk talks

theorem owns_bad {inHand : List WrapperId} {rejection : Rejection}
    (checks : Checks w pool (.error rejection) after) (owns : pool.Owns (w :: inHand)) :
    after.Owns inHand := by
  cases checks with
  | bad _ held shuts => exact owns.spend held shuts

theorem idle (checks : Checks w pool result after) : after.idle = pool.idle := by
  cases checks <;> rfl

theorem active (checks : Checks w pool result after) : after.active = pool.active := by
  cases checks <;> rfl

/-- A check only draws on the pool: it moves no wrapper and makes none. -/
theorem draws (checks : Checks w pool result after) : pool.Draws after where
  idle := checks.idle ▸ List.suffix_rfl
  active := checks.active ▸ List.suffix_rfl
  size := by
    cases checks with
    | good => exact Nat.le_refl _
    | bad => exact Nat.le_of_eq (size_alter pool w _).symm
  closed := by cases checks <;> rfl

/-- A check asks for no new connection. -/
theorem connects (checks : Checks w pool result after) :
    after.env.connects = pool.env.connects := by
  cases checks with
  | good talks => exact talks.connects
  | bad _ _ shuts => exact shuts.connects

end Checks

variable [Driver σ]

theorem check_checks {pool : Pool σ} {w : WrapperId} {wrapper : Wrapper} {conn : ConnId}
    (policy : Policy) (holds : pool.Holds w wrapper conn) :
    Checks w pool (pool.check policy w).1 (pool.check policy w).2 := by
  have talks := Exchange.checkAlive_talks (pool.realId w) (pool.pingQuery policy w) conn pool.env
  unfold check
  dsimp only
  rw [holds.withConnection]
  cases run : (Exchange.checkAlive (pool.realId w) (pool.pingQuery policy w) conn).perform
      pool.env with
  | mk outcome env =>
    rw [run] at talks
    cases outcome with
    | ok _ => exact .good talks
    | error cause =>
      dsimp only
      rw [(holds.talk env).dispose]
      have shuts := (Exchange.ends_close conn).orComplain
        (.badCloseFailed (pool.realId w)) env
      exact .bad _ holds.slot (.of_talks talks (shuts.talks (Environment.talks_note _ _)))

theorem vet_checks {pool : Pool σ} {w : WrapperId} {wrapper : Wrapper} {conn : ConnId}
    (policy : Policy) (holds : pool.Holds w wrapper conn) :
    Checks w pool (pool.vet policy w).1 (pool.vet policy w).2 := by
  have checks := check_checks policy holds
  unfold vet
  dsimp only
  cases run : pool.check policy w with
  | mk outcome checked =>
    rw [run] at checks
    cases checks with
    | bad rejection held shuts => exact .bad rejection held shuts
    | @good env talks =>
      have undo := talks.trans (Exchange.rollbackIfNeeded_talks conn env)
      dsimp only
      rw [(holds.talk env).withConnection]
      cases back : (Exchange.rollbackIfNeeded conn).perform env with
      | mk outcome env' =>
        rw [back] at undo
        cases outcome with
        | ok _ => exact .good undo
        | error cause =>
          dsimp only
          rw [(holds.talk env').dispose]
          exact .bad _ holds.slot (.of_talks undo ((Exchange.ends_close conn).orComplain _ env'))

/-! ## Searching for a candidate -/

/-- What a search for a candidate comes to. -/
inductive Finds (settings : Settings) (who : Credentials) (pool : Pool σ) :
    Except PoolError Candidate → Pool σ → Prop
  /-- The connection that has been idle longest is taken. -/
  | idle {w : WrapperId} {rest : List WrapperId} (idle : pool.idle = w :: rest) :
      Finds settings who pool (.ok (.ready w))
        ({ pool with idle := rest }.note (.takenFromIdle (pool.realId w)))
  /-- None is idle and there is room for one more: it is opened. -/
  | opened {env : Environment σ} (idle : pool.idle = [])
      (room : pool.active.length < settings.policy.maxActive)
      (connect : (settings.source.connect who).perform pool.env = (.ok pool.env.opened, env))
      (opens : pool.env.Opens env) :
      Finds settings who pool (.ok (.ready pool.wrappers.size))
        ((pool.enrol pool.env.opened env).note
          (.opened (pool.lastRealId + 1) pool.active.length))
  /-- None is idle and there is room for one more, but it cannot be opened. -/
  | refused {env : Environment σ} {error : ConnectionError} (idle : pool.idle = [])
      (room : pool.active.length < settings.policy.maxActive)
      (connect : (settings.source.connect who).perform pool.env = (.error error, env))
      (refuses : pool.env.Refuses env) :
      Finds settings who pool (.error (.connectFailure settings.source.url error))
        { pool with env := env }
  /-- No connection may be checked out at all. -/
  | noCapacity (idle : pool.idle = []) (active : pool.active = [])
      (full : settings.policy.maxActive = 0) :
      Finds settings who pool (.error (.exhausted (.noCapacity settings.policy.maxActive))) pool
  /-- All are checked out, and the oldest checkout is not overdue. -/
  | mustWait {w : WrapperId} {rest : List WrapperId} (idle : pool.idle = [])
      (active : pool.active = w :: rest)
      (full : settings.policy.maxActive ≤ pool.active.length)
      (young : pool.checkoutTime w ≤ settings.policy.maxCheckoutTime) :
      Finds settings who pool (.ok .mustWait) pool
  /-- All are checked out, and the oldest checkout is overdue: it is claimed. -/
  | claimed {w : WrapperId} {rest : List WrapperId} {old : Wrapper} {conn : ConnId}
      {env : Environment σ} (idle : pool.idle = []) (active : pool.active = w :: rest)
      (full : settings.policy.maxActive ≤ pool.active.length)
      (overdue : settings.policy.maxCheckoutTime < pool.checkoutTime w)
      (holds : pool.Holds w old conn) (talks : pool.env.Talks env) :
      Finds settings who pool (.ok (.ready pool.wrappers.size))
        { pool.renew w old conn with
          active := rest
          counters := pool.counters.afterClaim (pool.checkoutTime w)
          env := env }

/-- The oldest checkout can be claimed from whoever has it. All that is written on
the way are lines in the log and what it takes to undo a transaction. -/
theorem claim_cases {P : Entry → Prop} {pool : Pool σ} {w : WrapperId} {old : Wrapper}
    {conn : ConnId} (log : ∀ event, P (.event event))
    (mode : ∀ result, P (.call .pool conn .autoCommit result))
    (back : ∀ result, P (.call .pool conn .rollback result)) (holds : pool.Holds w old conn)
    (rest : List WrapperId) (checkedOut : Duration) :
    ∃ env, pool.env.Grows P env ∧ pool.claim w rest checkedOut =
      (.ok (.ready pool.wrappers.size),
        { pool.renew w old conn with
          active := rest
          counters := pool.counters.afterClaim checkedOut
          env := env }) := by
  have undo := Exchange.within_rollbackIfNeeded mode back pool.env
  have counted : Holds
      { pool with active := rest, counters := pool.counters.afterClaim checkedOut }
      w old conn := ⟨holds.found, holds.valid, holds.held⟩
  have work := counted.withConnection Exchange.rollbackIfNeeded
  dsimp only [Counters.afterClaim] at work
  unfold claim
  dsimp only [count]
  rw [work]
  cases run : (Exchange.rollbackIfNeeded conn).perform pool.env with
  | mk outcome env =>
    rw [run] at undo
    cases outcome with
    | ok _ =>
      have moved := (counted.talk env).rewrap
      dsimp only [Counters.afterClaim] at moved ⊢
      rw [moved]
      exact ⟨_, undo.trans (Environment.grows_write (log _) env), rfl⟩
    | error error =>
      have moved := (counted.talk (env.write (.event (.claimRollbackFailed (pool.realId w)
        error)))).rewrap
      dsimp only [Counters.afterClaim, note] at moved ⊢
      rw [moved]
      exact ⟨_, (undo.trans (Environment.grows_write (log _) env)).trans
        (Environment.grows_write (log _) _), rfl⟩

/-- Every search ends in one of the ways listed. That an overdue checkout has no
connection left to claim is not among them. -/
theorem search_finds {pool : Pool σ} (owns : pool.Owns []) (settings : Settings)
    (who : Credentials) :
    Finds settings who pool (pool.nextCandidate settings who).1
      (pool.nextCandidate settings who).2 := by
  unfold nextCandidate
  cases idle : pool.idle with
  | cons w rest => exact .idle idle
  | nil =>
    dsimp only
    by_cases room : pool.active.length < settings.policy.maxActive
    · rw [if_pos room]
      unfold openFresh
      rcases settings.source.connect_cases who pool.env with
        ⟨env, connect, opens⟩ | ⟨error, env, connect, refuses⟩
      · rw [connect]
        exact .opened idle room connect opens
      · rw [connect]
        exact .refused idle room connect refuses
    · rw [if_neg room]
      cases active : pool.active with
      | nil =>
        rw [active, List.length_nil] at room
        exact .noCapacity idle active (Nat.eq_zero_of_not_pos room)
      | cons w rest =>
        dsimp only
        by_cases young : pool.checkoutTime w ≤ settings.policy.maxCheckoutTime
        · rw [if_pos young]
          exact .mustWait idle active (Nat.le_of_not_lt room) young
        · rw [if_neg young]
          -- A checkout is valid and thus still holds the connection that is claimed.
          have valid : pool.isValid w = true := by simp [owns.isValid_iff, active]
          obtain ⟨old, conn, holds⟩ := owns.toCoherent.exists_holds valid
          obtain ⟨env, talks, claimed⟩ := claim_cases Entry.isTalk_event
            (Entry.isTalk_pool conn (by decide)) (Entry.isTalk_pool conn (by decide)) holds rest
            (pool.checkoutTime w)
          rw [claimed]
          exact .claimed idle active (Nat.le_of_not_lt room) (Nat.lt_of_not_le young) holds talks

/-- The candidate that a search found. -/
def inHand : Except PoolError Candidate → List WrapperId
  | .ok (.ready w) => [w]
  | _ => []

namespace Finds

variable {settings : Settings} {who : Credentials} {pool after : Pool σ}
  {result : Except PoolError Candidate}

/-- What a search finds is in hand, and all else is listed. -/
theorem owns (finds : Finds settings who pool result after) (owns : pool.Owns []) :
    after.Owns (inHand result) := by
  cases finds with
  | @idle w rest idle =>
    refine (owns.relist ?_).note _
    have front : (rest ++ pool.active ++ [w]).Perm ([w] ++ (rest ++ pool.active)) :=
      List.perm_append_comm
    rw [idle, List.append_nil]
    exact front
  | opened _ _ _ opens => exact (owns.enrol opens).note _
  | refused _ _ _ refuses => exact owns.refuse refuses
  | noCapacity => exact owns
  | mustWait => exact owns
  | @claimed w rest old conn env idle active _ _ holds talks =>
    have taken : Owns [w]
        { pool with
          active := rest
          counters := pool.counters.afterClaim (pool.checkoutTime w) } := by
      apply owns.relist
      rw [active, idle, List.append_nil]
      exact List.perm_append_comm
    exact (taken.renew ⟨holds.found, holds.valid, holds.held⟩).talk talks

/-- A search draws on the pool. -/
theorem draws (finds : Finds settings who pool result after) : pool.Draws after := by
  cases finds with
  | @idle w rest idle =>
    exact ⟨by rw [idle]; exact List.suffix_cons w rest, List.suffix_rfl, Nat.le_refl _, rfl⟩
  | opened =>
    exact ⟨List.suffix_rfl, List.suffix_rfl, by simp [enrol, note], rfl⟩
  | refused => exact ⟨List.suffix_rfl, List.suffix_rfl, Nat.le_refl _, rfl⟩
  | noCapacity => exact .refl pool
  | mustWait => exact .refl pool
  | @claimed w rest old conn env _ active =>
    exact ⟨List.suffix_rfl, by rw [active]; exact List.suffix_cons w rest,
      by simp [renew, wrap, size_alter], rfl⟩

/-- A candidate was idle before, or its wrapper is new. -/
theorem fresh {w : WrapperId} (finds : Finds settings who pool (.ok (.ready w)) after) :
    w ∈ pool.idle ∨ pool.wrappers.size ≤ w := by
  cases finds with
  | idle idle =>
    left
    rw [idle]
    exact List.mem_cons_self
  | opened => exact .inr (Nat.le_refl _)
  | claimed => exact .inr (Nat.le_refl _)

end Finds

/-! ## A whole acquisition -/

/-- How an acquisition proceeds that may still reject `budget` candidates and go
on: from a pool, to what becomes of the acquisition, and the pool after it. -/
inductive Acquires (settings : Settings) :
    Acquisition → Nat → Pool σ → Progress → Pool σ → Prop
  /-- The search fails, and the acquisition with it. -/
  | failed {acquisition : Acquisition} {budget : Nat} {pool after : Pool σ} {error : PoolError}
      (search : pool.nextCandidate settings acquisition.who = (.error error, after)) :
      Acquires settings acquisition budget pool (.failed error) after
  /-- There is nothing to be had, and the acquisition falls asleep. -/
  | asleep {acquisition : Acquisition} {budget : Nat} {pool found : Pool σ}
      (search : pool.nextCandidate settings acquisition.who = (.ok .mustWait, found)) :
      Acquires settings acquisition budget pool (.asleep { acquisition with waited := true })
        (found.fallAsleep settings.policy acquisition).2
  /-- The candidate is good and is handed out. -/
  | granted {acquisition : Acquisition} {budget : Nat} {pool found vetted : Pool σ}
      {w : WrapperId}
      (search : pool.nextCandidate settings acquisition.who = (.ok (.ready w), found))
      (vet : found.vet settings.policy w = (.ok (), vetted)) :
      Acquires settings acquisition budget pool (.granted w)
        (vetted.handOut (settings.source.fingerprintFor acquisition.who) acquisition.started w)
  /-- The candidate is bad, and it was one too many. -/
  | gaveUp {acquisition : Acquisition} {pool found vetted : Pool σ} {w : WrapperId}
      {rejection : Rejection}
      (search : pool.nextCandidate settings acquisition.who = (.ok (.ready w), found))
      (vet : found.vet settings.policy w = (.error rejection, vetted)) :
      Acquires settings acquisition 0 pool
        (.failed (.exhausted (.tooManyBad (acquisition.rejected + 1) rejection)))
        ((vetted.countBad.note (.candidateRejected rejection)).note
          (.gaveUp (acquisition.rejected + 1)))
  /-- The candidate is bad, and the acquisition goes on without it. -/
  | again {acquisition : Acquisition} {budget : Nat} {pool found vetted after : Pool σ}
      {w : WrapperId} {rejection : Rejection} {progress : Progress}
      (search : pool.nextCandidate settings acquisition.who = (.ok (.ready w), found))
      (vet : found.vet settings.policy w = (.error rejection, vetted))
      (rest : Acquires settings { acquisition with rejected := acquisition.rejected + 1 } budget
        (vetted.countBad.note (.candidateRejected rejection)) progress after) :
      Acquires settings acquisition (budget + 1) pool progress after

/-- Every acquisition proceeds in this way. -/
theorem attempt_acquires (settings : Settings) (acquisition : Acquisition) (budget : Nat)
    (pool : Pool σ) :
    Acquires settings acquisition budget pool (pool.attempt settings acquisition budget).1
      (pool.attempt settings acquisition budget).2 := by
  unfold attempt
  cases search : pool.nextCandidate settings acquisition.who with
  | mk result found =>
    cases result with
    | error error => exact .failed search
    | ok candidate =>
      cases candidate with
      | mustWait => exact .asleep search
      | ready w =>
        dsimp only
        unfold activate
        cases vet : found.vet settings.policy w with
        | mk outcome vetted =>
          cases outcome with
          | ok _ => exact .granted search vet
          | error rejection =>
            -- Only a bad candidate uses up budget; the recursion is on what is left of it.
            cases budget with
            | zero => exact .gaveUp search vet
            | succ budget => exact .again search vet (attempt_acquires settings _ budget _)

/-- An acquisition of an open pool proceeds in this way, and a closed pool refuses
it as it is. -/
theorem acquire_cases (settings : Settings) (acquisition : Acquisition) (pool : Pool σ) :
    (pool.closed = true ∧ pool.acquire settings acquisition =
      (.failed (if acquisition.waited then .waitInterrupted else .closed), pool)) ∨
    (pool.closed = false ∧ Acquires settings acquisition
      (settings.policy.badConnectionLimit - acquisition.rejected) pool
      (pool.acquire settings acquisition).1 (pool.acquire settings acquisition).2) := by
  unfold acquire
  cases closed : pool.closed with
  | true => exact .inl ⟨rfl, rfl⟩
  | false => exact .inr ⟨rfl, attempt_acquires settings acquisition _ pool⟩

theorem Owns.search {pool found : Pool σ} (owns : pool.Owns []) {settings : Settings}
    {who : Credentials} {result : Except PoolError Candidate}
    (search : pool.nextCandidate settings who = (result, found)) :
    Finds settings who pool result found := by
  have finds := search_finds owns settings who
  rwa [search] at finds

theorem Owns.vet {pool vetted : Pool σ} {w : WrapperId} {inHand : List WrapperId}
    (owns : pool.Owns (w :: inHand)) {policy : Policy} {outcome : Except Rejection Unit}
    (vet : pool.vet policy w = (outcome, vetted)) : Checks w pool outcome vetted := by
  obtain ⟨wrapper, conn, holds⟩ := owns.exists_holds_hand
  have checks := vet_checks policy holds
  rwa [vet] at checks

omit [Driver σ] in
theorem slot_handOut (pool : Pool σ) (code : Fingerprint) (started : Instant)
    (w v : WrapperId) : (pool.handOut code started w).slot v = pool.slot v :=
  (keepsHolding_checkedOut code pool.now).slot_alter pool w v

omit [Driver σ] in
/-- A wrapper in hand is handed out. -/
theorem Owns.handOut {pool : Pool σ} {w : WrapperId} (owns : pool.Owns [w])
    (code : Fingerprint) (started : Instant) : (pool.handOut code started w).Owns [] := by
  refine (owns.alter (keepsHolding_checkedOut code pool.now) w).relist ?_
  rw [List.append_nil, List.append_assoc]

/-- A bad candidate is laid aside, and the search may go on without it. -/
theorem Owns.reject {settings : Settings} {who : Credentials} {pool found vetted : Pool σ}
    {w : WrapperId} {rejection : Rejection} (owns : pool.Owns [])
    (search : pool.nextCandidate settings who = (.ok (.ready w), found))
    (vet : found.vet settings.policy w = (.error rejection, vetted)) :
    (vetted.countBad.note (.candidateRejected rejection)).Owns [] ∧
      pool.Draws (vetted.countBad.note (.candidateRejected rejection)) := by
  have finds := owns.search search
  have hand := finds.owns owns
  have checks := hand.vet vet
  have draws : pool.Draws vetted.countBad :=
    (finds.draws.trans checks.draws).trans (draws_count _ vetted)
  exact ⟨((checks.owns_bad hand).count _).note _, draws.trans (draws_note _ _)⟩

omit [Driver σ] in
/-- Who falls asleep takes nothing. -/
theorem draws_fallAsleep (policy : Policy) (acquisition : Acquisition) (pool : Pool σ) :
    pool.Draws (pool.fallAsleep policy acquisition).2 := by
  unfold fallAsleep
  cases acquisition.waited with
  | true => exact draws_note _ _
  | false => exact (draws_count _ _).trans (draws_note _ _)

omit [Driver σ] in
theorem Owns.fallAsleep {pool : Pool σ} (owns : pool.Owns []) (policy : Policy)
    (acquisition : Acquisition) : (pool.fallAsleep policy acquisition).2.Owns [] := by
  unfold Pool.fallAsleep
  cases acquisition.waited with
  | true => exact owns.note _
  | false => exact (owns.count _).note _

namespace Acquires

variable {settings : Settings} {acquisition : Acquisition} {budget : Nat}
  {pool after : Pool σ} {progress : Progress}

/-- However an acquisition ends, all connections are owned properly. -/
theorem owns (acquires : Acquires settings acquisition budget pool progress after)
    (owns : pool.Owns []) : after.Owns [] := by
  induction acquires with
  | failed search => exact (owns.search search).owns owns
  | asleep search => exact ((owns.search search).owns owns).fallAsleep _ _
  | granted search vet =>
    have hand := (owns.search search).owns owns
    exact ((hand.vet vet).owns_good hand).handOut _ _
  | gaveUp search vet => exact (owns.reject search vet).1.note _
  | again search vet _ ih => exact ih (owns.reject search vet).1

/-- However an acquisition ends, it has only drawn on the pool, but for the wrapper
that it got. -/
theorem leaves (acquires : Acquires settings acquisition budget pool progress after)
    (owns : pool.Owns []) : pool.Leaves progress after := by
  induction acquires with
  | failed search => exact (owns.search search).draws.leaves rfl
  | asleep search =>
    exact .of_draws (owns.search search).draws ((draws_fallAsleep _ _ _).leaves rfl)
  | @granted _ _ pool found vetted w search vet =>
    have finds := owns.search search
    have draws := finds.draws.trans ((finds.owns owns).vet vet).draws
    exact {
      idle := draws.idle
      active := ⟨vetted.active, draws.active, rfl⟩
      size := by
        show _ ≤ (vetted.alter w _).wrappers.size
        rw [size_alter]
        exact draws.size
      closed := draws.closed
      fresh := by
        intro v hv
        obtain rfl := List.mem_singleton.1 hv
        exact finds.fresh }
  | gaveUp search vet =>
    exact ((owns.reject search vet).2.trans (draws_note _ _)).leaves rfl
  | again search vet _ ih =>
    obtain ⟨rest, draws⟩ := owns.reject search vet
    exact .of_draws draws (ih rest)

end Acquires

theorem Owns.acquire {pool : Pool σ} (owns : pool.Owns []) (settings : Settings)
    (acquisition : Acquisition) : (pool.acquire settings acquisition).2.Owns [] := by
  rcases acquire_cases settings acquisition pool with ⟨-, refused⟩ | ⟨-, acquires⟩
  · rw [refused]
    exact owns
  · exact acquires.owns owns

theorem Owns.acquire_leaves {pool : Pool σ} (owns : pool.Owns []) (settings : Settings)
    (acquisition : Acquisition) :
    pool.Leaves (pool.acquire settings acquisition).1 (pool.acquire settings acquisition).2 := by
  rcases acquire_cases settings acquisition pool with ⟨-, refused⟩ | ⟨-, acquires⟩
  · rw [refused]
    exact (Draws.refl pool).leaves rfl
  · exact acquires.leaves owns

end Pool

end ConnectionPooling
