/-
# Which checkout is overdue

A call that finds nothing idle and no room for another connection looks at one checkout only,
the first in the list. That is enough, because the checkouts stand in the order in which they
were made: if the first one is not overdue, none is. So a call that falls asleep has good
reason to, and a call that claims a checkout claims the one that has lasted longest.

A checkout that has lasted for exactly as long as the policy allows is not overdue. Whether a
checkout becomes overdue while the call sleeps is another matter; somebody has to look.
-/

import ConnectionPooling.Proofs.Retries

namespace ConnectionPooling

variable {σ : Type}

namespace Pool

/-- Nothing is to be had from the pool: none is idle, as many are checked out as may be, and
no checkout is overdue. -/
structure IsBusy (policy : Policy) (pool : Pool σ) : Prop where
  idle : pool.idle = []
  full : pool.active.length = policy.maxActive
  capacity : 0 < policy.maxActive
  young : ∀ w ∈ pool.active, pool.checkoutTime w ≤ policy.maxCheckoutTime

/-! ## Falling asleep -/

/-- Who falls asleep leaves the pool as busy as it was. -/
theorem IsBusy.fallAsleep {policy : Policy} {pool : Pool σ} (busy : pool.IsBusy policy)
    (acquisition : Acquisition) : (pool.fallAsleep policy acquisition).2.IsBusy policy := by
  unfold Pool.fallAsleep
  split
  · exact ⟨busy.idle, busy.full, busy.capacity, busy.young⟩
  · exact ⟨busy.idle, busy.full, busy.capacity, busy.young⟩

variable [Driver σ]

/-- A search that yields nothing was made in a busy pool: the first checkout is not overdue,
and all others were made later. -/
theorem Finds.busy {settings : Settings} {who : Credentials} {pool after : Pool σ}
    (finds : Finds settings who pool (.ok .mustWait) after) (queued : pool.Queued)
    (fits : pool.load ≤ settings.policy.maxActive) : pool.IsBusy settings.policy := by
  cases finds with
  | @mustWait w rest idle active full young =>
    have most : pool.active.length ≤ settings.policy.maxActive :=
      Nat.le_trans (Nat.le_add_left _ _) fits
    have some : 0 < pool.active.length := by
      rw [active]
      exact Nat.succ_pos _
    exact {
      idle := idle
      full := Nat.le_antisymm most full
      capacity := Nat.lt_of_lt_of_le some most
      young := fun v listed => Nat.le_trans (queued.checkoutTime_le active listed) young }

theorem Acquires.busy {settings : Settings} {acquisition again : Acquisition} {budget : Nat}
    {pool after : Pool σ} {progress : Progress}
    (acquires : Acquires settings acquisition budget pool progress after) (owns : pool.Owns [])
    (queued : pool.Queued) (fits : pool.load ≤ settings.policy.maxActive)
    (asleep : progress = .asleep again) : after.IsBusy settings.policy := by
  cases acquires with
  | failed | granted | gaveUp => cases asleep
  | @asleep _ _ _ found search =>
    obtain rfl := nextCandidate_mustWait search
    exact ((owns.search search).busy queued fits).fallAsleep acquisition
  | again search vet rest =>
    -- Who has rejected a candidate has room for another one.
    have later := rest.unhindered (owns.reject search vet).1 (owns.room_reject fits search vet)
    exact absurd asleep (later.awake again)

/-- Who falls asleep does so in a busy pool. -/
theorem Owns.busy_acquire {pool : Pool σ} (owns : pool.Owns []) (queued : pool.Queued)
    {settings : Settings} (fits : pool.load ≤ settings.policy.maxActive)
    {acquisition again : Acquisition}
    (asleep : (pool.acquire settings acquisition).1 = .asleep again) :
    (pool.acquire settings acquisition).2.IsBusy settings.policy := by
  rcases acquire_cases settings acquisition pool with ⟨-, refused⟩ | ⟨-, acquires⟩
  · rw [refused] at asleep
    cases asleep
  · exact acquires.busy owns queued fits asleep

/-! ## Claiming -/

/-- A search claims the checkout of `w`, which has lasted longest. Its connection moves into
a new wrapper, and its holder cannot reach it any more. -/
structure ClaimsOldest (settings : Settings) (who : Credentials) (pool : Pool σ)
    (w : WrapperId) : Prop where
  oldest : ∀ v ∈ pool.active, pool.checkoutTime v ≤ pool.checkoutTime w
  candidate : (pool.nextCandidate settings who).1 = .ok (.ready pool.wrappers.size)
  active : pool.active = w :: (pool.nextCandidate settings who).2.active
  lost : (pool.nextCandidate settings who).2.slot w = none
  moved : ∃ conn, pool.slot w = some conn ∧
    (pool.nextCandidate settings who).2.slot pool.wrappers.size = some conn
  counters : (pool.nextCandidate settings who).2.counters =
    pool.counters.afterClaim (pool.checkoutTime w)

/-- If nothing is idle, there is no room and some checkout is overdue, then a search claims
the one that has lasted longest. -/
theorem Owns.claimsOldest {pool : Pool σ} (owns : pool.Owns []) (queued : pool.Queued)
    {settings : Settings} (who : Credentials) (idle : pool.idle = [])
    (full : settings.policy.maxActive ≤ pool.active.length) {v : WrapperId}
    (listed : v ∈ pool.active) (overdue : settings.policy.maxCheckoutTime < pool.checkoutTime v) :
    ∃ w, ClaimsOldest settings who pool w := by
  cases active : pool.active with
  | nil =>
    rw [active] at listed
    cases listed
  | cons w rest =>
    have oldest : ∀ u ∈ pool.active, pool.checkoutTime u ≤ pool.checkoutTime w :=
      fun u => queued.checkoutTime_le active
    have valid : pool.isValid w = true := by
      rw [owns.isValid_iff, idle, active]
      simp
    obtain ⟨old, conn, holds⟩ := owns.exists_holds valid
    obtain ⟨env, -, claimed⟩ := claim_cases (P := fun _ => True) (fun _ => trivial)
      (fun _ => trivial) (fun _ => trivial) holds rest (pool.checkoutTime w)
    have search : pool.nextCandidate settings who = _ :=
      nextCandidate_of_overdue idle active full (Nat.lt_of_lt_of_le overdue (oldest v listed))
    rw [claimed] at search
    have exist := lt_size_of_isValid valid
    refine ⟨w, oldest, ?_, ?_, ?_, ⟨conn, holds.slot, ?_⟩, ?_⟩
    · rw [search]
    · rw [search, active]
    · rw [search]
      refine (pool.slot_renew w w old conn).trans ?_
      rw [if_neg (Nat.ne_of_lt exist), slot_spend, if_pos rfl]
    · rw [search]
      exact (pool.slot_renew w pool.wrappers.size old conn).trans (if_pos rfl)
    · rw [search]

/-- A search that claims the oldest checkout takes it away from the checkouts. -/
theorem ClaimsOldest.claims {settings : Settings} {who : Credentials} {pool : Pool σ}
    {w : WrapperId} (oldest : ClaimsOldest settings who pool w) (owns : pool.Owns []) :
    pool.Claims settings who w where
  before := by
    rw [oldest.active]
    exact List.mem_cons_self
  after := by
    have nodup := owns.nodup.of_append_left.of_append_right
    rw [oldest.active, List.nodup_cons] at nodup
    exact nodup.1

end Pool

namespace World

variable [Driver σ] {step : Step σ} {world : World σ} {ticket : Ticket}
  {acquisition : Acquisition}

theorem queued_ready {settings : Settings} {driver : σ}
    (reachable : Reachable settings driver world) (step : Step σ) :
    (world.ready step).pool.Queued := by
  obtain ⟨⟨slept, waited⟩, -⟩ := ready_frame step world
  have queued := reachable.tended.toQueued
  rw [waited]
  exact ⟨queued.sorted, queued.past, queued.exist⟩

/-- The pool in which a call of this world looks for a candidate keeps its checkouts in
order. -/
theorem queued_of_searched {settings : Settings} {driver : σ}
    (reachable : Reachable settings driver world) {found : Pool σ}
    (searched : found ∈ world.searches step) : found.Queued :=
  ((reachable.sound.searches_cases step found searched).1.tended reachable.tended).toQueued

/-- The checkouts stand in order, and the calls of this world judge by the first one as well
as if they looked at all of them. -/
structure Watchful (world : World σ) : Prop where
  /-- The clock does not run backwards. -/
  clock : ∀ step, world.pool.now ≤ (world.take step).pool.now
  /-- The checkouts are ordered by when they were made, the oldest first, and none was made in
  the future. -/
  sorted : world.pool.active.Pairwise fun v w => world.pool.checkoutAt v ≤ world.pool.checkoutAt w
  past : ∀ w ∈ world.pool.active, world.pool.checkoutAt w ≤ world.pool.now
  /-- When a call falls asleep, nothing is to be had from the pool. -/
  asleep : ∀ step ticket acquisition, world.call step = some (ticket, acquisition) →
    Sleeps ticket (world.take step) → (world.take step).pool.IsBusy world.settings.policy
  /-- If a call, whenever it looks for a candidate, finds nothing idle, no room, and some
  checkout that is overdue, then it does not fall asleep. It claims the checkout that has
  lasted longest, and this is the only one that it claims. -/
  claims : ∀ step ticket acquisition, world.call step = some (ticket, acquisition) →
    ∀ found ∈ world.searches step, found.idle = [] →
      found.active.length = world.settings.policy.maxActive →
      (∃ v ∈ found.active, world.settings.policy.maxCheckoutTime < found.checkoutTime v) →
        ¬ Sleeps ticket (world.take step) ∧
        ∃ w, Pool.ClaimsOldest world.settings acquisition.who found w ∧
          w ∉ (world.parted step).active ∧
          world.stays step =
            [{ wrapper := w
               since := found.checkoutAt w
               upTo := found.now
               allowed := some world.settings.policy.maxCheckoutTime }]

/-- A call that claims a checkout takes it away, and no other one. -/
theorem Orderly.of_claims (orderly : world.Orderly)
    (called : world.call step = some (ticket, acquisition)) {found : Pool σ}
    (searched : found ∈ world.searches step) {w : WrapperId}
    (claims : found.Claims world.settings acquisition.who w) :
    w ∉ (world.parted step).active ∧ world.stays step =
      [{ wrapper := w
         since := found.checkoutAt w
         upTo := found.now
         allowed := some world.settings.policy.maxCheckoutTime }] := by
  have ready := orderly.ready step
  have searches := searches_of_call called
  constructor
  · rw [parted_of_call called]
    exact (ready.owns.searched (searches ▸ searched)).2.2.2 claims
  · have taken := Pool.mem_taken.2 ⟨w, claims, rfl⟩
    have listed := List.mem_flatMap.2 ⟨found, searched, taken⟩
    rw [← stays_of_asks (asks_of_call called)] at listed
    have owns : ∀ other ∈ world.searches step, other.Owns [] := by
      intro other mem
      exact (ready.owns.searched (searches ▸ mem)).2.1
    have few : (world.stays step).length ≤ 1 := by
      rw [stays_of_asks (asks_of_call called)]
      exact Pool.length_flatMap_taken_le _ owns (orderly.tries_call called).later
    obtain ⟨only, same⟩ :=
      List.length_eq_one_iff.1 (Nat.le_antisymm few (List.length_pos_of_mem listed))
    rw [same] at listed ⊢
    rw [List.mem_singleton.1 listed]

/-- Every reachable world is watchful. -/
theorem watchful_of_reachable {settings : Settings} {driver : σ}
    (reachable : Reachable settings driver world) : world.Watchful := by
  have orderly := reachable.sound.toOrderly
  have queued := reachable.tended.toQueued
  constructor
  case clock => exact fun step => (reachable.sound.turn step).extends.clock
  case sorted => exact queued.sorted
  case past => exact queued.past
  case asleep =>
    intro step ticket acquisition called sleeps
    obtain ⟨again, asleep⟩ := (reachable.lined.sleeps_iff called).1 sleeps
    have ready := orderly.ready step
    have settings := (ready_frame step world).2.1
    rw [parted_of_asleep asleep, parted_of_call called]
    rw [progress_of_call called] at asleep
    exact ready.owns.busy_acquire (queued_ready reachable step) (settings ▸ ready.load)
      (Option.some.inj asleep)
  case claims =>
    intro step ticket acquisition called found searched idle full late
    obtain ⟨v, listed, overdue⟩ := late
    have owns := reachable.sound.owns_searches step found searched
    obtain ⟨w, oldest⟩ := owns.claimsOldest (queued_of_searched reachable searched)
      acquisition.who idle (Nat.le_of_eq full.symm) listed overdue
    refine ⟨?_, w, oldest, orderly.of_claims called searched (oldest.claims owns)⟩
    -- A call that falls asleep searches once, in vain.
    intro sleeps
    obtain ⟨again, asleep⟩ := (reachable.lined.sleeps_iff called).1 sleeps
    rw [progress_of_call called] at asleep
    obtain ⟨-, once, inVain⟩ :=
      (orderly.tries_call called).asleep again (Option.some.inj asleep)
    rw [once] at searched
    rw [← List.mem_singleton.1 searched] at inVain
    have candidate := oldest.candidate
    rw [inVain] at candidate
    cases candidate

/-- A checkout may last for 5. The third caller of the example sleeps on if it looks when the
oldest checkout has lasted for exactly that long, and claims it if it looks later. -/
theorem watchful_threshold : ∃ early late : World Simulation.State,
    (World.start tightSettings {}).follow (claimSteps.take 4 ++ [.act (.elapse 5)]) =
      some early ∧
    early.pool.active.map early.pool.checkoutTime = [5, 2] ∧
    (early.take (.wake 0)).sleepers.map Sleeper.ticket = [2] ∧
    (World.start tightSettings {}).follow (claimSteps.take 5) = some late ∧
    late.pool.active.map late.pool.checkoutTime = [7, 4] ∧
    (late.stays (.wake 0)).map Stay.wrapper = [0] ∧
    early.Watchful ∧ late.Watchful := by
  have sleepsOn : ((World.start tightSettings ({} : Simulation.State)).follow
      (claimSteps.take 4 ++ [.act (.elapse 5)])).map (fun world =>
        (world.pool.active.map world.pool.checkoutTime,
          (world.take (.wake 0)).sleepers.map Sleeper.ticket)) = some ([5, 2], [2]) := by
    decide +kernel
  have claims : ((World.start tightSettings ({} : Simulation.State)).follow
      (claimSteps.take 5)).map (fun world =>
        (world.pool.active.map world.pool.checkoutTime,
          (world.stays (.wake 0)).map Stay.wrapper)) = some ([7, 4], [0]) := by
    decide +kernel
  obtain ⟨early, foundEarly, seenEarly⟩ := Option.map_eq_some_iff.1 sleepsOn
  obtain ⟨late, foundLate, seenLate⟩ := Option.map_eq_some_iff.1 claims
  simp only [Prod.mk.injEq] at seenEarly seenLate
  exact ⟨early, late, foundEarly, seenEarly.1, seenEarly.2, foundLate, seenLate.1, seenLate.2,
    watchful_of_reachable (Reachable.start.follow foundEarly),
    watchful_of_reachable (Reachable.start.follow foundLate)⟩

end World

end ConnectionPooling
