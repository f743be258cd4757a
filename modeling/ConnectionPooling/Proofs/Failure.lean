/-
# What a failing call leaves behind

A call may fail late: after it has taken idle connections and rejected them, claimed a
checkout, and opened connections in vain. `Spares` is what holds between any two moments of
a call that is not granted a connection: the lists have only lost members, and whatever is
still listed is what it was. With the balance of the journal this says what became of the
connections that are listed no more: each of them was closed, once.

The lists are compared between the moment at which the call takes the pool and the moment
at which it lets go of it. What becomes of the pool when nobody can reach it any more after
that is not the call's doing.
-/

import ConnectionPooling.Proofs.Retries

namespace ConnectionPooling

variable {σ : Type}

namespace Pool

/-! ## What is still listed -/

/-- From `before` to `after` the lists may have lost members. Each wrapper that is still
listed is what it was, and no connection was handed out. -/
structure Spares (before after : Pool σ) : Prop extends Draws before after where
  same : ∀ w ∈ after.idle ++ after.active, after.wrappers[w]? = before.wrappers[w]?
  requests : after.counters.requests = before.counters.requests
  requestTime : after.counters.requestTime = before.counters.requestTime

theorem Spares.refl (pool : Pool σ) : pool.Spares pool :=
  ⟨.refl pool, fun _ _ => rfl, rfl, rfl⟩

theorem Spares.mem {before after : Pool σ} (spares : before.Spares after) {w : WrapperId}
    (listed : w ∈ after.idle ++ after.active) : w ∈ before.idle ++ before.active := by
  rcases List.mem_append.1 listed with idle | active
  · exact List.mem_append_left _ (spares.idle.subset idle)
  · exact List.mem_append_right _ (spares.active.subset active)

theorem Spares.trans {before mid after : Pool σ} (first : before.Spares mid)
    (second : mid.Spares after) : before.Spares after where
  toDraws := first.toDraws.trans second.toDraws
  same w listed := (second.same w listed).trans (first.same w (second.mem listed))
  requests := second.requests.trans first.requests
  requestTime := second.requestTime.trans first.requestTime

theorem Spares.note {before after : Pool σ} (spares : before.Spares after) (event : Event) :
    before.Spares (after.note event) :=
  ⟨spares.toDraws.trans (draws_note event after), spares.same, spares.requests,
    spares.requestTime⟩

theorem Spares.countBad {before after : Pool σ} (spares : before.Spares after) :
    before.Spares after.countBad :=
  ⟨spares.toDraws.trans (draws_count _ after), spares.same, spares.requests,
    spares.requestTime⟩

/-! ## The connections that are listed no more -/

section

variable {before after : Pool σ}

/-- Whatever is held at the end is listed, and was held by the same wrapper all along. -/
theorem Spares.slot_before (spares : before.Spares after) (owns : after.Owns [])
    {w : WrapperId} {conn : ConnId} (held : after.slot w = some conn) :
    w ∈ after.idle ++ after.active ∧ before.slot w = some conn := by
  have listed := owns.mem_of_slot held
  rw [List.append_nil] at listed
  unfold Pool.slot at held ⊢
  rw [spares.same w listed] at held
  exact ⟨listed, held⟩

/-- A connection that is listed no more was closed once. -/
theorem Spares.closes_left (spares : before.Spares after) (owned : before.Owns [])
    (owns : after.Owns []) (opened : before.env.opened ≤ after.env.opened) {w : WrapperId}
    (listed : w ∈ before.idle ++ before.active) (left : w ∉ after.idle ++ after.active) :
    ∃ conn, before.slot w = some conn ∧ before.env.closes conn = 0 ∧
      after.env.closes conn = 1 := by
  have valid := (owned.isValid_iff w).2 (List.mem_append_left _ listed)
  obtain ⟨wrapper, conn, holds⟩ := owned.exists_holds valid
  have held := holds.slot
  have old := owned.accounts.held_lt ⟨w, held⟩
  refine ⟨conn, held, owned.accounts.closes_held ⟨w, held⟩, ?_⟩
  apply owns.accounts.closes_lost (Nat.lt_of_lt_of_le old opened)
  rintro ⟨v, still⟩
  obtain ⟨stays, same⟩ := spares.slot_before owns still
  exact left (owned.slot_inj held same ▸ stays)

/-- A connection that was opened meanwhile and is not listed was closed once. -/
theorem Spares.closes_opened (spares : before.Spares after) (owned : before.Owns [])
    (owns : after.Owns []) {conn : ConnId} (unknown : before.env.hasOpened conn = false)
    (opened : after.env.hasOpened conn = true) :
    before.env.closes conn = 0 ∧ after.env.closes conn = 1 := by
  have new : ¬ conn < before.env.opened := by
    rw [← owned.accounts.hasOpened_iff, unknown]
    exact Bool.false_ne_true
  have made := (owns.accounts.hasOpened_iff conn).1 opened
  refine ⟨owned.accounts.closes_unopened (Nat.not_lt.1 new), owns.accounts.closes_lost made ?_⟩
  rintro ⟨w, held⟩
  exact new (owned.accounts.held_lt ⟨w, (spares.slot_before owns held).2⟩)

/-- No other connection was closed. -/
theorem Spares.left_or_opened (spares : before.Spares after) (owned : before.Owns [])
    (owns : after.Owns []) (opened : before.env.opened ≤ after.env.opened) {conn : ConnId}
    (closed : after.env.closes conn ≠ before.env.closes conn) :
    (∃ w ∈ before.idle ++ before.active, w ∉ after.idle ++ after.active ∧
      before.slot w = some conn) ∨
    (before.env.hasOpened conn = false ∧ after.env.hasOpened conn = true) := by
  rcases Nat.lt_or_ge conn before.env.opened with old | new
  · left
    have still := Nat.lt_of_lt_of_le old opened
    by_cases held : before.IsHeld conn
    · obtain ⟨w, held⟩ := held
      have listed := owned.mem_of_slot held
      rw [List.append_nil] at listed
      refine ⟨w, listed, ?_, held⟩
      intro stays
      apply closed
      have same : after.slot w = some conn := by
        unfold Pool.slot at held ⊢
        rwa [spares.same w stays]
      rw [owned.accounts.closes_held ⟨w, held⟩, owns.accounts.closes_held ⟨w, same⟩]
    · have free : ¬ after.IsHeld conn := by
        rintro ⟨w, late⟩
        exact held ⟨w, (spares.slot_before owns late).2⟩
      exact absurd ((owns.accounts.closes_lost still free).trans
        (owned.accounts.closes_lost old held).symm) closed
  · right
    constructor
    · rw [← Bool.not_eq_true, owned.accounts.hasOpened_iff]
      exact Nat.not_lt.2 new
    · rw [owns.accounts.hasOpened_iff]
      by_contra never
      exact closed ((owns.accounts.closes_unopened (Nat.not_lt.1 never)).trans
        (owned.accounts.closes_unopened new).symm)

end

/-! ## What spares the lists -/

/-- A wrapper that is listed exists. -/
theorem Owns.lt_size_of_listed {pool : Pool σ} {inHand : List WrapperId} (owns : pool.Owns inHand)
    {w : WrapperId} (listed : w ∈ pool.idle ++ pool.active) : w < pool.wrappers.size :=
  lt_size_of_isValid ((owns.isValid_iff w).2 (List.mem_append_left _ listed))

/-- A check of a wrapper in hand spares those that are listed. -/
theorem Checks.spares {pool after : Pool σ} {w : WrapperId} {result : Except Rejection Unit}
    (checks : Checks w pool result after) (owns : pool.Owns [w]) : pool.Spares after where
  toDraws := checks.draws
  same := by
    cases checks with
    | good => exact fun _ _ => rfl
    | @bad env _ rejection held shuts =>
      intro v listed
      have other : w ≠ v := by
        rintro rfl
        exact owns.not_mem_hand listed
      exact (pool.wrappers_alter w v _).trans (if_neg other)
  requests := congrArg _ checks.counters
  requestTime := congrArg _ checks.counters

variable [Driver σ]

/-- A search spares the wrappers that are listed. -/
theorem Finds.spares {settings : Settings} {who : Credentials} {pool after : Pool σ}
    {result : Except PoolError Candidate} (finds : Finds settings who pool result after)
    (owns : pool.Owns []) : pool.Spares after where
  toDraws := finds.draws
  same := by
    cases finds with
    | idle | refused | noCapacity | mustWait => exact fun _ _ => rfl
    | opened =>
      intro v listed
      exact (pool.wrappers_push v _).trans (if_neg (Nat.ne_of_lt (owns.lt_size_of_listed listed)))
    | @claimed w rest old conn _ idle active =>
      intro v listed
      have still : v ∈ rest := by
        have split : v ∈ pool.idle ++ rest := listed
        rw [idle] at split
        exact split
      have exist : v < pool.wrappers.size := by
        apply owns.lt_size
        rw [active]
        exact List.mem_cons_of_mem w still
      have other : w ≠ v := by
        rintro rfl
        have nodup := owns.nodup
        rw [idle, active, List.nil_append, List.append_nil, List.nodup_cons] at nodup
        exact nodup.1 still
      have moved := pool.wrappers_renew w v old conn
      rw [if_neg (Nat.ne_of_lt exist)] at moved
      exact moved.trans ((pool.wrappers_alter w v _).trans (if_neg other))
  requests := by cases finds <;> rfl
  requestTime := by cases finds <;> rfl

theorem Owns.spares_reject {settings : Settings} {who : Credentials} {pool found vetted : Pool σ}
    {w : WrapperId} {rejection : Rejection} (owns : pool.Owns [])
    (search : pool.nextCandidate settings who = (.ok (.ready w), found))
    (vet : found.vet settings.policy w = (.error rejection, vetted)) :
    pool.Spares (vetted.countBad.note (.candidateRejected rejection)) := by
  have finds := owns.search search
  have hand := finds.owns owns
  exact (((finds.spares owns).trans ((hand.vet vet).spares hand)).countBad).note _

/-- An acquisition that gets no connection spares the wrappers that are listed. -/
theorem Acquires.spares {settings : Settings} {acquisition : Acquisition} {budget : Nat}
    {pool after : Pool σ} {error : PoolError} {progress : Progress}
    (acquires : Acquires settings acquisition budget pool progress after)
    (owns : pool.Owns []) (failed : progress = .failed error) : pool.Spares after := by
  induction acquires with
  | failed search => exact (owns.search search).spares owns
  | asleep | granted => cases failed
  | gaveUp search vet => exact (owns.spares_reject search vet).note _
  | again search vet _ ih =>
    exact (owns.spares_reject search vet).trans (ih (owns.reject search vet).1 failed)

theorem Owns.spares_acquire {pool : Pool σ} (owns : pool.Owns []) {settings : Settings}
    {acquisition : Acquisition} {error : PoolError}
    (failed : (pool.acquire settings acquisition).1 = .failed error) :
    pool.Spares (pool.acquire settings acquisition).2 := by
  rcases acquire_cases settings acquisition pool with ⟨-, refused⟩ | ⟨-, acquires⟩
  · rw [refused]
    exact .refl pool
  · exact acquires.spares owns failed

/-! ## The checkouts -/

/-- A search leaves the checkouts as they are, or takes away the first one, which is
overdue. -/
theorem Finds.active_cases {settings : Settings} {who : Credentials} {pool after : Pool σ}
    {result : Except PoolError Candidate} (finds : Finds settings who pool result after) :
    after.active = pool.active ∨ ∃ w, pool.active = w :: after.active ∧
      settings.policy.maxCheckoutTime < pool.checkoutTime w := by
  cases finds with
  | idle | opened | refused | noCapacity | mustWait => exact .inl rfl
  | claimed _ active _ overdue => exact .inr ⟨_, active, overdue⟩

/-- What an acquisition takes away, it takes away in its first search. -/
theorem Acquires.active_cases {settings : Settings} {acquisition : Acquisition} {budget : Nat}
    {pool after : Pool σ} {error : PoolError} {progress : Progress}
    (acquires : Acquires settings acquisition budget pool progress after)
    (owns : pool.Owns []) (fits : pool.load ≤ settings.policy.maxActive)
    (failed : progress = .failed error) :
    after.active = pool.active ∨ ∃ w, pool.active = w :: after.active ∧
      settings.policy.maxCheckoutTime < pool.checkoutTime w := by
  cases acquires with
  | asleep | granted => cases failed
  | failed search => exact (owns.search search).active_cases
  | gaveUp search vet =>
    have finds := owns.search search
    have same := ((finds.owns owns).vet vet).active
    have cases := finds.active_cases
    rw [← same] at cases
    exact cases
  | again search vet rest =>
    have finds := owns.search search
    have same := ((finds.owns owns).vet vet).active
    have later := rest.unhindered (owns.reject search vet).1 (owns.room_reject fits search vet)
    subst failed
    have left := later.active.trans (List.append_nil _)
    have cases := finds.active_cases
    rw [← same] at cases
    rw [left]
    exact cases

theorem Owns.acquire_active_cases {pool : Pool σ} (owns : pool.Owns []) {settings : Settings}
    (fits : pool.load ≤ settings.policy.maxActive) {acquisition : Acquisition} {error : PoolError}
    (failed : (pool.acquire settings acquisition).1 = .failed error) :
    (pool.acquire settings acquisition).2.active = pool.active ∨
      ∃ w, pool.active = w :: (pool.acquire settings acquisition).2.active ∧
        settings.policy.maxCheckoutTime < pool.checkoutTime w := by
  rcases acquire_cases settings acquisition pool with ⟨-, refused⟩ | ⟨-, acquires⟩
  · rw [refused]
    exact .inl rfl
  · exact acquires.active_cases owns fits failed

/-! ## The errors -/

/-- An acquisition does not forget what was opened. -/
theorem Owns.opened_le_acquire {pool : Pool σ} (owns : pool.Owns []) (settings : Settings)
    (acquisition : Acquisition) :
    pool.env.opened ≤ (pool.acquire settings acquisition).2.env.opened := by
  let errand : Errand σ :=
    { settings := settings
      who := some acquisition.who
      searched := pool.lookups settings acquisition }
  have moves : Moves errand pool (pool.acquire settings acquisition).2 :=
    (owns.moves_acquire errand rfl rfl).1
  exact moves.extends.opened

/-- While the pool is open, a call fails because a connection cannot be opened or because
none is left. -/
theorem Acquires.error_cases {settings : Settings} {acquisition : Acquisition} {budget : Nat}
    {pool after : Pool σ} {error : PoolError} {progress : Progress}
    (acquires : Acquires settings acquisition budget pool progress after)
    (owns : pool.Owns []) (failed : progress = .failed error) :
    (∃ url source, error = .connectFailure url source) ∨ ∃ reason, error = .exhausted reason := by
  induction acquires with
  | @failed _ _ _ _ own search =>
    cases failed
    have finds := owns.search search
    cases finds with
    | refused => exact .inl ⟨_, _, rfl⟩
    | noCapacity => exact .inr ⟨_, rfl⟩
  | asleep | granted => cases failed
  | gaveUp =>
    cases failed
    exact .inr ⟨_, rfl⟩
  | again search vet _ ih => exact ih (owns.reject search vet).1 failed

/-- A call that fails because the pool is closed does not touch it; any other failure is one
of two kinds. -/
theorem Owns.acquire_error_cases {pool : Pool σ} (owns : pool.Owns []) {settings : Settings}
    {acquisition : Acquisition} {error : PoolError}
    (failed : (pool.acquire settings acquisition).1 = .failed error) :
    ((error = .closed ∨ error = .waitInterrupted) ∧
      (pool.acquire settings acquisition).2 = pool) ∨
    (∃ url source, error = .connectFailure url source) ∨ ∃ reason, error = .exhausted reason := by
  rcases acquire_cases settings acquisition pool with ⟨-, refused⟩ | ⟨-, acquires⟩
  · rw [refused] at failed ⊢
    cases failed
    refine .inl ⟨?_, rfl⟩
    split
    · exact .inr rfl
    · exact .inl rfl
  · exact .inr (acquires.error_cases owns failed)

end Pool

namespace World

variable [Driver σ] {step : Step σ} {world : World σ} {ticket : Ticket}
  {acquisition : Acquisition} {error : PoolError}

/-- What a call leaves behind that returns `error` in the step `step`: how the pool from
which it set out in this step differs from the one that it let go of. -/
structure FailsCleanly (step : Step σ) (world : World σ) (error : PoolError) : Prop where
  /-- Idle connections are missing at the front only. -/
  idle : (world.parted step).idle <:+ world.pool.idle
  /-- No checkout is missing, or the first one, and that one was overdue. -/
  active : (world.parted step).active = world.pool.active ∨
    ∃ w, world.pool.active = w :: (world.parted step).active ∧
      world.settings.policy.maxCheckoutTime < world.pool.checkoutTime w
  requests : (world.parted step).counters.requests = world.pool.counters.requests
  requestTime : (world.parted step).counters.requestTime = world.pool.counters.requestTime
  /-- Every wrapper that is still listed is what it was. -/
  same : ∀ w ∈ (world.parted step).idle ++ (world.parted step).active,
    (world.parted step).wrappers[w]? = world.pool.wrappers[w]?
  /-- Every connection that is listed no more was closed in this step, once. -/
  left : ∀ w ∈ world.pool.idle ++ world.pool.active,
    w ∉ (world.parted step).idle ++ (world.parted step).active →
      ∃ conn, world.pool.slot w = some conn ∧ world.pool.env.closes conn = 0 ∧
        (world.parted step).env.closes conn = 1
  /-- Every connection that was opened in this step was closed in it, once. -/
  opened : ∀ conn, world.pool.env.hasOpened conn = false →
    (world.parted step).env.hasOpened conn = true →
      world.pool.env.closes conn = 0 ∧ (world.parted step).env.closes conn = 1
  /-- No other connection was closed. -/
  others : ∀ conn, (world.parted step).env.closes conn ≠ world.pool.env.closes conn →
    (∃ w ∈ world.pool.idle ++ world.pool.active,
      w ∉ (world.parted step).idle ++ (world.parted step).active ∧
        world.pool.slot w = some conn) ∨
    (world.pool.env.hasOpened conn = false ∧ (world.parted step).env.hasOpened conn = true)
  /-- If the call found the pool closed, the lists are as before, and neither the driver nor
  the log heard of it. -/
  refused : error = .closed ∨ error = .waitInterrupted →
    (world.parted step).idle = world.pool.idle ∧
      (world.parted step).active = world.pool.active ∧
      (world.parted step).env = world.pool.env
  /-- There are two other ways in which it can fail. -/
  otherwise : (error = .closed ∨ error = .waitInterrupted) ∨
    (∃ url source, error = .connectFailure url source) ∨ ∃ reason, error = .exhausted reason
  /-- The pool that the call let go of is the one that the step leaves, unless nobody can
  reach it any more: then all connections are closed that are left. -/
  after : (world.take step).pool = world.parted step ∨ ((world.take step).isAbandoned = true ∧
    (world.take step).pool = (world.parted step).forceCloseAll world.settings.source)

/-- Every call that returns an error fails cleanly. -/
theorem failsCleanly_of_reachable {settings : Settings} {driver : σ}
    (reachable : Reachable settings driver world)
    (called : world.call step = some (ticket, acquisition))
    (returned : (world.take step).finished = (ticket, .error error) :: world.finished) :
    FailsCleanly step world error := by
  have orderly := reachable.sound.toOrderly
  have reports := reachable.lined.reports called (progress_of_call called)
  have failed := (reports.failed_iff error).1 returned
  have ready := orderly.ready step
  obtain ⟨⟨slept, waited⟩, same, -, -⟩ := ready_frame step world
  have owns : (world.parted step).Owns [] := by
    rw [parted_of_call called]
    exact ready.owns.acquire world.settings acquisition
  have spares : (world.ready step).pool.Spares (world.parted step) := by
    rw [parted_of_call called]
    exact ready.owns.spares_acquire failed
  have opened : (world.ready step).pool.env.opened ≤ (world.parted step).env.opened := by
    rw [parted_of_call called]
    exact ready.owns.opened_le_acquire world.settings acquisition
  have active := ready.owns.acquire_active_cases (same ▸ ready.load) failed
  have errors := ready.owns.acquire_error_cases failed
  rw [← parted_of_call called] at active errors
  have owned := ready.owns
  -- From here on only the time that callers waited tells the two pools apart.
  rw [waited] at spares opened active errors owned
  constructor
  case idle => exact spares.idle
  case active => exact active
  case requests => exact spares.requests
  case requestTime => exact spares.requestTime
  case same => exact spares.same
  case left => exact fun w listed => spares.closes_left owned owns opened listed
  case opened => exact fun conn unknown => spares.closes_opened owned owns unknown
  case others => exact fun conn => spares.left_or_opened owned owns opened
  case refused =>
    intro closed
    rcases errors with ⟨-, untouched⟩ | ⟨url, source, rfl⟩ | ⟨reason, rfl⟩
    · rw [untouched]
      exact ⟨rfl, rfl, rfl⟩
    · rcases closed with impossible | impossible <;> cases impossible
    · rcases closed with impossible | impossible <;> cases impossible
  case otherwise => exact errors.imp_left And.left
  case after => exact pool_take_of_call called

/-- The sleeper that claims the oldest checkout only to find its connection dead, and then
opens another one that is no better, leaves the younger checkout alone. -/
theorem failsCleanly_dying : ∃ world,
    (World.start strictSettings {}).follow dyingSteps = some world ∧
    world.pool.active = [0, 1] ∧ (world.parted (.wake 0)).active = [1] ∧
    (world.take (.wake 0)).finished =
      (2, .error (.exhausted (.tooManyBad 2 ⟨3, .closed⟩))) :: world.finished ∧
    FailsCleanly (.wake 0) world (.exhausted (.tooManyBad 2 ⟨3, .closed⟩)) := by
  have run : ((World.start strictSettings ({} : Simulation.State)).follow dyingSteps).map
      (fun world => (world.pool.active, (world.parted (.wake 0)).active,
        decide ((world.take (.wake 0)).finished =
          (2, .error (.exhausted (.tooManyBad 2 ⟨3, .closed⟩))) :: world.finished),
        (world.call (.wake 0)).map Prod.fst)) = some ([0, 1], [1], true, some 2) := by
    decide +kernel
  obtain ⟨world, found, seen⟩ := Option.map_eq_some_iff.1 run
  simp only [Prod.mk.injEq, decide_eq_true_eq] at seen
  obtain ⟨before, after, finished, works⟩ := seen
  obtain ⟨⟨ticket, acquisition⟩, called, same⟩ := Option.map_eq_some_iff.1 works
  obtain rfl : ticket = 2 := same
  exact ⟨world, found, before, after, finished,
    failsCleanly_of_reachable (Reachable.start.follow found) called finished⟩

end World

end ConnectionPooling
