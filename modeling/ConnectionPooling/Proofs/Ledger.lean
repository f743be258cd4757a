/-
# What the totals count

A pool keeps totals of what it did. This module says what they are totals of, without
looking at them: which checkouts end in an operation with their time taken, which
candidates are rejected, which connections are refused when they are given back, and how
many connections are handed out. `Books` says that the totals grew by exactly that from
one pool to another, and every operation is shown to book what it does.

A checkout that ends is described by a `Stay`. Those that are closed by force, or that are
given back with a bad connection, end without one: they count for nothing.
-/

import ConnectionPooling.Proofs.Accounting

namespace ConnectionPooling

/-- A checkout that ended with its time taken. -/
structure Stay where
  /-- The wrapper that was checked out. -/
  wrapper : WrapperId
  /-- When it was checked out. -/
  since : Instant
  /-- When its time was taken. -/
  upTo : Instant
  /-- If it was claimed, how long a checkout was allowed to last. -/
  allowed : Option Duration
  deriving DecidableEq

namespace Stay

/-- How long the stay lasted. -/
def time (stay : Stay) : Duration :=
  stay.upTo - stay.since

/-- Whether the stay ended because somebody claimed the connection. -/
def isClaimed (stay : Stay) : Bool :=
  stay.allowed.isSome

/-- How long some stays lasted together. -/
def total (stays : List Stay) : Duration :=
  (stays.map time).sum

theorem total_append (first second : List Stay) :
    total (first ++ second) = total first + total second := by
  unfold total
  rw [List.map_append, List.sum_append]

/-- The stays that ended because somebody claimed the connection. -/
def claims (stays : List Stay) : List Stay :=
  stays.filter isClaimed

theorem claims_append (first second : List Stay) :
    claims (first ++ second) = claims first ++ claims second :=
  List.filter_append first second

end Stay

variable {σ α : Type}

namespace Pool

/-- From `before` to `after` the totals grew by what these stays, so many bad connections
and so many hand-outs come to. Every stay freed the place of a checkout. -/
structure Books (stays : List Stay) (bad granted : Nat) (before after : Pool σ) : Prop where
  checkoutTime : after.counters.checkoutTime = before.counters.checkoutTime + Stay.total stays
  overdueClaims : after.counters.overdueClaims =
    before.counters.overdueClaims + (Stay.claims stays).length
  overdueCheckoutTime : after.counters.overdueCheckoutTime =
    before.counters.overdueCheckoutTime + Stay.total (Stay.claims stays)
  badConnections : after.counters.badConnections = before.counters.badConnections + bad
  requests : after.counters.requests = before.counters.requests + granted
  places : after.active.length + stays.length ≤ before.active.length + granted

theorem Books.trans {first second : List Stay} {bad more granted again : Nat}
    {before mid after : Pool σ} (earlier : Books first bad granted before mid)
    (later : Books second more again mid after) :
    Books (first ++ second) (bad + more) (granted + again) before after where
  checkoutTime := by
    rw [later.checkoutTime, earlier.checkoutTime, Stay.total_append, Nat.add_assoc]
  overdueClaims := by
    rw [later.overdueClaims, earlier.overdueClaims, Stay.claims_append, List.length_append,
      Nat.add_assoc]
  overdueCheckoutTime := by
    rw [later.overdueCheckoutTime, earlier.overdueCheckoutTime, Stay.claims_append,
      Stay.total_append, Nat.add_assoc]
  badConnections := by rw [later.badConnections, earlier.badConnections, Nat.add_assoc]
  requests := by rw [later.requests, earlier.requests, Nat.add_assoc]
  places := by
    have fewer := earlier.places
    have still := later.places
    rw [List.length_append]
    omega

/-- What leaves the totals alone and checks nothing out books nothing. -/
theorem books_of_counters_eq {before after : Pool σ}
    (same : after.counters = before.counters)
    (fewer : after.active.length ≤ before.active.length) : Books [] 0 0 before after :=
  ⟨congrArg _ same, congrArg _ same, congrArg _ same, congrArg _ same, congrArg _ same, fewer⟩

theorem Books.note {stays : List Stay} {bad granted : Nat} {before after : Pool σ}
    (books : Books stays bad granted before after) (event : Event) :
    Books stays bad granted before (after.note event) :=
  ⟨books.checkoutTime, books.overdueClaims, books.overdueCheckoutTime, books.badConnections,
    books.requests, books.places⟩

/-- One more bad connection is one more bad connection. -/
theorem Books.countBad {stays : List Stay} {bad granted : Nat} {before after : Pool σ}
    (books : Books stays bad granted before after) :
    Books stays (bad + 1) granted before after.countBad :=
  ⟨books.checkoutTime, books.overdueClaims, books.overdueCheckoutTime,
    congrArg (· + 1) books.badConnections, books.requests, books.places⟩

theorem Checks.counters {pool after : Pool σ} {w : WrapperId} {result : Except Rejection Unit}
    (checks : Checks w pool result after) : after.counters = pool.counters := by
  cases checks <;> rfl

theorem Checks.books {pool after : Pool σ} {w : WrapperId} {result : Except Rejection Unit}
    (checks : Checks w pool result after) : Books [] 0 0 pool after :=
  books_of_counters_eq checks.counters (Nat.le_of_eq (congrArg _ checks.active))

variable [Driver σ]

/-! ## Acquisitions -/

/-- The stays that a search ends: it takes these checkouts away from their holders. -/
def taken (settings : Settings) (who : Credentials) (pool : Pool σ) : List Stay :=
  (pool.active.filter fun w => decide (w ∉ (pool.nextCandidate settings who).2.active)).map
    fun w =>
      { wrapper := w
        since := pool.checkoutAt w
        upTo := pool.now
        allowed := some settings.policy.maxCheckoutTime }

/-- Whether a search yields a candidate that is bad. -/
def rejects (settings : Settings) (who : Credentials) (pool : Pool σ) : Bool :=
  match pool.nextCandidate settings who with
  | (.ok (.ready w), found) => !(found.vet settings.policy w).1.isOk
  | _ => false

theorem mem_taken {settings : Settings} {who : Credentials} {pool : Pool σ} {stay : Stay} :
    stay ∈ pool.taken settings who ↔ ∃ w, pool.Claims settings who w ∧ stay =
      { wrapper := w
        since := pool.checkoutAt w
        upTo := pool.now
        allowed := some settings.policy.maxCheckoutTime } := by
  simp only [taken, List.mem_map, List.mem_filter, decide_eq_true_eq]
  constructor
  · rintro ⟨w, ⟨listed, gone⟩, rfl⟩
    exact ⟨w, ⟨listed, gone⟩, rfl⟩
  · rintro ⟨w, ⟨listed, gone⟩, rfl⟩
    exact ⟨w, ⟨listed, gone⟩, rfl⟩

theorem filter_not_mem_self (listed : List WrapperId) :
    listed.filter (fun v => decide (v ∉ listed)) = [] := by
  rw [List.filter_eq_nil_iff]
  simp

/-- What a list loses with its first member is that member. -/
theorem filter_not_mem_cons {w : WrapperId} {rest : List WrapperId} (fresh : w ∉ rest) :
    (w :: rest).filter (fun v => decide (v ∉ rest)) = [w] := by
  rw [List.filter_cons_of_pos (by simpa using fresh), filter_not_mem_self]

/-- A search that takes no checkout away ends no stay. -/
theorem taken_eq_nil {settings : Settings} {who : Credentials} {pool found : Pool σ}
    {result : Except PoolError Candidate}
    (search : pool.nextCandidate settings who = (result, found))
    (same : found.active = pool.active) : pool.taken settings who = [] := by
  unfold taken
  rw [search, same, List.map_eq_nil_iff, List.filter_eq_nil_iff]
  simp

/-- A search that takes the oldest checkout away ends its stay. -/
theorem taken_eq_singleton {settings : Settings} {who : Credentials} {pool found : Pool σ}
    {result : Except PoolError Candidate} {w : WrapperId} {rest : List WrapperId}
    (search : pool.nextCandidate settings who = (result, found))
    (active : pool.active = w :: rest) (left : found.active = rest) (fresh : w ∉ rest) :
    pool.taken settings who =
      [{ wrapper := w
         since := pool.checkoutAt w
         upTo := pool.now
         allowed := some settings.policy.maxCheckoutTime }] := by
  unfold taken
  rw [search, left, active, filter_not_mem_cons fresh, List.map_singleton]

/-- A search books the stays that it ends. -/
theorem Owns.books_search {settings : Settings} {who : Credentials} {pool found : Pool σ}
    {result : Except PoolError Candidate} (owns : pool.Owns [])
    (search : pool.nextCandidate settings who = (result, found)) :
    Books (pool.taken settings who) 0 0 pool found := by
  have finds := owns.search search
  have quiet (same : found.active = pool.active) (counted : found.counters = pool.counters) :
      Books (pool.taken settings who) 0 0 pool found := by
    rw [taken_eq_nil search same]
    exact books_of_counters_eq counted (Nat.le_of_eq (congrArg _ same))
  cases finds with
  | idle => exact quiet rfl rfl
  | opened => exact quiet rfl rfl
  | refused => exact quiet rfl rfl
  | noCapacity => exact quiet rfl rfl
  | mustWait => exact quiet rfl rfl
  | @claimed w rest _ _ _ idle active =>
    have fresh : w ∉ rest := by
      have nodup := owns.nodup
      rw [idle, active, List.nil_append, List.append_nil, List.nodup_cons] at nodup
      exact nodup.1
    rw [taken_eq_singleton search active rfl fresh]
    refine ⟨rfl, rfl, rfl, rfl, rfl, ?_⟩
    rw [active]
    exact Nat.le_refl _

/-- A candidate that is rejected is booked as bad. -/
theorem Owns.books_reject {settings : Settings} {who : Credentials} {pool found vetted : Pool σ}
    {w : WrapperId} {rejection : Rejection} (owns : pool.Owns [])
    (search : pool.nextCandidate settings who = (.ok (.ready w), found))
    (vet : found.vet settings.policy w = (.error rejection, vetted)) :
    Books (pool.taken settings who) 1 0 pool
      (vetted.countBad.note (.candidateRejected rejection)) := by
  have checks := ((owns.search search).owns owns).vet vet
  have both := (owns.books_search search).trans checks.books
  rw [List.append_nil] at both
  exact both.countBad.note _

omit [Driver σ] in
theorem books_handOut (pool : Pool σ) (code : Fingerprint) (started : Instant) (w : WrapperId) :
    Books [] 0 1 pool (pool.handOut code started w) := by
  refine ⟨rfl, rfl, rfl, rfl, rfl, Nat.le_of_eq ?_⟩
  exact List.length_append

omit [Driver σ] in
theorem books_fallAsleep (policy : Policy) (acquisition : Acquisition) (pool : Pool σ) :
    Books [] 0 0 pool (pool.fallAsleep policy acquisition).2 := by
  unfold fallAsleep
  cases acquisition.waited with
  | true => exact ⟨rfl, rfl, rfl, rfl, rfl, Nat.le_refl _⟩
  | false => exact ⟨rfl, rfl, rfl, rfl, rfl, Nat.le_refl _⟩

/-- A search that yields no candidate yields no bad one. -/
theorem rejects_of_end {settings : Settings} {who : Credentials} {pool found : Pool σ}
    {result : Except PoolError Candidate}
    (search : pool.nextCandidate settings who = (result, found)) (none : inHand result = []) :
    pool.rejects settings who = false := by
  unfold rejects
  rw [search]
  cases result with
  | error error => rfl
  | ok candidate =>
    cases candidate with
    | mustWait => rfl
    | ready w => cases none

theorem rejects_of_bad {settings : Settings} {who : Credentials} {pool found vetted : Pool σ}
    {w : WrapperId} {rejection : Rejection}
    (search : pool.nextCandidate settings who = (.ok (.ready w), found))
    (vet : found.vet settings.policy w = (.error rejection, vetted)) :
    pool.rejects settings who = true := by
  unfold rejects
  rw [search]
  dsimp only
  rw [vet]
  rfl

theorem rejects_of_good {settings : Settings} {who : Credentials} {pool found vetted : Pool σ}
    {w : WrapperId} (search : pool.nextCandidate settings who = (.ok (.ready w), found))
    (vet : found.vet settings.policy w = (.ok (), vetted)) :
    pool.rejects settings who = false := by
  unfold rejects
  rw [search]
  dsimp only
  rw [vet]
  rfl

/-- An acquisition books the stays that its searches end, the bad candidates that they
yield, and the connection that it gets. -/
theorem Acquires.books {settings : Settings} {acquisition : Acquisition} {budget : Nat}
    {pool after : Pool σ} {progress : Progress}
    (acquires : Acquires settings acquisition budget pool progress after)
    (owns : pool.Owns []) :
    Books
      ((pool.searches settings acquisition budget).flatMap (taken settings acquisition.who))
      ((pool.searches settings acquisition budget).countP (rejects settings acquisition.who))
      progress.grant.length pool after := by
  induction acquires with
  | @failed acquisition budget pool after error search =>
    rw [searches_of_end budget search rfl, List.flatMap_singleton, List.countP_singleton,
      rejects_of_end search rfl]
    exact owns.books_search search
  | @asleep acquisition budget pool found search =>
    rw [searches_of_end budget search rfl, List.flatMap_singleton, List.countP_singleton,
      rejects_of_end search rfl]
    have both := (owns.books_search search).trans
      (books_fallAsleep settings.policy acquisition found)
    rwa [List.append_nil] at both
  | @granted acquisition budget pool found vetted w search vet =>
    have checks := ((owns.search search).owns owns).vet vet
    rw [searches_of_good budget search vet, List.flatMap_singleton, List.countP_singleton,
      rejects_of_good search vet]
    have all := ((owns.books_search search).trans checks.books).trans
      (vetted.books_handOut (settings.source.fingerprintFor acquisition.who)
        acquisition.started w)
    rwa [List.append_nil, List.append_nil] at all
  | gaveUp search vet =>
    rw [searches_of_one_too_many search vet, List.flatMap_singleton, List.countP_singleton,
      rejects_of_bad search vet]
    exact (owns.books_reject search vet).note _
  | @again acquisition budget pool _ _ _ _ _ _ search vet _ ih =>
    have all := (owns.books_reject search vet).trans (ih (owns.reject search vet).1)
    rw [Nat.add_comm 1, Nat.zero_add] at all
    rwa [searches_of_bad budget search vet, List.flatMap_cons,
      List.countP_cons_of_pos (rejects_of_bad search vet)]

theorem Owns.books_acquire {pool : Pool σ} (owns : pool.Owns []) (settings : Settings)
    (acquisition : Acquisition) :
    Books ((pool.lookups settings acquisition).flatMap (taken settings acquisition.who))
      ((pool.lookups settings acquisition).countP (rejects settings acquisition.who))
      (pool.acquire settings acquisition).1.grant.length pool
      (pool.acquire settings acquisition).2 := by
  rcases lookups_cases settings acquisition pool with ⟨none, refused⟩ | ⟨searched, acquires⟩
  · rw [refused, none]
    exact books_of_counters_eq rfl (Nat.le_refl _)
  · rw [searched]
    exact acquires.books owns

/-! ## Giving back -/

/-- Whether a connection that is given back is good: nobody has taken it away, and it
passes its check. -/
def isGood (policy : Policy) (w : WrapperId) (pool : Pool σ) : Bool :=
  pool.isValid w && (pool.check policy w).1.isOk

/-- The stay that ends when a connection is given back. The stay of a bad connection does
not count. -/
def givenBack (policy : Policy) (w : WrapperId) (pool : Pool σ) : List Stay :=
  if pool.isGood policy w then
    [{ wrapper := w
       since := pool.checkoutAt w
       upTo := (pool.check policy w).2.now
       allowed := none }]
  else []

/-- A check does not look at the checkouts. -/
theorem check_relist (policy : Policy) (w : WrapperId) (active : List WrapperId)
    (pool : Pool σ) :
    Pool.check policy w { pool with active := active } =
      ((pool.check policy w).1, { (pool.check policy w).2 with active := active }) := by
  have disposed (pool : Pool σ) (ending : ConnId → Exchange σ Unit)
      (complaint : ConnectionError → Event) :
      Pool.dispose w ending complaint { pool with active := active } =
        { pool.dispose w ending complaint with active := active } := by
    unfold dispose invalidate
    dsimp only
    cases pool.wrappers[w]?.bind Wrapper.slot <;> rfl
  have worked (work : ConnId → Exchange σ Unit) :
      Pool.withConnection w work { pool with active := active } =
        ((pool.withConnection w work).1,
          { (pool.withConnection w work).2 with active := active }) := by
    unfold withConnection
    rw [show Pool.reach { pool with active := active } w = pool.reach w from rfl]
    cases pool.reach w <;> rfl
  unfold check
  dsimp only
  rw [show Pool.realId { pool with active := active } w = pool.realId w from rfl,
    show Pool.pingQuery policy w { pool with active := active } = pool.pingQuery policy w from rfl,
    worked]
  cases pool.withConnection w
      (Exchange.checkAlive (pool.realId w) (pool.pingQuery policy w)) with
  | mk outcome after =>
    cases outcome with
    | ok _ => rfl
    | error cause =>
      dsimp only
      rw [disposed]
      rfl

/-- Putting a connection away books nothing. -/
theorem Holds.books_putAway {pool : Pool σ} {w : WrapperId} {wrapper : Wrapper} {conn : ConnId}
    (holds : pool.Holds w wrapper conn) (policy : Policy) :
    Books [] 0 0 pool (pool.putAway policy w) :=
  books_of_counters_eq (holds.counters_putAway policy)
    (Nat.le_of_eq (congrArg _ (holds.putAway policy).active))

/-- The pool in which the checkout of the wrapper `w` has ended and its time was taken, after
the connection passed its check. -/
def tallied (policy : Policy) (w : WrapperId) (pool : Pool σ) : Pool σ :=
  let checked := (pool.check policy w).2
  Pool.count (fun c => { c with checkoutTime := c.checkoutTime + checked.checkoutTime w })
    { checked with active := pool.active.erase w }

/-- How giving back a connection goes on depends on whether it is good: a good one is put
away, and a bad one is refused. -/
theorem Owns.release_eq {pool : Pool σ} (owns : pool.Owns []) (policy : Policy) {w : WrapperId}
    (busy : w ∉ pool.idle) :
    (pool.isGood policy w = false ∧ ∃ left : Pool σ, left.counters = pool.counters ∧
      left.active = pool.active.erase w ∧ pool.release policy w = left.refuse w) ∨
    (pool.isGood policy w = true ∧ w ∈ pool.active ∧
      (∃ env, pool.env.Talks env ∧ pool.check policy w = (.ok (), { pool with env := env })) ∧
      (∃ wrapper conn, (pool.tallied policy w).Holds w wrapper conn) ∧
      pool.release policy w = (pool.tallied policy w).putAway policy w) := by
  unfold isGood tallied
  cases valid : pool.isValid w with
  | false =>
    rcases owns.release_cases policy w with ⟨-, same⟩ | ⟨other, -⟩
    · exact .inl ⟨rfl, { pool with active := pool.active.erase w }, rfl, rfl, same⟩
    · rw [valid] at other
      cases other
  | true =>
    obtain ⟨wrapper, conn, holds⟩ := owns.toCoherent.exists_holds valid
    have stillValid : Pool.isValid { pool with active := pool.active.erase w } w = true := valid
    have checks := check_checks policy holds
    unfold Pool.release
    dsimp only
    rw [if_pos stillValid, check_relist policy w (pool.active.erase w) pool]
    cases run : pool.check policy w with
    | mk outcome checked =>
      rw [run] at checks
      cases checks with
      | bad =>
        refine .inl ⟨rfl, _, ?_, ?_, rfl⟩
        · rfl
        · rfl
      | good talks =>
        exact .inr ⟨rfl, owns.mem_active valid busy, ⟨_, talks, rfl⟩,
          ⟨wrapper, conn, holds.found, holds.valid, holds.held⟩, rfl⟩

/-- A connection that is given back ends its stay if it is good, and is booked as bad if it
is not. -/
theorem Owns.books_release {pool : Pool σ} (owns : pool.Owns []) (policy : Policy)
    {w : WrapperId} (busy : w ∉ pool.idle) :
    Books (pool.givenBack policy w) (if pool.isGood policy w then 0 else 1) 0 pool
      (pool.release policy w) := by
  unfold givenBack
  rcases owns.release_eq policy busy with
    ⟨bad, left, same, active, refused⟩ | ⟨good, listed, ⟨_, -, checked⟩, ⟨_, _, holds⟩, put⟩
  · have fewer : left.active.length ≤ pool.active.length := active ▸ List.length_erase_le
    rw [bad, refused]
    exact (books_of_counters_eq same fewer).countBad.note _
  · have ended : Books
        [{ wrapper := w
           since := pool.checkoutAt w
           upTo := (pool.check policy w).2.now
           allowed := none }] 0 0 pool (pool.tallied policy w) := by
      have shorter := List.length_erase_of_mem listed
      have some := List.length_pos_of_mem listed
      have places : (pool.active.erase w).length + 1 ≤ pool.active.length := by omega
      unfold tallied
      rw [checked]
      exact ⟨rfl, rfl, rfl, rfl, rfl, places⟩
    rw [good, put]
    exact ended.trans (holds.books_putAway policy)

/-! ## Everything else -/

omit [Driver σ] in
theorem books_touch (pool : Pool σ) (w : WrapperId) : Books [] 0 0 pool (pool.touch w) :=
  books_of_counters_eq rfl (Nat.le_refl _)

omit [Driver σ] in
/-- What a holder does with its connection books nothing. -/
theorem books_withConnection (pool : Pool σ) (w : WrapperId) (work : ConnId → Exchange σ α) :
    Books [] 0 0 pool ((pool.withConnection w work).2.touch w) := by
  unfold withConnection
  cases pool.reach w with
  | none => exact pool.books_touch w
  | some conn => exact books_of_counters_eq rfl (Nat.le_refl _)

/-- What is closed by force does not count. -/
theorem Owns.books_forceCloseAll {pool : Pool σ} (owns : pool.Owns []) (source : DataSource) :
    Books [] 0 0 pool (pool.forceCloseAll source) := by
  apply books_of_counters_eq (pool.forceCloseAll_same source).1
  rw [(owns.drains source).active]
  exact Nat.zero_le _

end Pool

namespace World

variable [Driver σ]

/-! ## Steps -/

/-- The stays that end in a step: an acquisition claims connections, and a holder gives its
connection back. -/
def stays (step : Step σ) (world : World σ) : List Stay :=
  ((world.asks step).elim [] fun who =>
    (world.searches step).flatMap (Pool.taken world.settings who)) ++
  (step.returns.bind world.checkout).elim [] fun w =>
    world.pool.givenBack world.settings.policy w

/-- How many candidates are rejected in a step. -/
def rejections (step : Step σ) (world : World σ) : Nat :=
  (world.asks step).elim 0 fun who =>
    (world.searches step).countP (Pool.rejects world.settings who)

/-- How many connections are given back in a step and found bad, because somebody has taken
them away or because they fail their check. -/
def refusals (step : Step σ) (world : World σ) : Nat :=
  (step.returns.bind world.checkout).elim 0 fun w =>
    if world.pool.isGood world.settings.policy w then 0 else 1

/-- How far the acquisition gets that is under way in a step. -/
def progress (step : Step σ) (world : World σ) : Option Progress :=
  match step with
  | .act (.acquire who) =>
      some (world.pool.acquire world.settings
        { who := who.getD world.settings.source.who, started := world.pool.now }).1
  | .wake place => world.sleepers[place]?.map fun sleeper =>
      ((world.roused place sleeper).pool.acquire world.settings sleeper.acquisition).1
  | _ => none

/-- How many connections are handed out in a step. -/
def grants (step : Step σ) (world : World σ) : Nat :=
  (world.progress step).elim 0 fun progress => progress.grant.length

/-- A step books the stays that end in it, the candidates that it rejects, the connections
that it refuses, and those that it hands out. -/
def Books (step : Step σ) (world after : World σ) : Prop :=
  Pool.Books (world.stays step) (world.rejections step + world.refusals step)
    (world.grants step) world.pool after.pool

/-- An operation that neither looks for a connection nor gives one back books nothing. -/
theorem Operates.books {step : Step σ} {world : World σ} {pool : Pool σ}
    (operates : Operates step world pool) (orderly : world.Orderly)
    (quiet : world.asks step = Option.none)
    (kept : step.returns.bind world.checkout = Option.none) :
    Pool.Books [] 0 0 world.pool pool := by
  cases operates with
  | none => exact Pool.books_of_counters_eq rfl (Nat.le_refl _)
  | begun begins =>
    subst begins
    cases quiet
  | woken wakes found =>
    subst wakes
    simp [World.asks, found] at quiet
  | used => exact Pool.books_withConnection _ _ _
  | returned returns out => simp [returns, out] at kept
  | emptied => exact orderly.owns.books_forceCloseAll _
  | shut =>
    have closed : Pool.Owns [] { world.pool with closed := true } := orderly.owns.relist (.refl _)
    have books := (closed.books_forceCloseAll world.settings.source).note .poolClosed
    exact ⟨books.checkoutTime, books.overdueClaims, books.overdueCheckoutTime,
      books.badConnections, books.requests, books.places⟩
  | aside => exact Pool.books_of_counters_eq rfl (Nat.le_refl _)

/-- Giving up a pool that nobody can reach books nothing. -/
theorem Ends.books {stays : List Stay} {bad granted : Nat} {world : World σ}
    {before pool after : Pool σ} (ends : Ends world pool after)
    (books : Pool.Books stays bad granted before pool) :
    Pool.Books stays bad granted before after := by
  cases ends with
  | reached same => exact same ▸ books
  | abandoned owns ended =>
    have all := books.trans (owns.books_forceCloseAll world.settings.source)
    rw [List.append_nil] at all
    exact ended ▸ all

omit [Driver σ] in
/-- Who asks for a connection gives none back. -/
theorem returns_of_asks {step : Step σ} {world : World σ} {who : Credentials}
    (asks : world.asks step = some who) : step.returns = none := by
  unfold World.asks at asks
  split at asks
  · rfl
  · rfl
  · cases asks

/-- The operation by which a handle that was not given back is given back. -/
theorem giveBack_of_checkout {world : World σ} {h : HandleId} {w : WrapperId}
    (out : world.checkout h = some w) (stage : Stage) :
    (world.giveBack h stage).2.pool = world.pool.release world.settings.policy w := by
  obtain ⟨handle, found, held, rfl⟩ := checkout_eq_some.1 out
  unfold World.giveBack
  rw [found]
  dsimp only
  rw [if_pos held]

/-- A step that gives a handle back lets the pool take its connection back, after which the
pool may be given up. -/
theorem Orderly.ends_release {world : World σ} (orderly : world.Orderly) {step : Step σ}
    {w : WrapperId} (returned : step.returns.bind world.checkout = some w) :
    Ends world (world.pool.release world.settings.policy w) (world.take step).pool := by
  obtain ⟨h, returns, out⟩ := Option.bind_eq_some_iff.1 returned
  unfold Step.returns at returns
  split at returns
  · cases returns
    exact .reached (giveBack_of_checkout out .closed)
  · cases returns
    have given := orderly.giveBack h .dropped
    have settings : (world.giveBack h .dropped).2.settings = world.settings :=
      (orderly.moves_giveBack (world.errand (.act (.drop h))) rfl .dropped).2
    have ends := given.ends_tearDown settings
    rwa [giveBack_of_checkout out] at ends
  · cases returns

/-- The pool after the time that somebody slept was counted. -/
def waitedFor (slept : Duration) (pool : Pool σ) : Pool σ :=
  pool.count fun c => { c with waitTime := c.waitTime + slept }

/-- What an acquisition does in the step in which it goes on, after which the pool may be
given up. -/
theorem Orderly.ends_acquire {world : World σ} (orderly : world.Orderly) {step : Step σ}
    {who : Credentials} (asks : world.asks step = some who) :
    ∃ (slept : Duration) (acquisition : Acquisition), acquisition.who = who ∧
      world.searches step =
        (waitedFor slept world.pool).lookups world.settings acquisition ∧
      world.progress step =
        some ((waitedFor slept world.pool).acquire world.settings acquisition).1 ∧
      Ends world ((waitedFor slept world.pool).acquire world.settings acquisition).2
        (world.take step).pool := by
  cases step with
  | wake place =>
    cases found : world.sleepers[place]? with
    | none => simp [World.asks, found] at asks
    | some sleeper =>
      have woken := (orderly.roused place sleeper).proceed sleeper.ticket sleeper.acquisition
      obtain ⟨pool, settings⟩ := (world.roused place sleeper).proceed_frame sleeper.ticket
        sleeper.acquisition
      have ends : Ends world _ _ := woken.ends_tearDown settings
      rw [pool] at ends
      refine ⟨world.pool.now - sleeper.since, sleeper.acquisition, ?_, ?_, ?_, ?_⟩
      · simpa [World.asks, found] using asks
      · simp only [searches, found]
        rfl
      · simp only [progress, found, Option.map_some]
        rfl
      · show Ends world _ (world.wakeAt place).pool
        rw [wakeAt_eq found]
        exact ends
  | act action =>
    cases action with
    | acquire asked =>
      cases asks
      refine ⟨0, _, rfl, rfl, rfl, .reached ?_⟩
      show (world.acquire (asked.getD world.settings.source.who)).2.pool = _
      rw [acquire_eq, (proceed_frame _ _ _).1]
      rfl
    | _ => cases asks

/-- In a step in which nobody asks for a connection, no acquisition is under way. -/
theorem progress_of_quiet {step : Step σ} {world : World σ} (quiet : world.asks step = none) :
    world.progress step = none := by
  cases step with
  | wake place =>
    rw [World.asks, Option.map_eq_none_iff] at quiet
    rw [progress, quiet, Option.map_none]
  | act action =>
    cases action with
    | acquire => cases quiet
    | _ => rfl

/-- Every step books what it does. -/
theorem Sound.books {world : World σ} (sound : world.Sound) (step : Step σ) :
    Books step world (world.take step) := by
  have orderly := sound.toOrderly
  unfold Books stays rejections refusals grants
  cases asks : world.asks step with
  | some who =>
    obtain ⟨slept, acquisition, rfl, searches, progress, ends⟩ := orderly.ends_acquire asks
    have waited : Pool.Books [] 0 0 world.pool (waitedFor slept world.pool) :=
      ⟨rfl, rfl, rfl, rfl, rfl, Nat.le_refl _⟩
    have owns : (waitedFor slept world.pool).Owns [] := orderly.owns.count _
    have all := ends.books (waited.trans (owns.books_acquire world.settings acquisition))
    rw [Nat.zero_add, Nat.zero_add] at all
    rw [returns_of_asks asks, searches, progress]
    simpa using all
  | none =>
    rw [progress_of_quiet asks]
    cases returned : step.returns.bind world.checkout with
    | none =>
      obtain ⟨pool, operates, ends⟩ := orderly.operates step
      exact ends.books (operates.books orderly asks returned)
    | some w =>
      obtain ⟨h, -, out⟩ := Option.bind_eq_some_iff.1 returned
      have books := orderly.owns.books_release world.settings.policy
        (orderly.busy_of_checkout out)
      have all := (orderly.ends_release returned).books books
      simpa using all

/-! ## Runs -/

/-- The stays that ended in the steps of a run, the earliest first. -/
def ledger : List (World σ × Step σ) → List Stay
  | [] => []
  | (world, step) :: past => ledger past ++ world.stays step

/-- What something that is counted in each step comes to in all steps of a run. -/
def tally (count : Step σ → World σ → Nat) : List (World σ × Step σ) → Nat
  | [] => 0
  | (world, step) :: past => tally count past + count step world

theorem Leads.books {first last : World σ} {past : List (World σ × Step σ)}
    (leads : first.Leads past last) (sound : first.Sound) :
    Pool.Books (ledger past) (tally rejections past + tally refusals past) (tally grants past)
      first.pool last.pool := by
  induction leads with
  | refl => exact Pool.books_of_counters_eq rfl (Nat.le_refl _)
  | step earlier step _ ih =>
    have both := ih.trans ((earlier.sound sound).books step)
    rwa [Nat.add_add_add_comm] at both

end World

end ConnectionPooling
