/-
# How long a call keeps trying

A call that rejects a candidate looks for another one. This module bounds how often. A
rejected candidate was one of the connections that the pool answers for, so that the pool
has room for another one from then on: every later search finds one idle or may open one,
and none has to wait or takes a checkout away. A call that slept has therefore rejected
nothing yet, whatever the limits were when it fell asleep, and the limit in force when it
rejects its first candidate is the limit for the whole call.

The limit is a sum of two machine words. If it wraps around, a call gives up all the sooner,
so the bounds hold in any case; at which number exactly it gives up is told for a sum that
does not overflow.

`Perseveres` says this of a call in a run. How long the driver takes for an answer is not
bounded here, only how often it is asked for a connection.
-/

import ConnectionPooling.Proofs.Calls

namespace ConnectionPooling

variable {σ : Type} [Driver σ]

namespace Pool

variable {settings : Settings} {acquisition : Acquisition} {budget : Nat} {pool after : Pool σ}
  {progress : Progress}

/-! ## Room for another connection -/

/-- With room for another connection a search yields a candidate or cannot open one, and it
leaves the checkouts as they are. -/
theorem Finds.of_room {who : Credentials} {result : Except PoolError Candidate}
    (finds : Finds settings who pool result after)
    (room : pool.load < settings.policy.maxActive) :
    after.active = pool.active ∧ ((∃ w, result = .ok (.ready w)) ∨
      ∃ error, result = .error (.connectFailure settings.source.url error)) := by
  unfold Pool.load at room
  cases finds with
  | idle => exact ⟨rfl, .inl ⟨_, rfl⟩⟩
  | opened => exact ⟨rfl, .inl ⟨_, rfl⟩⟩
  | refused => exact ⟨rfl, .inr ⟨_, rfl⟩⟩
  | noCapacity _ _ full => omega
  | mustWait _ _ full => omega
  | claimed _ _ full => omega

/-- A rejected candidate leaves room for another connection. -/
theorem Owns.room_reject {who : Credentials} {found vetted : Pool σ} {w : WrapperId}
    {rejection : Rejection} (owns : pool.Owns [])
    (fits : pool.load ≤ settings.policy.maxActive)
    (search : pool.nextCandidate settings who = (.ok (.ready w), found))
    (vet : found.vet settings.policy w = (.error rejection, vetted)) :
    (vetted.countBad.note (.candidateRejected rejection)).load < settings.policy.maxActive := by
  have finds := owns.search search
  have checks := (finds.owns owns).vet vet
  have kept : (vetted.countBad.note (.candidateRejected rejection)).load = found.load :=
    congrArg₂ (· + ·) (congrArg _ checks.idle) (congrArg _ checks.active)
  rw [kept]
  exact finds.load fits

/-- With room for another connection, a search and the check of its candidate leave the
checkouts as they are. -/
theorem Owns.active_vetted {who : Credentials} {found vetted : Pool σ} {w : WrapperId}
    {outcome : Except Rejection Unit} (owns : pool.Owns [])
    (room : pool.load < settings.policy.maxActive)
    (search : pool.nextCandidate settings who = (.ok (.ready w), found))
    (vet : found.vet settings.policy w = (outcome, vetted)) : vetted.active = pool.active := by
  have finds := owns.search search
  exact ((finds.owns owns).vet vet).active.trans (finds.of_room room).1

/-- What an acquisition comes to that has room for another connection all the time: it is
not left to wait, it takes no checkout away, and it is not turned away before it has rejected
too many. -/
structure Unhindered (settings : Settings) (progress : Progress) (searches : List (Pool σ))
    (pool after : Pool σ) : Prop where
  awake : ∀ again, progress ≠ .asleep again
  active : after.active = pool.active ++ progress.grant
  exhausted : ∀ reason, progress = .failed (.exhausted reason) →
    ∃ bad rejection, reason = .tooManyBad bad rejection
  room : ∀ found ∈ searches, found.load < settings.policy.maxActive

theorem Acquires.unhindered (acquires : Acquires settings acquisition budget pool progress after)
    (owns : pool.Owns []) (room : pool.load < settings.policy.maxActive) :
    Unhindered settings progress (pool.searches settings acquisition budget) pool after := by
  induction acquires with
  | @failed acquisition budget pool after error search =>
    obtain ⟨active, ⟨w, candidate⟩ | ⟨cause, failure⟩⟩ := (owns.search search).of_room room
    · cases candidate
    · cases failure
      rw [searches_of_end budget search rfl]
      refine ⟨?_, ?_, ?_, List.forall_mem_singleton.2 room⟩
      · rintro again ⟨⟩
      · exact active.trans (List.append_nil _).symm
      · rintro reason ⟨⟩
  | asleep search =>
    obtain ⟨-, ⟨w, candidate⟩ | ⟨cause, failure⟩⟩ := (owns.search search).of_room room
    · cases candidate
    · cases failure
  | @granted _ budget _ _ _ w search vet =>
    have same := owns.active_vetted room search vet
    rw [searches_of_good budget search vet]
    refine ⟨?_, ?_, ?_, List.forall_mem_singleton.2 room⟩
    · rintro again ⟨⟩
    · exact congrArg (· ++ [w]) same
    · rintro reason ⟨⟩
  | gaveUp search vet =>
    have same := owns.active_vetted room search vet
    rw [searches_of_one_too_many search vet]
    refine ⟨?_, ?_, ?_, List.forall_mem_singleton.2 room⟩
    · rintro again ⟨⟩
    · exact same.trans (List.append_nil _).symm
    · rintro reason ⟨⟩
      exact ⟨_, _, rfl⟩
  | @again _ budget _ _ _ _ _ _ progress search vet _ ih =>
    have same := owns.active_vetted room search vet
    have rest := ih (owns.reject search vet).1 (owns.room_reject (Nat.le_of_lt room) search vet)
    have active := rest.active.trans (congrArg (· ++ progress.grant) same)
    rw [searches_of_bad budget search vet]
    exact ⟨rest.awake, active, rest.exhausted, List.forall_mem_cons.2 ⟨room, rest.room⟩⟩

/-! ## A whole acquisition -/

/-- An acquisition makes no more searches than it may reject candidates, one of them
included that is one too many. -/
theorem Acquires.length_searches_le
    (acquires : Acquires settings acquisition budget pool progress after) :
    (pool.searches settings acquisition budget).length ≤ budget + 1 := by
  induction acquires with
  | @failed _ budget _ _ _ search =>
    rw [searches_of_end budget search rfl]
    exact Nat.le_add_left 1 budget
  | @asleep _ budget _ _ search =>
    rw [searches_of_end budget search rfl]
    exact Nat.le_add_left 1 budget
  | @granted _ budget _ _ _ _ search vet =>
    rw [searches_of_good budget search vet]
    exact Nat.le_add_left 1 budget
  | gaveUp search vet =>
    rw [searches_of_one_too_many search vet]
    exact Nat.le_refl 1
  | @again _ budget _ _ _ _ _ _ _ search vet _ ih =>
    rw [searches_of_bad budget search vet]
    exact Nat.succ_le_succ ih

/-- An acquisition gives up over bad candidates exactly if it has rejected one more than it
may, and it reports how many that were. -/
theorem Acquires.gaveUp_iff (acquires : Acquires settings acquisition budget pool progress after)
    (owns : pool.Owns []) (bad : Nat) :
    (∃ rejection, progress = .failed (.exhausted (.tooManyBad bad rejection))) ↔
      (pool.searches settings acquisition budget).countP (rejects settings acquisition.who) =
        budget + 1 ∧ bad = acquisition.rejected + (budget + 1) := by
  induction acquires with
  | @failed acquisition budget pool after error search =>
    rw [searches_of_end budget search rfl, List.countP_singleton, rejects_of_end search rfl]
    constructor
    · rintro ⟨rejection, ⟨⟩⟩
      cases owns.search search
    · rintro ⟨few, -⟩
      simp at few
  | @asleep acquisition budget pool found search =>
    rw [searches_of_end budget search rfl, List.countP_singleton, rejects_of_end search rfl]
    constructor
    · rintro ⟨rejection, ⟨⟩⟩
    · rintro ⟨few, -⟩
      simp at few
  | @granted _ budget _ _ _ _ search vet =>
    rw [searches_of_good budget search vet, List.countP_singleton, rejects_of_good search vet]
    constructor
    · rintro ⟨rejection, ⟨⟩⟩
    · rintro ⟨few, -⟩
      simp at few
  | @gaveUp acquisition _ _ _ _ rejection search vet =>
    rw [searches_of_one_too_many search vet, List.countP_singleton, rejects_of_bad search vet]
    constructor
    · rintro ⟨_, ⟨⟩⟩
      exact ⟨rfl, rfl⟩
    · rintro ⟨-, rfl⟩
      exact ⟨rejection, rfl⟩
  | @again acquisition budget _ _ _ _ _ _ _ search vet _ ih =>
    rw [searches_of_bad budget search vet, List.countP_cons_of_pos (rejects_of_bad search vet),
      ih (owns.reject search vet).1]
    dsimp only
    omega

/-- What an acquisition does apart from rejecting candidates, it does in its first search:
only there may it fall asleep, or find that no connection may be checked out at all. -/
structure Tries (settings : Settings) (acquisition : Acquisition) (progress : Progress)
    (searches : List (Pool σ)) (pool : Pool σ) : Prop where
  later : ∀ found ∈ searches.tail, found.load < settings.policy.maxActive
  asleep : ∀ again, progress = .asleep again →
    again.rejected = acquisition.rejected ∧ searches = [pool] ∧
      pool.nextCandidate settings acquisition.who = (.ok .mustWait, pool)
  exhausted : ∀ reason, progress = .failed (.exhausted reason) →
    (∃ bad rejection, reason = .tooManyBad bad rejection) ∨
      (reason = .noCapacity settings.policy.maxActive ∧ settings.policy.maxActive = 0)

theorem Acquires.tries (acquires : Acquires settings acquisition budget pool progress after)
    (owns : pool.Owns []) (fits : pool.load ≤ settings.policy.maxActive) :
    Tries settings acquisition progress (pool.searches settings acquisition budget) pool := by
  cases acquires with
  | failed search =>
    rw [searches_of_end budget search rfl]
    refine ⟨by simp, ?_, ?_⟩
    · rintro again ⟨⟩
    · rintro reason ⟨⟩
      cases owns.search search with
      | noCapacity _ _ full => exact .inr ⟨rfl, full⟩
  | @asleep _ _ _ found search =>
    obtain rfl := nextCandidate_mustWait search
    rw [searches_of_end budget search rfl]
    refine ⟨by simp, ?_, ?_⟩
    · rintro again ⟨⟩
      exact ⟨rfl, rfl, search⟩
    · rintro reason ⟨⟩
  | granted search vet =>
    rw [searches_of_good budget search vet]
    refine ⟨by simp, ?_, ?_⟩
    · rintro again ⟨⟩
    · rintro reason ⟨⟩
  | gaveUp search vet =>
    rw [searches_of_one_too_many search vet]
    refine ⟨by simp, ?_, ?_⟩
    · rintro again ⟨⟩
    · rintro reason ⟨⟩
      exact .inl ⟨_, _, rfl⟩
  | again search vet rest =>
    -- From here on there is room for another connection.
    have later := rest.unhindered (owns.reject search vet).1 (owns.room_reject fits search vet)
    rw [searches_of_bad _ search vet]
    refine ⟨later.room, ?_, ?_⟩
    · exact fun again asleep => absurd asleep (later.awake again)
    · exact fun reason exhausted => .inl (later.exhausted reason exhausted)

theorem Owns.tries_acquire (owns : pool.Owns []) (fits : pool.load ≤ settings.policy.maxActive)
    (acquisition : Acquisition) :
    Tries settings acquisition (pool.acquire settings acquisition).1
      (pool.lookups settings acquisition) pool := by
  rcases lookups_cases settings acquisition pool with ⟨none, refused⟩ | ⟨searched, acquires⟩
  · rw [none, refused]
    refine ⟨by simp, ?_, ?_⟩
    · rintro again ⟨⟩
    · intro reason exhausted
      cases waited : acquisition.waited <;> simp [waited] at exhausted
  · rw [searched]
    exact acquires.tries owns fits

theorem length_lookups_le (settings : Settings) (acquisition : Acquisition) (pool : Pool σ) :
    (pool.lookups settings acquisition).length ≤
      settings.policy.badConnectionLimit - acquisition.rejected + 1 := by
  rcases lookups_cases settings acquisition pool with ⟨none, -⟩ | ⟨searched, acquires⟩
  · rw [none]
    exact Nat.zero_le _
  · rw [searched]
    exact acquires.length_searches_le

theorem Owns.acquire_gaveUp_iff (owns : pool.Owns []) (settings : Settings)
    (acquisition : Acquisition) (bad : Nat) :
    (∃ rejection, (pool.acquire settings acquisition).1 =
        .failed (.exhausted (.tooManyBad bad rejection))) ↔
      (pool.lookups settings acquisition).countP (rejects settings acquisition.who) =
        settings.policy.badConnectionLimit - acquisition.rejected + 1 ∧
      bad = acquisition.rejected +
        (settings.policy.badConnectionLimit - acquisition.rejected + 1) := by
  rcases lookups_cases settings acquisition pool with ⟨none, refused⟩ | ⟨searched, acquires⟩
  · rw [none, refused]
    cases acquisition.waited <;> simp
  · rw [searched]
    exact acquires.gaveUp_iff owns bad

/-! ## Checkouts that are taken away -/

/-- A search takes at most one checkout away. -/
theorem Owns.length_taken_le (owns : pool.Owns []) (settings : Settings) (who : Credentials) :
    (pool.taken settings who).length ≤ 1 := by
  have oldest : (pool.taken settings who).map Stay.wrapper ⊆ pool.active.head?.toList := by
    intro w listed
    obtain ⟨stay, taken, rfl⟩ := List.mem_map.1 listed
    obtain ⟨w, claims, rfl⟩ := mem_taken.1 taken
    obtain ⟨-, ⟨rest, active⟩, -⟩ := owns.claims_cases claims
    simp [active]
  calc (pool.taken settings who).length
      = ((pool.taken settings who).map Stay.wrapper).length := (List.length_map _).symm
    _ ≤ pool.active.head?.toList.length :=
        (owns.nodup_taken settings who).length_le_of_subset oldest
    _ ≤ 1 := by cases pool.active.head? <;> simp

/-- With room for another connection a search takes no checkout away. -/
theorem Owns.not_claims_of_room (owns : pool.Owns [])
    (room : pool.load < settings.policy.maxActive) (who : Credentials) (w : WrapperId) :
    ¬ pool.Claims settings who w := by
  intro claims
  have finds := search_finds owns settings who
  exact claims.after ((finds.of_room room).1 ▸ claims.before)

theorem Owns.taken_of_room (owns : pool.Owns []) (room : pool.load < settings.policy.maxActive)
    (who : Credentials) : pool.taken settings who = [] := by
  rw [List.eq_nil_iff_forall_not_mem]
  intro stay taken
  obtain ⟨w, claims, -⟩ := mem_taken.1 taken
  exact owns.not_claims_of_room room who w claims

/-- An acquisition takes at most one checkout away, because there is room for another connection
after its first search. -/
theorem length_flatMap_taken_le {searches : List (Pool σ)} (who : Credentials)
    (owns : ∀ found ∈ searches, found.Owns [])
    (later : ∀ found ∈ searches.tail, found.load < settings.policy.maxActive) :
    (searches.flatMap (taken settings who)).length ≤ 1 := by
  cases searches with
  | nil => exact Nat.zero_le _
  | cons first rest =>
    have none : rest.flatMap (taken settings who) = [] := by
      rw [List.flatMap_eq_nil_iff]
      exact fun found listed =>
        (owns found (List.mem_cons_of_mem _ listed)).taken_of_room (later found listed) who
    rw [List.flatMap_cons, none, List.append_nil]
    exact (owns first List.mem_cons_self).length_taken_le settings who

end Pool

namespace World

variable {step : Step σ} {world : World σ} {ticket : Ticket} {acquisition : Acquisition}

/-! ## Steps -/

theorem rejections_of_call (called : world.call step = some (ticket, acquisition)) :
    world.rejections step =
      ((world.ready step).pool.lookups world.settings acquisition).countP
        (Pool.rejects world.settings acquisition.who) := by
  rw [rejections, asks_of_call called, Option.elim_some, searches_of_call called]

theorem stays_of_call (called : world.call step = some (ticket, acquisition)) :
    world.stays step =
      ((world.ready step).pool.lookups world.settings acquisition).flatMap
        (Pool.taken world.settings acquisition.who) := by
  rw [stays_of_asks (asks_of_call called), searches_of_call called]

theorem Orderly.tries_call (orderly : world.Orderly)
    (called : world.call step = some (ticket, acquisition)) :
    Pool.Tries world.settings acquisition
      ((world.ready step).pool.acquire world.settings acquisition).1 (world.searches step)
      (world.ready step).pool := by
  have settings := (ready_frame step world).2.1
  have ready := orderly.ready step
  rw [searches_of_call called, ← settings]
  exact ready.owns.tries_acquire ready.load acquisition

/-- A call that falls asleep has rejected nothing and taken nothing away. -/
theorem Orderly.of_asleep (orderly : world.Orderly)
    (called : world.call step = some (ticket, acquisition)) {again : Acquisition}
    (asleep : world.progress step = some (.asleep again)) :
    again.rejected = acquisition.rejected ∧ world.rejections step = 0 ∧
      world.stays step = [] := by
  rw [progress_of_call called] at asleep
  obtain ⟨same, searches, waits⟩ :=
    (orderly.tries_call called).asleep again (Option.some.inj asleep)
  rw [searches_of_call called] at searches
  rw [rejections_of_call called, stays_of_call called, searches, List.countP_singleton,
    List.flatMap_singleton, Pool.rejects_of_end waits rfl, Pool.taken_eq_nil waits rfl]
  exact ⟨same, rfl, rfl⟩

/-- Whoever sleeps has not rejected any candidate. -/
theorem Reachable.unspent {settings : Settings} {driver : σ}
    (reachable : Reachable settings driver world) :
    ∀ sleeper ∈ world.sleepers, sleeper.acquisition.rejected = 0 := by
  induction reachable with
  | start => simp [World.start]
  | @step world earlier step _ ih =>
    intro sleeper sleeps
    cases called : world.call step with
    | none =>
      rw [(earlier.sound.queue_of_quiet called).1] at sleeps
      exact ih sleeper sleeps
    | some works =>
      obtain ⟨ticket, acquisition⟩ := works
      rcases mem_sleepers_of_call called sleeps with slept | ⟨-, asleep⟩
      · exact ih sleeper slept
      · rw [(earlier.sound.toOrderly.of_asleep called asleep).1]
        rcases call_cases called with ⟨who, -, -, rfl⟩ | ⟨place, own, -, found, -, rfl⟩
        · rfl
        · exact ih own (List.mem_of_getElem? found)

/-- A call that takes the pool has not rejected any candidate before. -/
theorem Reachable.rejected_of_call {settings : Settings} {driver : σ}
    (reachable : Reachable settings driver world)
    (called : world.call step = some (ticket, acquisition)) : acquisition.rejected = 0 := by
  rcases call_cases called with ⟨who, -, -, rfl⟩ | ⟨place, own, -, found, -, rfl⟩
  · rfl
  · exact reachable.unspent own (List.mem_of_getElem? found)

/-! ## Runs -/

/-- Whether the call `ticket` works in a step. -/
def isWorking (ticket : Ticket) (visit : World σ × Step σ) : Bool :=
  (visit.1.call visit.2).any fun call => call.1 == ticket

/-- The steps of a run in which the call `ticket` works. -/
def during (ticket : Ticket) (past : List (World σ × Step σ)) : List (World σ × Step σ) :=
  past.filter (isWorking ticket)

omit [Driver σ] in
theorem isWorking_iff : isWorking ticket (world, step) = true ↔
    ∃ acquisition, world.call step = some (ticket, acquisition) := by
  unfold isWorking
  rw [Option.any_eq_true]
  constructor
  · rintro ⟨⟨own, acquisition⟩, called, same⟩
    obtain rfl : own = ticket := eq_of_beq same
    exact ⟨acquisition, called⟩
  · rintro ⟨acquisition, called⟩
    exact ⟨_, called, beq_self_eq_true ticket⟩

/-- As long as a call has not returned, it has rejected nothing and taken nothing away. -/
theorem Leads.pending {settings : Settings} {driver : σ} {past : List (World σ × Step σ)}
    (leads : (World.start settings driver).Leads past world) (pends : Pends ticket world) :
    tally rejections (during ticket past) = 0 ∧ ledger (during ticket past) = [] := by
  induction leads with
  | refl => exact ⟨rfl, rfl⟩
  | @step past world earlier step _ ih =>
    have reachable := earlier.reachable .start
    obtain ⟨none, taken⟩ := ih (reachable.sound.pends_of_take reachable.lined pends)
    unfold during at none taken ⊢
    by_cases works : isWorking ticket (world, step) = true
    · obtain ⟨acquisition, called⟩ := isWorking_iff.1 works
      obtain ⟨again, asleep⟩ := reachable.lined.asleep_of_pends called pends
      obtain ⟨-, rejected, stays⟩ := reachable.sound.toOrderly.of_asleep called asleep
      rw [List.filter_cons_of_pos works, tally, ledger, none, taken, rejected, stays]
      exact ⟨rfl, rfl⟩
    · rw [List.filter_cons_of_neg works]
      exact ⟨none, taken⟩

/-- What a call rejects in all its steps, it rejects in the one in which it works now. -/
theorem Leads.tally_during {settings : Settings} {driver : σ} {past : List (World σ × Step σ)}
    (leads : (World.start settings driver).Leads past world)
    (called : world.call step = some (ticket, acquisition)) :
    tally rejections (during ticket ((world, step) :: past)) = world.rejections step := by
  have works : isWorking ticket (world, step) = true := isWorking_iff.2 ⟨acquisition, called⟩
  rw [during, List.filter_cons_of_pos works, tally, ← during,
    (leads.pending (pends_of_call called)).1, Nat.zero_add]

/-- A call that has returned does not work any more. -/
theorem Leads.during_eq_nil {settings : Settings} {driver : σ} {first last : World σ}
    {past : List (World σ × Step σ)} (leads : first.Leads past last)
    (reachable : Reachable settings driver first) (ended : ¬ Pends ticket first) :
    during ticket past = [] := by
  have all : during ticket past = [] ∧ ¬ Pends ticket last := by
    induction leads with
    | refl => exact ⟨rfl, ended⟩
    | @step past world earlier step _ ih =>
      have before := earlier.reachable reachable
      obtain ⟨none, stillOver⟩ := ih
      refine ⟨?_, fun pends => stillOver (before.sound.pends_of_take before.lined pends)⟩
      unfold during at none ⊢
      rw [List.filter_cons_of_neg, none]
      intro works
      obtain ⟨acquisition, called⟩ := isWorking_iff.1 works
      exact stillOver (pends_of_call called)
  exact all.1

/-- How long the call `ticket` keeps trying that works in the step `step`, after the run
`past`. What it did in all its steps up to and with this one is told by
`during ticket ((world, step) :: past)`. -/
structure Perseveres (past : List (World σ × Step σ)) (step : Step σ) (world : World σ)
    (ticket : Ticket) : Prop where
  /-- Until this step it has rejected no candidate and claimed no checkout, and so it is if
  it falls asleep. -/
  pending : tally rejections (during ticket past) = 0 ∧ ledger (during ticket past) = []
  asleep : ∀ again, world.progress step = some (.asleep again) →
    world.rejections step = 0 ∧ world.stays step = []
  /-- After its first search it is not told to wait, and it claims no checkout. -/
  later : ∀ found ∈ (world.searches step).tail, ∀ who,
    (found.nextCandidate world.settings who).1 ≠ .ok .mustWait ∧
      ∀ w, ¬ found.Claims world.settings who w
  /-- It makes no more searches than it may reject candidates, and one. -/
  searches_le : (world.searches step).length ≤
    world.settings.policy.maxIdle + world.settings.policy.tolerance + 1
  /-- If it has rejected a candidate, it returns in this step, and never works again. -/
  returns : 0 < world.rejections step →
    (∃ outcome, (world.take step).finished = (ticket, outcome) :: world.finished) ∧
      ∀ later last, (world.take step).Leads later last → during ticket later = []
  /-- In all its steps it rejects no more candidates than that, and the count of bad connections
  has grown by as many as it has rejected. -/
  rejected_le : tally rejections (during ticket ((world, step) :: past)) ≤
    world.settings.policy.maxIdle + world.settings.policy.tolerance + 1
  badConnections : (world.take step).pool.counters.badConnections =
    world.pool.counters.badConnections + tally rejections (during ticket ((world, step) :: past))
  /-- It gives up over bad candidates exactly if it has rejected one more than the limit, and
  reports that number. The limit is the sum as long as that does not overflow. -/
  gaveUp_iff : world.settings.policy.maxIdle + world.settings.policy.tolerance < UInt64.size →
    ∀ bad,
      (∃ rejection, (world.take step).finished =
          (ticket, .error (.exhausted (.tooManyBad bad rejection))) :: world.finished) ↔
        tally rejections (during ticket ((world, step) :: past)) =
            world.settings.policy.maxIdle + world.settings.policy.tolerance + 1 ∧
          bad = world.settings.policy.maxIdle + world.settings.policy.tolerance + 1
  /-- It is turned away for another reason only if no connection may be checked out. -/
  exhausted : ∀ reason, (world.take step).finished =
      (ticket, .error (.exhausted reason)) :: world.finished →
    (∃ bad rejection, reason = .tooManyBad bad rejection) ∨
      (reason = .noCapacity world.settings.policy.maxActive ∧
        world.settings.policy.maxActive = 0)
  /-- It claims at most one checkout in total. -/
  claims_le : (ledger (during ticket ((world, step) :: past))).length ≤ 1

/-- In every run each call that works perseveres no longer than it may. -/
theorem perseveres_of_leads {settings : Settings} {driver : σ}
    {past : List (World σ × Step σ)}
    (leads : (World.start settings driver).Leads past world)
    (allowed : world.allows step = true)
    (called : world.call step = some (ticket, acquisition)) :
    Perseveres past step world ticket := by
  have reachable := leads.reachable .start
  have orderly := reachable.sound.toOrderly
  have tries := orderly.tries_call called
  have reports := reachable.lined.reports called (progress_of_call called)
  have pending := leads.pending (pends_of_call called)
  have unspent := reachable.rejected_of_call called
  have works : isWorking ticket (world, step) = true := isWorking_iff.2 ⟨acquisition, called⟩
  have rejected := leads.tally_during called
  have most : ((world.ready step).pool.lookups world.settings acquisition).length ≤
      world.settings.policy.maxIdle + world.settings.policy.tolerance + 1 := by
    have limited := Pool.length_lookups_le world.settings acquisition (world.ready step).pool
    rw [unspent, Nat.sub_zero] at limited
    exact limited.trans (Nat.succ_le_succ (Policy.badConnectionLimit_le _))
  have owns : ∀ found ∈ world.searches step, found.Owns [] :=
    reachable.sound.owns_searches step
  constructor
  case pending => exact pending
  case asleep => exact fun again asleep => (orderly.of_asleep called asleep).2
  case later =>
    intro found listed who
    have owned := owns found (List.mem_of_mem_tail listed)
    have room := tries.later found listed
    refine ⟨fun waits => ?_, owned.not_claims_of_room room who⟩
    obtain ⟨-, ⟨w, candidate⟩ | ⟨error, failure⟩⟩ :=
      (Pool.search_finds owned world.settings who).of_room room
    · simp [waits] at candidate
    · simp [waits] at failure
  case searches_le =>
    rw [searches_of_call called]
    exact most
  case returns =>
    intro bad
    have awake : ∀ again, world.progress step ≠ some (.asleep again) := by
      intro again asleep
      rw [(orderly.of_asleep called asleep).2.1] at bad
      cases bad
    constructor
    · apply reports.returned
      intro again asleep
      exact awake again ((progress_of_call called).trans (congrArg _ asleep))
    · intro later last rest
      apply rest.during_eq_nil (reachable.step step allowed)
      intro pends
      obtain ⟨again, asleep⟩ := reachable.lined.asleep_of_pends called pends
      exact awake again asleep
  case rejected_le =>
    rw [rejected, rejections_of_call called]
    exact Nat.le_trans List.countP_le_length most
  case badConnections =>
    have books := (reachable.sound.books step).badConnections
    rwa [refusals, returns_of_asks (asks_of_call called), Option.bind_none, Option.elim_none,
      Nat.add_zero, ← rejected] at books
  case gaveUp_iff =>
    intro fits bad
    have gaveUp := (orderly.ready step).owns.acquire_gaveUp_iff world.settings acquisition bad
    rw [unspent, Nat.sub_zero, Nat.zero_add, Policy.badConnectionLimit_of_fits fits,
      ← rejections_of_call called, ← rejected] at gaveUp
    simp only [reports.failed_iff]
    exact gaveUp
  case exhausted =>
    intro reason finished
    exact tries.exhausted reason ((reports.failed_iff _).1 finished)
  case claims_le =>
    rw [during, List.filter_cons_of_pos works, ledger, ← during, pending.2, List.nil_append,
      stays_of_asks (asks_of_call called)]
    exact Pool.length_flatMap_taken_le _ owns tries.later

/-- Like `tightSettings`, but a call may reject one candidate only and go on. -/
def strictSettings : Settings :=
  { tightSettings with policy := { tightSettings.policy with tolerance := 0 } }

/-- Two connections are checked out and a third caller sleeps, when all connections die, and
those that are opened from now on are dead from the beginning. -/
def dyingSteps : List (Step Simulation.State) :=
  [.act (.acquire none), .act (.elapse 3), .act (.acquire none), .act (.acquire none),
    .act (.disturb fun driver =>
      { driver with
        template := { driver.template with dead := true }
        connections := driver.connections.map ({ · with behaviour.dead := true }) }),
    .act (.elapse 7)]

/-- When the sleeper wakes, it claims the oldest checkout and rejects it, opens a connection
and rejects that one too, and gives up: one bad candidate was all that it would have put up
with. -/
theorem perseveres_dying : ∃ world,
    (World.start strictSettings {}).follow dyingSteps = some world ∧
    world.allows (.wake 0) = true ∧ (world.call (.wake 0)).map Prod.fst = some 2 ∧
    world.rejections (.wake 0) = 2 ∧ (world.stays (.wake 0)).length = 1 ∧
    Perseveres ((World.start strictSettings {}).trail dyingSteps []) (.wake 0) world 2 ∧
    world.settings.policy.maxIdle + world.settings.policy.tolerance < UInt64.size ∧
    ∃ rejection, (world.take (.wake 0)).finished =
      (2, .error (.exhausted (.tooManyBad 2 rejection))) :: world.finished := by
  have run : ((World.start strictSettings ({} : Simulation.State)).follow dyingSteps).map
      (fun world => ((world.call (.wake 0)).map Prod.fst, world.rejections (.wake 0),
        (world.stays (.wake 0)).length, world.settings)) =
      some (some 2, 2, 1, strictSettings) := by decide +kernel
  obtain ⟨world, found, seen⟩ := Option.map_eq_some_iff.1 run
  simp only [Prod.mk.injEq] at seen
  obtain ⟨works, rejected, taken, settings⟩ := seen
  obtain ⟨⟨ticket, acquisition⟩, called, same⟩ := Option.map_eq_some_iff.1 works
  obtain rfl : ticket = 2 := same
  have leads := Leads.refl.follow found
  have perseveres := perseveres_of_leads leads rfl called
  have fits : world.settings.policy.maxIdle + world.settings.policy.tolerance < UInt64.size := by
    rw [settings]
    decide
  refine ⟨world, found, rfl, works, rejected, taken, perseveres, fits, ?_⟩
  refine (perseveres.gaveUp_iff fits 2).2 ⟨?_, ?_⟩
  · rw [leads.tally_during called, rejected, settings]
    rfl
  · rw [settings]
    rfl

end World

end ConnectionPooling
