/-
# In which order connections are reused

Connections join the idle queue at its end when they are given back, and searches take them
from its front. This module follows the connections themselves, which move from one wrapper
to the next: those that were taken out are always the first of those that were put in, in the
same order, and the others are what is idle.

A call tries the idle connections in their order as long as it may reject another one, and it
opens a connection or claims one only when none is idle. `sift` says which of them it gets:
the first that is good at the time when its turn comes. A call that exhausts its tolerance
gets none. As long as the limit does not overflow, it covers all that may be idle, and such a
call has found none of them good.

All this is about the time between two barriers, which leave nothing idle.
-/

import ConnectionPooling.Proofs.Relay
import ConnectionPooling.Proofs.Retries
import ConnectionPooling.Proofs.Decision
import ConnectionPooling.Proofs.Waits

namespace ConnectionPooling

variable {σ : Type}

namespace Step

/-- Whether the step closes all connections, whatever else it does. -/
def closesAll : Step σ → Bool
  | .act .forceCloseAll | .act .shutDown => true
  | .act (.change change) => change.drains
  | _ => false

theorem closesAll_iff (step : Step σ) : step.closesAll = true ↔ step.IsBarrier := by
  constructor
  · intro closes
    cases step with
    | wake place => cases closes
    | act action =>
      cases action with
      | forceCloseAll => exact .act .forceCloseAll
      | shutDown => exact .act .shutDown
      | change change =>
        refine .act (.change ?_)
        rintro count rfl
        cases closes
      | _ => cases closes
  · rintro ⟨barrier⟩
    cases barrier with
    | forceCloseAll | shutDown => rfl
    | @change change other =>
      cases change with
      | tolerance count => exact absurd rfl (other count)
      | _ => rfl

end Step

/-- An acquisition gave up over bad candidates. -/
def Progress.GaveUp (progress : Progress) : Prop :=
  ∃ bad rejection, progress = .failed (.exhausted (.tooManyBad bad rejection))

namespace Pool

/-- The idle connections, the one that has been idle longest first. -/
def idleConns (pool : Pool σ) : List ConnId :=
  pool.idle.filterMap pool.slot

/-- Whoever leaves the idle queue and the connections of its wrappers alone leaves the idle
connections alone. -/
theorem idleConns_congr {pool after : Pool σ} (idle : after.idle = pool.idle)
    (slot : ∀ w ∈ pool.idle, after.slot w = pool.slot w) : after.idleConns = pool.idleConns := by
  unfold idleConns
  rw [idle]
  exact List.filterMap_congr slot

variable [Driver σ] {settings : Settings} {acquisition : Acquisition} {budget : Nat}
  {pool after : Pool σ} {progress : Progress}

/-! ## Searches -/

/-- The connections that a search takes out of the idle queue. -/
def drawn (settings : Settings) (who : Credentials) (pool : Pool σ) : List ConnId :=
  (pool.idle.filter fun w => decide (w ∉ (pool.nextCandidate settings who).2.idle)).filterMap
    pool.slot

/-- A search leaves the idle queue without its first member. -/
theorem Finds.idle_eq_tail {who : Credentials} {result : Except PoolError Candidate}
    (finds : Finds settings who pool result after) : after.idle = pool.idle.tail := by
  cases finds with
  | idle idle => rw [idle]; rfl
  | opened idle | refused idle | noCapacity idle | mustWait idle | claimed idle =>
    exact idle.trans (by rw [idle]; rfl)

/-- A search takes connections from the front of the queue. -/
theorem Owns.idleConns_search (owns : pool.Owns []) {who : Credentials} {found : Pool σ}
    {result : Except PoolError Candidate}
    (search : pool.nextCandidate settings who = (result, found)) :
    pool.idleConns = pool.drawn settings who ++ found.idleConns := by
  have finds := owns.search search
  have left := finds.idle_eq_tail
  unfold idleConns drawn
  rw [search, left]
  cases finds with
  | @idle w rest idle =>
    have nodup := owns.nodup.of_append_left.of_append_left
    rw [idle, List.nodup_cons] at nodup
    have parts : ([w] ++ rest).filterMap pool.slot = _ := List.filterMap_append
    rw [idle, List.tail_cons, filter_not_mem_cons nodup.1]
    exact parts
  | opened idle | refused idle | noCapacity idle | mustWait idle | claimed idle =>
    rw [idle]
    rfl

omit [Driver σ] in
/-- The check of a candidate in hand leaves the idle connections alone. -/
theorem Checks.idleConns {w : WrapperId} {inHand : List WrapperId}
    {result : Except Rejection Unit} (checks : Checks w pool result after)
    (owns : pool.Owns (w :: inHand)) : after.idleConns = pool.idleConns := by
  apply idleConns_congr checks.idle
  intro v listed
  cases checks with
  | good => rfl
  | bad _ held =>
    rw [slot_spend, if_neg]
    rintro rfl
    exact owns.hand_fresh.1 (List.mem_append_left _ (List.mem_append_left _ listed))

/-- A search with the rejection of its candidate takes from the front of the queue. -/
theorem Owns.idleConns_reject (owns : pool.Owns []) {who : Credentials} {found vetted : Pool σ}
    {w : WrapperId} {rejection : Rejection}
    (search : pool.nextCandidate settings who = (.ok (.ready w), found))
    (vet : found.vet settings.policy w = (.error rejection, vetted)) :
    pool.idleConns = pool.drawn settings who ++
      (vetted.countBad.note (.candidateRejected rejection)).idleConns := by
  have hand := (owns.search search).owns owns
  have kept : (vetted.countBad.note (.candidateRejected rejection)).idleConns =
      found.idleConns := (hand.vet vet).idleConns hand
  rw [owns.idleConns_search search, kept]

theorem Owns.idle_reject (owns : pool.Owns []) {who : Credentials} {found vetted : Pool σ}
    {w : WrapperId} {rejection : Rejection}
    (search : pool.nextCandidate settings who = (.ok (.ready w), found))
    (vet : found.vet settings.policy w = (.error rejection, vetted)) :
    (vetted.countBad.note (.candidateRejected rejection)).idle = pool.idle.tail := by
  have finds := owns.search search
  exact ((finds.owns owns).vet vet).idle.trans finds.idle_eq_tail

omit [Driver σ] in
theorem idleConns_handOut (pool : Pool σ) (code : Fingerprint) (started : Instant)
    (w : WrapperId) : (pool.handOut code started w).idleConns = pool.idleConns := by
  apply idleConns_congr
  · rfl
  · exact fun v _ => pool.slot_handOut code started w v

omit [Driver σ] in
theorem idleConns_fallAsleep (policy : Policy) (acquisition : Acquisition) (pool : Pool σ) :
    (pool.fallAsleep policy acquisition).2.idleConns = pool.idleConns := by
  unfold fallAsleep
  split <;> rfl

/-- What an acquisition takes out of the idle queue, it takes from its front, one after the
other. -/
theorem Acquires.idleConns (acquires : Acquires settings acquisition budget pool progress after)
    (owns : pool.Owns []) : pool.idleConns =
      (pool.searches settings acquisition budget).flatMap (drawn settings acquisition.who) ++
        after.idleConns := by
  induction acquires with
  | @failed _ budget _ _ _ search =>
    rw [searches_of_end budget search rfl, List.flatMap_singleton]
    exact owns.idleConns_search search
  | @asleep acquisition budget _ found search =>
    rw [searches_of_end budget search rfl, List.flatMap_singleton, idleConns_fallAsleep]
    exact owns.idleConns_search search
  | @granted _ budget _ _ _ _ search vet =>
    have hand := (owns.search search).owns owns
    rw [searches_of_good budget search vet, List.flatMap_singleton, idleConns_handOut,
      (hand.vet vet).idleConns hand]
    exact owns.idleConns_search search
  | gaveUp search vet =>
    have rejected := owns.idleConns_reject search vet
    rw [searches_of_one_too_many search vet, List.flatMap_singleton]
    exact rejected
  | @again _ budget _ _ _ _ _ _ _ search vet _ ih =>
    rw [searches_of_bad budget search vet, List.flatMap_cons, List.append_assoc,
      ← ih (owns.reject search vet).1]
    exact owns.idleConns_reject search vet

theorem Owns.idleConns_acquire (owns : pool.Owns []) (settings : Settings)
    (acquisition : Acquisition) : pool.idleConns =
      (pool.lookups settings acquisition).flatMap (drawn settings acquisition.who) ++
        (pool.acquire settings acquisition).2.idleConns := by
  rcases lookups_cases settings acquisition pool with ⟨none, refused⟩ | ⟨searched, acquires⟩
  · rw [none, refused]
    rfl
  · rw [searched]
    exact acquires.idleConns owns

/-! ## Which connection is served -/

/-- An acquisition makes one search, or its first search yields a bad candidate and it may reject
that and search on. -/
theorem searches_cases (settings : Settings) (acquisition : Acquisition) (budget : Nat)
    (pool : Pool σ) :
    (pool.searches settings acquisition budget = [pool] ∧
      (pool.rejects settings acquisition.who = true → budget = 0)) ∨
    ∃ fewer w found rejection vetted, budget = fewer + 1 ∧
      pool.nextCandidate settings acquisition.who = (.ok (.ready w), found) ∧
      found.vet settings.policy w = (.error rejection, vetted) ∧
      pool.searches settings acquisition budget =
        pool :: (vetted.countBad.note (.candidateRejected rejection)).searches settings
          { acquisition with rejected := acquisition.rejected + 1 } fewer := by
  have last (none : pool.rejects settings acquisition.who = false)
      (bad : pool.rejects settings acquisition.who = true) : budget = 0 := by
    rw [none] at bad
    cases bad
  have acquires := attempt_acquires settings acquisition budget pool
  generalize pool.attempt settings acquisition budget = attempted at acquires
  obtain ⟨progress, after⟩ := attempted
  cases acquires with
  | failed search =>
    exact .inl ⟨searches_of_end budget search rfl, last (rejects_of_end search rfl)⟩
  | asleep search =>
    exact .inl ⟨searches_of_end budget search rfl, last (rejects_of_end search rfl)⟩
  | granted search vet =>
    exact .inl ⟨searches_of_good budget search vet, last (rejects_of_good search vet)⟩
  | gaveUp search vet => exact .inl ⟨searches_of_one_too_many search vet, fun _ => rfl⟩
  | again search vet =>
    exact .inr ⟨_, _, _, _, _, rfl, search, vet, searches_of_bad _ search vet⟩

/-- Each search of an acquisition finds one idle connection less than the one before. -/
theorem Owns.idle_searches (owns : pool.Owns []) {place : Nat} {search : Pool σ}
    (found : (pool.searches settings acquisition budget)[place]? = some search) :
    search.idle = pool.idle.drop place := by
  induction place generalizing pool acquisition budget with
  | zero =>
    unfold searches at found
    cases found
    rfl
  | succ place ih =>
    rcases pool.searches_cases settings acquisition budget with
      ⟨last, -⟩ | ⟨fewer, w, _, rejection, vetted, -, rejects, vet, rest⟩
    · rw [last] at found
      cases found
    · rw [rest, List.getElem?_cons_succ] at found
      rw [ih (owns.reject rejects vet).1 found, owns.idle_reject rejects vet, List.drop_tail]

/-- As long as an acquisition may reject another candidate, it goes on after a bad one. -/
theorem lt_length_searches {place : Nat} {search : Pool σ}
    (found : (pool.searches settings acquisition budget)[place]? = some search)
    (bad : search.rejects settings acquisition.who = true) (allowed : place < budget) :
    place + 1 < (pool.searches settings acquisition budget).length := by
  induction place generalizing pool acquisition budget with
  | zero =>
    rcases pool.searches_cases settings acquisition budget with
      ⟨last, spent⟩ | ⟨fewer, w, _, rejection, vetted, -, -, -, rest⟩
    · rw [last] at found
      cases found
      rw [spent bad] at allowed
      cases allowed
    · rw [rest]
      unfold searches
      exact Nat.succ_lt_succ (Nat.succ_pos _)
  | succ place ih =>
    rcases pool.searches_cases settings acquisition budget with
      ⟨last, -⟩ | ⟨fewer, w, _, rejection, vetted, rfl, -, -, rest⟩
    · rw [last] at found
      cases found
    · rw [rest] at found ⊢
      exact Nat.succ_lt_succ (ih found bad (Nat.lt_of_succ_lt_succ allowed))

/-- What is left of an idle queue when the bad connections in front of the first good one have
been taken and rejected. Each is checked in the pool that the rejection of those before it has
left. -/
def sift (policy : Policy) : List WrapperId → Pool σ → List WrapperId
  | [], _ => []
  | w :: rest, pool =>
      match (pool.takeIdle w rest).2.vet policy w with
      | (.ok (), _) => w :: rest
      | (.error rejection, vetted) =>
          sift policy rest (vetted.countBad.note (.candidateRejected rejection))

/-- What an acquisition comes to that gets the idle connection of the wrapper `w`, behind which
`rest` is idle. -/
structure Serves (w : WrapperId) (rest : List WrapperId) (searches : List (Pool σ))
    (pool : Pool σ) (progress : Progress) (after : Pool σ) : Prop where
  granted : progress = .granted w
  tried : ∃ bad, pool.idle = bad ++ w :: rest ∧ searches.length = bad.length + 1
  idle : after.idle = rest
  active : after.active = pool.active ++ [w]
  connects : after.env.connects = pool.env.connects

/-- A search that finds something idle leaves the checkouts alone and opens nothing. -/
theorem Owns.frame_takeIdle (owns : pool.Owns []) {who : Credentials} {found vetted : Pool σ}
    {w : WrapperId} {outcome : Except Rejection Unit} (idle : pool.idle ≠ [])
    (search : pool.nextCandidate settings who = (.ok (.ready w), found))
    (vet : found.vet settings.policy w = (outcome, vetted)) :
    pool.idle = w :: vetted.idle ∧ found = (pool.takeIdle w vetted.idle).2 ∧
      vetted.active = pool.active ∧ vetted.env.connects = pool.env.connects := by
  have finds := owns.search search
  have checks := (finds.owns owns).vet vet
  have same := checks.idle
  have active := checks.active
  have connects := checks.connects
  cases finds with
  | idle listed =>
    have taken := Environment.talks_note (.takenFromIdle (pool.realId w)) pool.env
    rw [same]
    exact ⟨listed, rfl, active, connects.trans taken.connects⟩
  | opened none | claimed none => exact absurd none idle

/-- An acquisition gets the first idle connection that is good, unless it gives up over bad
candidates. -/
theorem Acquires.serves (acquires : Acquires settings acquisition budget pool progress after)
    (owns : pool.Owns []) (goesOn : ¬ progress.GaveUp) {w : WrapperId}
    {rest : List WrapperId} (good : pool.sift settings.policy pool.idle = w :: rest) :
    Serves w rest (pool.searches settings acquisition budget) pool progress after := by
  have filled {pool : Pool σ} (good : pool.sift settings.policy pool.idle = w :: rest) :
      pool.idle ≠ [] := by
    intro none
    rw [none] at good
    cases good
  induction acquires with
  | failed search =>
    cases owns.search search with
    | refused none | noCapacity none => exact absurd none (filled good)
  | asleep search =>
    cases owns.search search with
    | mustWait none => exact absurd none (filled good)
  | @granted _ budget pool found vetted v search vet =>
    obtain ⟨idle, rfl, active, connects⟩ := owns.frame_takeIdle (filled good) search vet
    rw [idle, sift, vet] at good
    cases good
    rw [searches_of_good budget search vet]
    exact ⟨rfl, ⟨[], idle, rfl⟩, rfl, congrArg (· ++ [w]) active, connects⟩
  | gaveUp => exact absurd ⟨_, _, rfl⟩ goesOn
  | @again _ budget pool found vetted _ v rejection _ search vet _ ih =>
    obtain ⟨idle, rfl, active, connects⟩ := owns.frame_takeIdle (filled good) search vet
    rw [idle, sift, vet] at good
    have later := ih (owns.reject search vet).1 goesOn good
    obtain ⟨bad, split, tries⟩ := later.tried
    have queue : vetted.idle = bad ++ w :: rest := split
    have noted := Environment.talks_note (.candidateRejected rejection) vetted.env
    rw [searches_of_bad budget search vet]
    refine ⟨later.granted, ⟨v :: bad, ?_, ?_⟩, later.idle, ?_, ?_⟩
    · rw [idle, queue, List.cons_append]
    · rw [List.length_cons, tries, List.length_cons]
    · exact later.active.trans (congrArg (· ++ [w]) active)
    · exact later.connects.trans (noted.connects.trans connects)

/-- An acquisition rejects all that are idle if none of them is good, unless it gives up before.
-/
theorem Acquires.spends (acquires : Acquires settings acquisition budget pool progress after)
    (owns : pool.Owns []) (goesOn : ¬ progress.GaveUp)
    (none : pool.sift settings.policy pool.idle = []) :
    pool.idle.length ≤ (pool.searches settings acquisition budget).countP
      (rejects settings acquisition.who) := by
  induction acquires with
  | failed search =>
    cases owns.search search with
    | refused idle | noCapacity idle => rw [idle]; exact Nat.zero_le _
  | asleep search =>
    cases owns.search search with
    | mustWait idle => rw [idle]; exact Nat.zero_le _
  | @granted _ _ pool _ _ _ search vet =>
    by_cases idle : pool.idle = []
    · rw [idle]
      exact Nat.zero_le _
    · obtain ⟨queue, rfl, -, -⟩ := owns.frame_takeIdle idle search vet
      rw [queue, sift, vet] at none
      cases none
  | gaveUp => exact absurd ⟨_, _, rfl⟩ goesOn
  | @again _ budget pool _ vetted _ _ rejection _ search vet _ ih =>
    by_cases idle : pool.idle = []
    · rw [idle]
      exact Nat.zero_le _
    · obtain ⟨queue, rfl, -, -⟩ := owns.frame_takeIdle idle search vet
      rw [queue, sift, vet] at none
      have later := ih (owns.reject search vet).1 goesOn none
      rw [queue, List.length_cons, searches_of_bad budget search vet,
        List.countP_cons_of_pos (rejects_of_bad search vet)]
      exact Nat.succ_le_succ later

/-- An acquisition that may reject as many candidates as are idle, all but one, gives up only if
none of them is good. -/
theorem Acquires.sift_of_gaveUp
    (acquires : Acquires settings acquisition budget pool progress after) (owns : pool.Owns [])
    (enough : pool.idle.length ≤ budget + 1) (gaveUp : progress.GaveUp) :
    pool.sift settings.policy pool.idle = [] := by
  induction acquires with
  | failed search =>
    obtain ⟨bad, rejection, ⟨⟩⟩ := gaveUp
    cases owns.search search
  | asleep => obtain ⟨bad, rejection, ⟨⟩⟩ := gaveUp
  | granted => obtain ⟨bad, rejection, ⟨⟩⟩ := gaveUp
  | @gaveUp _ pool _ _ _ _ search vet =>
    by_cases idle : pool.idle = []
    · rw [idle, sift]
    · -- Nothing may be rejected any more, so the bad candidate was the only one idle.
      obtain ⟨queue, rfl, -, -⟩ := owns.frame_takeIdle idle search vet
      rw [queue, List.length_cons, Nat.zero_add] at enough
      have alone := List.eq_nil_of_length_eq_zero (Nat.le_zero.1 (Nat.le_of_succ_le_succ enough))
      rw [queue, sift, vet, alone]
      rfl
  | @again _ _ pool _ _ _ _ _ _ search vet _ ih =>
    by_cases idle : pool.idle = []
    · rw [idle, sift]
    · obtain ⟨queue, rfl, -, -⟩ := owns.frame_takeIdle idle search vet
      rw [queue, List.length_cons] at enough
      rw [queue, sift, vet]
      exact ih (owns.reject search vet).1 (Nat.le_of_succ_le_succ enough) gaveUp

/-! ## Giving back -/

/-- The connections that join the idle queue when the wrapper `w` is given back. -/
def parked (policy : Policy) (w : WrapperId) (pool : Pool σ) : List ConnId :=
  ((pool.release policy w).idle.filter fun v => decide (v ∉ pool.idle)).filterMap
    (pool.release policy w).slot

/-- A connection that is given back joins the queue at its end, or is not idle afterwards. -/
theorem Owns.parked_cases (owns : pool.Owns [])
    (expected : pool.expected = settings.source.fingerprint) {w : WrapperId}
    (busy : w ∉ pool.idle) :
    (pool.release settings.policy w).idleConns =
        pool.idleConns ++ pool.parked settings.policy w ∧
      (pool.parked settings.policy w = [] ∨
        ∃ conn, pool.reach w = some conn ∧ pool.parked settings.policy w = [conn]) := by
  have later := (owns.release settings.policy busy).1
  have exist : ∀ v ∈ pool.idle, v < pool.wrappers.size := by
    intro v listed
    exact lt_size_of_isValid ((owns.isValid_iff v).2
      (List.mem_append_left _ (List.mem_append_left _ listed)))
  -- A wrapper that stays in the queue keeps its connection.
  have kept : ∀ v ∈ pool.idle, v ∈ (pool.release settings.policy w).idle →
      (pool.release settings.policy w).slot v = pool.slot v := by
    intro v listed still
    have valid := (later.isValid_iff v).2
      (List.mem_append_left _ (List.mem_append_left _ still))
    obtain ⟨conn, held⟩ := (later.toCoherent.isValid_iff_slot v).1 valid
    have moves : Moves { settings := settings, returned := some w } pool _ :=
      owns.moves_release settings.policy busy rfl
    rw [held, moves.slot_old (exist v listed) held]
  have unchanged (idle : (pool.release settings.policy w).idle = pool.idle) :
      (pool.release settings.policy w).idleConns =
          pool.idleConns ++ pool.parked settings.policy w ∧
        pool.parked settings.policy w = [] := by
    have nothing : pool.parked settings.policy w = [] := by
      unfold parked
      rw [idle, filter_not_mem_self]
      rfl
    rw [nothing, List.append_nil]
    exact ⟨idleConns_congr idle fun v listed => kept v listed (idle ▸ listed), rfl⟩
  obtain ⟨verdict, decides⟩ := owns.exists_decides expected w
  cases decides with
  | refused _ _ _ _ idle => exact (unchanged idle).imp_right .inl
  | bad _ _ _ _ _ _ idle => exact (unchanged idle).imp_right .inl
  | closed _ _ _ _ _ _ _ _ idle => exact (unchanged idle).imp_right .inl
  | @kept wrapper conn _ _ holds _ _ _ _ _ _ _ idle renewed =>
    have slot : (pool.release settings.policy w).slot pool.wrappers.size = some conn := by
      rw [Pool.slot, renewed]
      rfl
    have new : pool.wrappers.size ∉ pool.idle :=
      fun listed => absurd (exist _ listed) (Nat.lt_irrefl _)
    have joined : pool.parked settings.policy w = [conn] := by
      unfold parked
      rw [idle, List.filter_append, filter_not_mem_self,
        List.filter_cons_of_pos (by simpa using new)]
      exact List.filterMap_cons_some slot
    refine ⟨?_, .inr ⟨conn, holds.reach, joined⟩⟩
    have old : pool.idle.filterMap (pool.release settings.policy w).slot =
        pool.idle.filterMap pool.slot :=
      List.filterMap_congr fun v listed => kept v listed (idle ▸ List.mem_append_left _ listed)
    have last : [pool.wrappers.size].filterMap (pool.release settings.policy w).slot = [conn] :=
      List.filterMap_cons_some slot
    unfold idleConns
    rw [joined, idle, List.filterMap_append, old, last]

end Pool

namespace World

variable [Driver σ] {step : Step σ} {world : World σ} {ticket : Ticket} {acquisition : Acquisition}
  {w : WrapperId}

/-! ## Steps -/

/-- The connections that are taken out of the idle queue in a step, in this order. -/
def reused (step : Step σ) (world : World σ) : List ConnId :=
  (world.asks step).elim [] fun who =>
    (world.searches step).flatMap (Pool.drawn world.settings who)

/-- The connections that join the idle queue in a step. -/
def parked (step : Step σ) (world : World σ) : List ConnId :=
  (step.returns.bind world.checkout).elim [] (Pool.parked world.settings.policy · world.pool)

theorem reused_of_quiet (quiet : world.asks step = none) : world.reused step = [] := by
  rw [reused, quiet, Option.elim_none]

/-- What joins the queue is the connection of a handle that is given back. -/
theorem Reachable.parked_cases {settings : Settings} {driver : σ}
    (reachable : Reachable settings driver world) (step : Step σ) :
    world.parked step = [] ∨ ∃ h conn, step.returns = some h ∧ world.reach h = some conn ∧
      world.parked step = [conn] := by
  unfold parked
  cases returned : step.returns.bind world.checkout with
  | none => exact .inl rfl
  | some w =>
    obtain ⟨h, returns, out⟩ := Option.bind_eq_some_iff.1 returned
    have busy := reachable.sound.toOrderly.busy_of_checkout out
    obtain ⟨-, none | ⟨conn, reach, one⟩⟩ :=
      reachable.sound.owns.parked_cases reachable.tended.expected busy
    · exact .inl none
    · exact .inr ⟨h, conn, returns, reach_eq_some.2 ⟨w, out, reach⟩, one⟩

/-- A call takes connections from the front of the queue. -/
theorem Orderly.idleConns_parted (orderly : world.Orderly)
    (called : world.call step = some (ticket, acquisition)) :
    world.pool.idleConns = world.reused step ++ (world.parted step).idleConns := by
  obtain ⟨⟨slept, waited⟩, -⟩ := ready_frame step world
  have same : (world.ready step).pool.idleConns = world.pool.idleConns := by
    rw [waited]
    rfl
  rw [reused, asks_of_call called, Option.elim_some, searches_of_call called,
    parted_of_call called, ← same]
  exact (orderly.ready step).owns.idleConns_acquire world.settings acquisition

omit [Driver σ] in
/-- A wrapper that changes its times only keeps its connection. -/
theorem idleConns_touch (pool : Pool σ) (w : WrapperId) :
    (pool.touch w).idleConns = pool.idleConns := by
  apply Pool.idleConns_congr
  · rfl
  · exact fun v _ => pool.slot_touch w v

/-- An operation that neither looks for a connection nor gives one back, and does not close all
of them, leaves the idle ones alone. -/
theorem Operates.idleConns {pool : Pool σ} (operates : Operates step world pool)
    (quiet : world.asks step = Option.none)
    (kept : step.returns.bind world.checkout = Option.none) (goesOn : ¬ step.IsBarrier) :
    pool.idleConns = world.pool.idleConns := by
  cases operates with
  | none | aside => rfl
  | begun begins =>
    subst begins
    cases quiet
  | woken wakes found =>
    subst wakes
    simp [World.asks, found] at quiet
  | used =>
    rw [idleConns_touch]
    unfold Pool.withConnection
    split <;> rfl
  | returned returns out => simp [returns, out] at kept
  | emptied barrier => exact absurd barrier goesOn
  | shut shuts => exact absurd (shuts ▸ .act .shutDown) goesOn

/-- In a step that is no barrier, connections are taken from the front of the queue or join it
at its end, and all others keep their places, unless nobody can reach the pool after it. -/
theorem Reachable.idleConns_take {settings : Settings} {driver : σ}
    (reachable : Reachable settings driver world) (goesOn : ¬ step.IsBarrier) :
    ∃ left, world.pool.idleConns ++ world.parked step = world.reused step ++ left ∧
      (left = (world.take step).pool.idleConns ∨ (world.take step).isAbandoned = true) := by
  have orderly := reachable.sound.toOrderly
  cases called : world.call step with
  | some works =>
    obtain ⟨ticket, acquisition⟩ := works
    have nothing : world.parked step = [] := by
      rw [parked, returns_of_asks (asks_of_call called), Option.bind_none, Option.elim_none]
    refine ⟨(world.parted step).idleConns, ?_, ?_⟩
    · rw [nothing, List.append_nil]
      exact orderly.idleConns_parted called
    · exact (pool_take_of_call called).imp (fun same => by rw [same]) And.left
  | none =>
    have quiet := asks_of_quiet called
    refine ⟨_, by rw [reused_of_quiet quiet, List.nil_append], ?_⟩
    cases returned : step.returns.bind world.checkout with
    | some w =>
      obtain ⟨h, returns, out⟩ := Option.bind_eq_some_iff.1 returned
      rw [parked, returned, Option.elim_some]
      have joins := (orderly.owns.parked_cases reachable.tended.expected
        (orderly.busy_of_checkout out)).1
      rw [← joins]
      exact (pool_take_of_returns returns out).imp (fun same => by rw [same]) And.left
    | none =>
      rw [parked, returned, Option.elim_none, List.append_nil]
      obtain ⟨pool, operates, -, same | gone⟩ := orderly.operates_stays step
      · exact .inl (same ▸ (operates.idleConns quiet returned goesOn).symm)
      · exact .inr gone

/-- After a barrier nothing is idle. -/
theorem Sound.idleConns_of_barrier (sound : world.Sound) (barrier : step.IsBarrier) :
    (world.take step).pool.idleConns = [] := by
  cases sound.turn step with
  | moved _ _ quiet => exact absurd barrier quiet
  | drained _ drains => rw [Pool.idleConns, drains.idle]; rfl

/-- Once nobody can reach the pool, nobody asks it for anything any more. -/
theorem quiet_of_abandoned (gone : world.isAbandoned = true) (allowed : world.allows step = true) :
    world.asks step = none ∧ step.returns = none ∧ (world.take step).isAbandoned = true := by
  have nobody := gone
  simp only [isAbandoned, Bool.and_eq_true, beq_iff_eq, List.isEmpty_iff] at nobody
  obtain ⟨⟨clones, sleepers⟩, -⟩ := nobody
  have dropped (h : HandleId) : world.hasHandle h = false := by
    rw [← Bool.not_eq_true]
    intro own
    obtain ⟨handle, found, kept⟩ := (Option.any_eq_true _ _).1 own
    rw [isAbandoned_of_handle found (by simpa using kept)] at gone
    cases gone
  cases step with
  | wake place =>
    have absent : world.sleepers[place]? = none := by simp [sleepers]
    refine ⟨by rw [asks, absent]; rfl, rfl, ?_⟩
    show (world.wakeAt place).isAbandoned = true
    unfold World.wakeAt
    rw [absent]
    exact gone
  | act action =>
    cases action with
    | elapse | disturb => exact ⟨rfl, rfl, gone⟩
    | request h | converse h | drop h => simp [allows, permits, dropped] at allowed
    | _ => simp [allows, permits, clones] at allowed

/-! ## Calls -/

/-- The call that works in a step returns a handle on the idle connection of the wrapper `w`,
behind which `rest` was idle. -/
structure GetsIdle (step : Step σ) (world : World σ) (w : WrapperId) (rest : List WrapperId) :
    Prop where
  granted : world.progress step = some (.granted w)
  /-- It tries those that were idle longer, and then this one. -/
  tried : ∃ bad, world.pool.idle = bad ++ w :: rest ∧
    (world.searches step).length = bad.length + 1
  /-- The handle reaches the connection that was idle. -/
  reach : ∃ conn, world.pool.slot w = some conn ∧
    (world.take step).reach world.handles.size = some conn
  idle : (world.take step).pool.idle = rest
  /-- No checkout is taken away, and the driver is not asked to open a connection. -/
  active : (world.take step).pool.active = world.pool.active ++ [w]
  connects : (world.take step).pool.env.connects = world.pool.env.connects

/-- The call that works in a step gives up, because it has rejected more candidates than it
tolerates. -/
def GivesUp (step : Step σ) (world : World σ) : Prop :=
  ∃ progress, world.progress step = some progress ∧ progress.GaveUp

/-- How the call that works in a step uses what is idle. -/
structure ServesIdle (step : Step σ) (world : World σ) (who : Credentials) : Prop where
  /-- Each of its searches finds one idle connection less than the one before. -/
  inTurn : ∀ place search, (world.searches step)[place]? = some search →
    search.idle = world.pool.idle.drop place
  /-- If any is idle, the candidate is the one that has been idle longest. The search leaves
  all others where they are, and asks the driver nothing. -/
  oldest : ∀ search ∈ world.searches step, ∀ w rest, search.idle = w :: rest →
    ∃ found, search.nextCandidate world.settings who = (.ok (.ready w), found) ∧
      found.idle = rest ∧ found.active = search.active ∧
      found.env.requests = search.env.requests
  /-- After a bad candidate there is another search, as long as not more were bad than is
  tolerated. -/
  goesOn : ∀ place search, (world.searches step)[place]? = some search →
    search.rejects world.settings who = true →
    place < world.settings.policy.badConnectionLimit →
    place + 1 < (world.searches step).length
  /-- Only when none is idle, the driver is asked to open one, or a checkout is claimed. -/
  lastResort : ∀ search ∈ world.searches step,
    ((search.nextCandidate world.settings who).2.env.connects ≠ search.env.connects ∨
      ∃ w, search.Claims world.settings who w) → search.idle = []
  /-- It gets the first that is good when its turn comes, unless it has exhausted its tolerance
  before. -/
  first : ¬ world.GivesUp step → ∀ w rest,
    (world.ready step).pool.sift world.settings.policy world.pool.idle = w :: rest →
    GetsIdle step world w rest
  /-- If none is good, it rejects all of them, with the same exception. -/
  none : ¬ world.GivesUp step →
    (world.ready step).pool.sift world.settings.policy world.pool.idle = [] →
    world.pool.idle.length ≤ world.rejections step
  /-- Its tolerance is exhausted exactly if it has rejected one more than the limit. -/
  givesUp_iff : world.GivesUp step ↔
    world.rejections step = world.settings.policy.badConnectionLimit + 1
  /-- The limit covers all that may be idle if its sum does not overflow: the call then gives up
  only when it has rejected all of them, and none was good. -/
  covers : world.settings.policy.maxIdle + world.settings.policy.tolerance < UInt64.size →
    world.GivesUp step →
    (world.ready step).pool.sift world.settings.policy world.pool.idle = [] ∧
      world.pool.idle.length ≤ world.rejections step

/-- A call that is granted a wrapper returns a handle on it. -/
theorem checkout_of_granted (granted : world.progress step = some (.granted w)) :
    (world.take step).checkout world.handles.size = some w := by
  obtain ⟨ticket, acquisition, called⟩ := exists_call_of_progress granted
  obtain ⟨-, settings, handles, -⟩ := ready_frame step world
  rw [progress_of_call called, ← settings] at granted
  have pushed : ((world.ready step).proceed ticket acquisition).handles =
      world.handles.push { wrapper := w } := by
    unfold World.proceed
    rw [Option.some.inj granted, ← handles]
    rfl
  have found : ((world.ready step).proceed ticket acquisition).handles[world.handles.size]? =
      some { wrapper := w } := by
    rw [pushed]
    exact Array.getElem?_push_size
  have reached := tearDown_of_reached (isAbandoned_of_handle found Stage.noConfusion)
  rw [checkout_eq_some]
  rcases take_of_call called with taken | taken
  · rw [taken]
    exact ⟨_, found, rfl, rfl⟩
  · rw [taken, reached]
    exact ⟨_, found, rfl, rfl⟩

/-- An idle connection that is handed out is reached through the handle. -/
theorem Reachable.reach_of_granted {settings : Settings} {driver : σ}
    (reachable : Reachable settings driver world) (allowed : world.allows step = true)
    (granted : world.progress step = some (.granted w)) (idle : w ∈ world.pool.idle)
    (active : w ∈ (world.take step).pool.active) :
    ∃ conn, world.pool.slot w = some conn ∧
      (world.take step).reach world.handles.size = some conn := by
  have owns := reachable.sound.owns
  have later := (reachable.step step allowed).sound.owns
  have valid := (later.isValid_iff w).2
    (List.mem_append_left _ (List.mem_append_right _ active))
  have exist := Pool.lt_size_of_isValid ((owns.isValid_iff w).2
    (List.mem_append_left _ (List.mem_append_left _ idle)))
  obtain ⟨wrapper, conn, holds⟩ := later.toCoherent.exists_holds valid
  exact ⟨conn, (reachable.sound.turn step).slot_old exist holds.slot,
    reach_eq_some.2 ⟨w, checkout_of_granted granted, holds.reach⟩⟩

/-- What an acquisition gets from the idle queue, the call returns. -/
theorem Reachable.getsIdle {settings : Settings} {driver : σ}
    (reachable : Reachable settings driver world) (allowed : world.allows step = true)
    (called : world.call step = some (ticket, acquisition)) {rest : List WrapperId}
    (serves : Pool.Serves w rest (world.searches step) (world.ready step).pool
      ((world.ready step).pool.acquire world.settings acquisition).1 (world.parted step)) :
    GetsIdle step world w rest := by
  obtain ⟨granted, ⟨bad, queue, tries⟩, idle, active, connects⟩ := serves
  obtain ⟨⟨slept, waited⟩, -⟩ := ready_frame step world
  have progress : world.progress step = some (.granted w) := by
    rw [progress_of_call called, granted]
  rw [← parted_of_granted progress] at idle active connects
  rw [waited] at queue active connects
  have listed : w ∈ world.pool.idle := by
    rw [show world.pool.idle = bad ++ w :: rest from queue]
    exact List.mem_append_right _ List.mem_cons_self
  have handed : w ∈ (world.take step).pool.active := by
    rw [active]
    exact List.mem_append_right _ List.mem_cons_self
  exact {
    granted := progress
    tried := ⟨bad, queue, tries⟩
    reach := reachable.reach_of_granted allowed progress listed handed
    idle := idle
    active := active
    connects := connects }

/-- Nothing is idle in a closed pool. -/
theorem Reachable.idle_of_closed {settings : Settings} {driver : σ}
    (reachable : Reachable settings driver world) (closed : world.pool.closed = true) :
    world.pool.idle = [] := by
  have isOver : world.pool.closed = true → world.pool.Over := by
    clear closed
    induction reachable with
    | start => simp [World.start]
    | step earlier step _ ih => exact earlier.sound.over_take ih step
  exact (isOver closed).idle

/-- A search that finds something idle takes what has been idle longest. -/
theorem exists_oldest (settings : Settings) (who : Credentials) {search : Pool σ} {w : WrapperId}
    {rest : List WrapperId} (idle : search.idle = w :: rest) :
    ∃ found, search.nextCandidate settings who = (.ok (.ready w), found) ∧
      found.idle = rest ∧ found.active = search.active ∧
      found.env.requests = search.env.requests := by
  refine ⟨(search.takeIdle w rest).2, ?_, rfl, rfl, rfl⟩
  unfold Pool.nextCandidate
  rw [idle]
  rfl

/-- A search that has the driver asked for a new connection, or that claims a checkout, found
nothing idle. -/
theorem idle_of_lastResort {settings : Settings} {who : Credentials} {search : Pool σ}
    (owns : search.Owns []) (last : (search.nextCandidate settings who).2.env.connects ≠
      search.env.connects ∨ ∃ w, search.Claims settings who w) : search.idle = [] := by
  rcases last with opens | ⟨w, claims⟩
  · cases idle : search.idle with
    | nil => rfl
    | cons w rest =>
      have taken := Environment.talks_note (.takenFromIdle (search.realId w)) search.env
      unfold Pool.nextCandidate at opens
      rw [idle] at opens
      exact absurd taken.connects opens
  · exact (owns.claims_cases claims).1

/-- A call gives up exactly if it has rejected one candidate more than its limit. -/
theorem Reachable.givesUp_iff {settings : Settings} {driver : σ}
    (reachable : Reachable settings driver world)
    (called : world.call step = some (ticket, acquisition)) : world.GivesUp step ↔
      world.rejections step = world.settings.policy.badConnectionLimit + 1 := by
  have owns := (reachable.sound.toOrderly.ready step).owns
  have gaveUp := owns.acquire_gaveUp_iff world.settings acquisition
  simp only [reachable.rejected_of_call called, Nat.sub_zero, Nat.zero_add] at gaveUp
  rw [rejections_of_call called, GivesUp, progress_of_call called]
  constructor
  · rintro ⟨progress, same, bad, failed⟩
    cases same
    exact ((gaveUp bad).1 failed).1
  · intro spent
    exact ⟨_, rfl, _, (gaveUp _).2 ⟨spent, rfl⟩⟩

omit [Driver σ] in
/-- A limit that does not overflow covers all that is idle. -/
theorem Orderly.idle_le_limit (orderly : world.Orderly)
    (fits : world.settings.policy.maxIdle + world.settings.policy.tolerance < UInt64.size) :
    world.pool.idle.length ≤ world.settings.policy.badConnectionLimit := by
  rw [Policy.badConnectionLimit_of_fits fits]
  exact Nat.le_add_right_of_le orderly.idle

/-- Every call uses what is idle before anything else. -/
theorem Reachable.servesIdle {settings : Settings} {driver : σ}
    (reachable : Reachable settings driver world) (allowed : world.allows step = true)
    (called : world.call step = some (ticket, acquisition)) :
    ServesIdle step world acquisition.who := by
  have orderly := reachable.sound.toOrderly
  have owns := (orderly.ready step).owns
  obtain ⟨⟨slept, waited⟩, -⟩ := ready_frame step world
  have idle : (world.ready step).pool.idle = world.pool.idle := by rw [waited]; rfl
  have shut : (world.ready step).pool.closed = world.pool.closed := by rw [waited]; rfl
  have searched := searches_of_call called
  have owned := reachable.sound.owns_searches step
  have givesUp_iff := reachable.givesUp_iff called
  have progress := progress_of_call called
  have lookups := Pool.acquire_cases world.settings acquisition (world.ready step).pool
  rw [reachable.rejected_of_call called, Nat.sub_zero] at lookups
  unfold Pool.lookups at searched
  rw [reachable.rejected_of_call called, Nat.sub_zero] at searched
  rcases lookups with ⟨closed, -⟩ | ⟨stillOpen, acquires⟩
  · -- Nobody searches a closed pool, and nothing is idle in it.
    have none := reachable.idle_of_closed (shut ▸ closed)
    rw [if_pos closed] at searched
    constructor
    case givesUp_iff => exact givesUp_iff
    all_goals simp [searched, none, Pool.sift]
  · rw [if_neg (by simp [stillOpen])] at searched
    constructor
    case inTurn =>
      intro place search found
      rw [searched] at found
      rw [← idle]
      exact owns.idle_searches found
    case oldest => exact fun search _ w rest => exists_oldest world.settings acquisition.who
    case goesOn =>
      intro place search found bad few
      rw [searched] at found ⊢
      exact Pool.lt_length_searches found bad few
    case lastResort => exact fun search listed => idle_of_lastResort (owned search listed)
    case first =>
      intro goesOn w rest good
      rw [← idle] at good
      have serves := acquires.serves owns (fun gaveUp => goesOn ⟨_, progress, gaveUp⟩) good
      rw [← searched, ← parted_of_call called] at serves
      exact reachable.getsIdle allowed called serves
    case none =>
      intro goesOn none
      rw [← idle] at none ⊢
      have spent := acquires.spends owns (fun gaveUp => goesOn ⟨_, progress, gaveUp⟩) none
      rwa [rejections, asks_of_call called, Option.elim_some, searched]
    case givesUp_iff => exact givesUp_iff
    case covers =>
      intro fits givesUp
      have spent := givesUp_iff.1 givesUp
      obtain ⟨_, same, gaveUp⟩ := givesUp
      rw [progress] at same
      cases same
      have enough := Nat.le_succ_of_le (orderly.idle_le_limit fits)
      rw [← idle] at enough ⊢
      exact ⟨acquires.sift_of_gaveUp owns enough gaveUp, enough.trans_eq spent.symm⟩

/-! ## Runs -/

/-- The steps of a run since the last barrier. -/
def sinceBarrier (past : List (World σ × Step σ)) : List (World σ × Step σ) :=
  past.takeWhile fun visit => !visit.2.closesAll

omit [Driver σ] in
theorem sinceBarrier_of_barrier (barrier : step.IsBarrier) (past : List (World σ × Step σ)) :
    sinceBarrier ((world, step) :: past) = [] := by
  rw [sinceBarrier, List.takeWhile_cons, (step.closesAll_iff).2 barrier]
  rfl

omit [Driver σ] in
theorem sinceBarrier_of_goesOn (goesOn : ¬ step.IsBarrier) (past : List (World σ × Step σ)) :
    sinceBarrier ((world, step) :: past) = (world, step) :: sinceBarrier past := by
  rw [← step.closesAll_iff, Bool.not_eq_true] at goesOn
  rw [sinceBarrier, List.takeWhile_cons, goesOn]
  rfl

/-- Since the last barrier, those that were taken out of the queue were the first that had
joined it, and the others are what is idle. Once nobody can reach the pool, the others are
gone. -/
theorem Leads.idleConns {settings : Settings} {driver : σ} {past : List (World σ × Step σ)}
    (leads : (World.start settings driver).Leads past world) :
    ∃ left, gather parked (sinceBarrier past) = gather reused (sinceBarrier past) ++ left ∧
      (left = world.pool.idleConns ∨ world.isAbandoned = true) := by
  induction leads with
  | refl => exact ⟨[], rfl, .inl rfl⟩
  | @step past world earlier step allowed ih =>
    have reachable := earlier.reachable .start
    by_cases barrier : step.IsBarrier
    · rw [sinceBarrier_of_barrier barrier]
      exact ⟨[], rfl, .inl (reachable.sound.idleConns_of_barrier barrier).symm⟩
    · rw [sinceBarrier_of_goesOn barrier, gather_cons, gather_cons]
      -- The pool that nobody can reach is emptied, but nobody takes anything out of it or puts
      -- anything in, so from then on the two lists stay as they were.
      obtain ⟨before, split, here | gone⟩ := ih
      · obtain ⟨left, moved, after⟩ := reachable.idleConns_take barrier
        refine ⟨left, ?_, after⟩
        rw [split, here, List.append_assoc, moved, List.append_assoc]
      · obtain ⟨quiet, kept, still⟩ := quiet_of_abandoned gone allowed
        refine ⟨before, ?_, .inr still⟩
        rw [reused_of_quiet quiet, parked, kept, Option.bind_none, Option.elim_none,
          List.append_nil, List.append_nil, split]

/-- How connections have been reused in a run that led from a new pool to the world `world`, and
how they are reused in whatever step comes next. -/
structure ReusesInOrder (past : List (World σ × Step σ)) (world : World σ) : Prop where
  /-- Since the last barrier, the connections that were taken out of the idle queue are the
  first of those that had joined it, in the same order. -/
  order : gather reused (sinceBarrier past) <+: gather parked (sinceBarrier past)
  /-- The others are idle, in the same order, as long as anybody can reach the pool. -/
  left : world.isAbandoned = false → gather parked (sinceBarrier past) =
    gather reused (sinceBarrier past) ++ world.pool.idleConns
  /-- Only the connection of a handle that is given back joins the queue. -/
  parks : ∀ step, world.parked step = [] ∨ ∃ h conn, step.returns = some h ∧
    world.reach h = some conn ∧ world.parked step = [conn]
  /-- Every call uses what is idle before anything else. -/
  serves : ∀ step ticket acquisition, world.allows step = true →
    world.call step = some (ticket, acquisition) → ServesIdle step world acquisition.who

/-- In every run, connections are reused in the order in which they were given back. -/
theorem reusesInOrder_of_leads {settings : Settings} {driver : σ}
    {past : List (World σ × Step σ)} (leads : (World.start settings driver).Leads past world) :
    ReusesInOrder past world := by
  have reachable := leads.reachable .start
  obtain ⟨left, split, rest⟩ := leads.idleConns
  constructor
  case order =>
    rw [split]
    exact List.prefix_append _ _
  case left =>
    intro reached
    rcases rest with same | gone
    · rw [split, same]
    · rw [gone] at reached
      cases reached
  case parks => exact fun step => reachable.parked_cases step
  case serves => exact fun step _ _ allowed called => reachable.servesIdle allowed called

/-- When there is room for three connections, they are checked out and given back in another
order. The one that was given back first dies before somebody asks for one. -/
def reusingSteps : List (Step Simulation.State) :=
  [.act (.change (.maxActive 3)), .act (.change (.maxIdle 3)), .act (.acquire none),
    .act (.acquire none), .act (.acquire none), .act (.request 1 .close), .act (.drop 0),
    .act (.request 2 .close),
    .act (.disturb fun driver =>
      { driver with
        connections := driver.connections.modify 1 ({ · with behaviour.dead := true }) }),
    .act (.acquire none)]

/-- The dead connection is taken first, and the handle is on the one that was given back after
it. The last one is still idle, and the next caller gets that. -/
theorem reusesInOrder_returned : ∃ world,
    (World.start tightSettings {}).follow reusingSteps = some world ∧
    gather parked (sinceBarrier ((World.start tightSettings {}).trail reusingSteps [])) =
      [1, 0, 2] ∧
    gather reused (sinceBarrier ((World.start tightSettings {}).trail reusingSteps [])) =
      [1, 0] ∧
    world.pool.idleConns = [2] ∧ world.reach 3 = some 0 ∧
    ReusesInOrder ((World.start tightSettings {}).trail reusingSteps []) world ∧
    ¬ world.GivesUp (.act (.acquire none)) ∧ GetsIdle (.act (.acquire none)) world 5 [] := by
  have run : ((World.start tightSettings ({} : Simulation.State)).follow reusingSteps).map
      (fun world => ((world.pool.idleConns, world.reach 3),
        (world.settings.policy.maxIdle + world.settings.policy.tolerance,
          (world.ready (.act (.acquire none))).pool.sift world.settings.policy world.pool.idle),
        world.allows (.act (.acquire none)), (world.call (.act (.acquire none))).isSome)) =
      some (([2], some 0), (6, [5]), true, true) := by decide +kernel
  obtain ⟨world, found, seen⟩ := Option.map_eq_some_iff.1 run
  simp only [Prod.mk.injEq] at seen
  obtain ⟨⟨idle, reach⟩, ⟨sum, good⟩, allowed, calls⟩ := seen
  obtain ⟨⟨ticket, acquisition⟩, called⟩ := Option.isSome_iff_exists.1 calls
  have reuses := reusesInOrder_of_leads (Leads.refl.follow found)
  have serves := reuses.serves _ ticket acquisition allowed called
  have goesOn : ¬ world.GivesUp (.act (.acquire none)) := by
    intro givesUp
    have none := (serves.covers (by rw [sum]; decide) givesUp).1
    rw [good] at none
    cases none
  refine ⟨world, found, ?_, ?_, idle, reach, reuses, goesOn, serves.first goesOn 5 [] good⟩
  · decide +kernel
  · decide +kernel

end World

end ConnectionPooling
