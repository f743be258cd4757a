/-
# How much a pool may take on

A pool answers for its idle connections and its checkouts; together they are its
load, and the load never exceeds the number of checkouts that the policy allows.
That the checkouts alone stay below that number follows from this only: an idle
connection is taken without a look at how many are checked out.

The module also says what an acquisition does with the room that is left, which
is what sleeping callers wait for, and at which of its searches it asks the driver
for a new connection.
-/

import ConnectionPooling.Proofs.Checkout

namespace ConnectionPooling

/-- The error says that a caller gave up although the pool had room: a new
connection could not be opened, or too many candidates were bad. -/
def PoolError.isSetback : PoolError → Bool
  | .connectFailure .. => true
  | .exhausted (.tooManyBad ..) => true
  | _ => false

/-- How an acquisition that came to `progress` changed the room for more checkouts
from `before` to `after`. A granted one took a place, or the place of a checkout
that it claimed; one that fell asleep found no place and left none; one that met a
setback left at least one. -/
def Progress.Uses (before : Nat) (progress : Progress) (after : Nat) : Prop :=
  match progress with
  | .granted _ => after = before - 1
  | .asleep _ => before = 0 ∧ after = 0
  | .failed error => if error.isSetback then after = max before 1 else before = 0 ∧ after = 0

/-- An acquisition that begins by rejecting a candidate finds a place at the
latest then. -/
theorem Progress.Uses.of_max {before after : Nat} {progress : Progress}
    (uses : progress.Uses (max before 1) after) : progress.Uses before after := by
  cases progress with
  | granted w =>
    simp only [Uses] at uses ⊢
    omega
  | asleep acquisition =>
    simp only [Uses] at uses
    omega
  | failed error =>
    simp only [Uses] at uses ⊢
    split at uses
    · rename_i setback
      rw [if_pos setback]
      omega
    · omega

namespace Pool

variable {σ : Type}

/-- How many connections the pool answers for. -/
def load (pool : Pool σ) : Nat :=
  pool.idle.length + pool.active.length

/-- How many more connections may be checked out. -/
def room (policy : Policy) (pool : Pool σ) : Nat :=
  policy.maxActive - pool.active.length

/-- No connection is idle and another one may be checked out, so that one has to be opened for
it. -/
def mayOpen (policy : Policy) (pool : Pool σ) : Bool :=
  pool.idle.isEmpty && decide (pool.active.length < policy.maxActive)

theorem mayOpen_iff {policy : Policy} {pool : Pool σ} :
    pool.mayOpen policy = true ↔ pool.idle = [] ∧ pool.active.length < policy.maxActive := by
  simp [mayOpen]

theorem Draws.load_le {before after : Pool σ} (draws : before.Draws after) :
    after.load ≤ before.load :=
  Nat.add_le_add draws.idle.length_le draws.active.length_le

/-- Every connection that was opened and not closed is one that the pool answers
for. -/
theorem Owns.length_le_load {pool : Pool σ} (owns : pool.Owns []) {conns : List ConnId}
    (nodup : conns.Nodup)
    (unclosed : ∀ conn ∈ conns, pool.env.hasOpened conn = true ∧ pool.env.closes conn = 0) :
    conns.length ≤ pool.load := by
  have listed : conns ⊆ (pool.idle ++ pool.active).filterMap pool.slot := by
    intro conn hconn
    obtain ⟨opened, notClosed⟩ := unclosed conn hconn
    by_contra lost
    have free : ¬ pool.IsHeld conn := by
      rintro ⟨w, hw⟩
      exact lost (List.mem_filterMap.2 ⟨w, by simpa using owns.mem_of_slot hw, hw⟩)
    have one := owns.accounts.closes_lost ((owns.accounts.hasOpened_iff conn).1 opened) free
    omega
  calc conns.length
      ≤ ((pool.idle ++ pool.active).filterMap pool.slot).length :=
        nodup.length_le_of_subset listed
    _ ≤ (pool.idle ++ pool.active).length := List.length_filterMap_le _ _
    _ = pool.load := List.length_append

variable [Driver σ]

/-- The pools in which an acquisition that may still reject `budget` candidates and
go on looks for a candidate, in the order in which it does so. -/
def searches (settings : Settings) (acquisition : Acquisition) (budget : Nat)
    (pool : Pool σ) : List (Pool σ) :=
  pool ::
    match pool.nextCandidate settings acquisition.who with
    | (.ok (.ready w), found) =>
        match found.vet settings.policy w with
        | (.error rejection, vetted) =>
            match budget with
            | 0 => []
            | budget + 1 =>
                searches settings { acquisition with rejected := acquisition.rejected + 1 } budget
                  (vetted.countBad.note (.candidateRejected rejection))
        | _ => []
    | _ => []

/-- An acquisition begins to look where it stands. -/
theorem mem_searches_self (settings : Settings) (acquisition : Acquisition) (budget : Nat)
    (pool : Pool σ) : pool ∈ pool.searches settings acquisition budget := by
  unfold searches
  exact List.mem_cons_self

/-- A search that yields no candidate is the last one. -/
theorem searches_of_end {settings : Settings} {acquisition : Acquisition} (budget : Nat)
    {pool found : Pool σ} {result : Except PoolError Candidate}
    (search : pool.nextCandidate settings acquisition.who = (result, found))
    (none : inHand result = []) : pool.searches settings acquisition budget = [pool] := by
  unfold searches
  rw [search]
  cases result with
  | error error => rfl
  | ok candidate =>
    cases candidate with
    | mustWait => rfl
    | ready w => cases none

/-- A search that yields a good candidate is the last one. -/
theorem searches_of_good {settings : Settings} {acquisition : Acquisition} (budget : Nat)
    {pool found vetted : Pool σ} {w : WrapperId}
    (search : pool.nextCandidate settings acquisition.who = (.ok (.ready w), found))
    (vet : found.vet settings.policy w = (.ok (), vetted)) :
    pool.searches settings acquisition budget = [pool] := by
  unfold searches
  rw [search]
  dsimp only
  rw [vet]

/-- A search that yields a bad candidate is the last one if no more may be rejected. -/
theorem searches_of_one_too_many {settings : Settings} {acquisition : Acquisition}
    {pool found vetted : Pool σ} {w : WrapperId} {rejection : Rejection}
    (search : pool.nextCandidate settings acquisition.who = (.ok (.ready w), found))
    (vet : found.vet settings.policy w = (.error rejection, vetted)) :
    pool.searches settings acquisition 0 = [pool] := by
  unfold searches
  rw [search]
  dsimp only
  rw [vet]

/-- A search that yields a bad candidate is followed by another one as long as more may be
rejected. -/
theorem searches_of_bad {settings : Settings} {acquisition : Acquisition} (budget : Nat)
    {pool found vetted : Pool σ} {w : WrapperId} {rejection : Rejection}
    (search : pool.nextCandidate settings acquisition.who = (.ok (.ready w), found))
    (vet : found.vet settings.policy w = (.error rejection, vetted)) :
    pool.searches settings acquisition (budget + 1) =
      pool :: (vetted.countBad.note (.candidateRejected rejection)).searches settings
        { acquisition with rejected := acquisition.rejected + 1 } budget := by
  rw [searches, search]
  dsimp only
  rw [vet]

/-- The pools in which an acquisition looks for a candidate before it is finished or
sleeps. A closed pool is not searched. -/
def lookups (settings : Settings) (acquisition : Acquisition) (pool : Pool σ) :
    List (Pool σ) :=
  if pool.closed then []
  else pool.searches settings acquisition
    (settings.policy.badConnectionLimit - acquisition.rejected)

/-- Either a closed pool refuses the acquisition as it is, or the acquisition proceeds search by
search. -/
theorem lookups_cases (settings : Settings) (acquisition : Acquisition) (pool : Pool σ) :
    (pool.lookups settings acquisition = [] ∧ pool.acquire settings acquisition =
      (.failed (if acquisition.waited then .waitInterrupted else .closed), pool)) ∨
    (pool.lookups settings acquisition = pool.searches settings acquisition
        (settings.policy.badConnectionLimit - acquisition.rejected) ∧
      Acquires settings acquisition (settings.policy.badConnectionLimit - acquisition.rejected)
        pool (pool.acquire settings acquisition).1 (pool.acquire settings acquisition).2) := by
  unfold lookups
  rcases acquire_cases settings acquisition pool with ⟨closed, refused⟩ | ⟨closed, acquires⟩
  · exact .inl ⟨if_pos closed, refused⟩
  · exact .inr ⟨if_neg (by simp [closed]), acquires⟩

/-- Only an acquisition that proceeds searches a pool. -/
theorem acquires_of_mem_lookups {settings : Settings} {acquisition : Acquisition}
    {pool found : Pool σ} (listed : found ∈ pool.lookups settings acquisition) :
    found ∈ pool.searches settings acquisition
        (settings.policy.badConnectionLimit - acquisition.rejected) ∧
      Acquires settings acquisition (settings.policy.badConnectionLimit - acquisition.rejected)
        pool (pool.acquire settings acquisition).1 (pool.acquire settings acquisition).2 := by
  rcases lookups_cases settings acquisition pool with ⟨none, -⟩ | ⟨searched, acquires⟩
  · rw [none] at listed
    cases listed
  · exact ⟨searched ▸ listed, acquires⟩

namespace Finds

variable {settings : Settings} {who : Credentials} {pool after : Pool σ}
  {result : Except PoolError Candidate}

/-- What is listed after a search, together with the candidate, is not more than
the policy allows. -/
theorem load (finds : Finds settings who pool result after)
    (fits : pool.load ≤ settings.policy.maxActive) :
    after.load + (inHand result).length ≤ settings.policy.maxActive := by
  unfold Pool.load at fits ⊢
  cases finds with
  | idle idle =>
    rw [idle, List.length_cons] at fits
    simp only [note, inHand, List.length_singleton]
    omega
  | opened idle room =>
    simp only [note, enrol, idle, List.length_nil, inHand, List.length_singleton]
    omega
  | refused => exact fits
  | noCapacity => exact fits
  | mustWait => exact fits
  | claimed idle active =>
    rw [active, List.length_cons] at fits
    simp only [renew, wrap, alter, inHand, List.length_singleton]
    omega

/-- How a search changes the room for more checkouts. A candidate in hand leaves
a place for itself. -/
theorem room (finds : Finds settings who pool result after)
    (fits : pool.load ≤ settings.policy.maxActive) :
    match result with
    | .ok (.ready _) => after.room settings.policy = max (pool.room settings.policy) 1
    | .ok .mustWait => pool.room settings.policy = 0 ∧ after.room settings.policy = 0
    | .error error => (Progress.failed error).Uses (pool.room settings.policy)
        (after.room settings.policy) := by
  unfold Pool.load at fits
  unfold Pool.room
  cases finds with
  | idle idle =>
    rw [idle, List.length_cons] at fits
    simp only [note]
    omega
  | opened idle room =>
    simp only [note, enrol]
    omega
  | refused idle room =>
    simp only [Progress.Uses, PoolError.isSetback, if_true]
    omega
  | noCapacity idle active full =>
    simp only [Progress.Uses, PoolError.isSetback, full, Nat.zero_sub]
    simp
  | mustWait idle active full =>
    simp only
    omega
  | claimed idle active full =>
    rw [active, List.length_cons] at fits full ⊢
    simp only
    omega

/-- A search asks the driver for a connection, once, exactly if none is idle and
another one may be checked out. -/
theorem connects (finds : Finds settings who pool result after) :
    after.env.connects =
      pool.env.connects + if pool.mayOpen settings.policy = true then 1 else 0 := by
  cases finds with
  | idle idle =>
    rw [if_neg (by simp [mayOpen_iff, idle])]
    exact (Environment.talks_note _ _).connects
  | opened idle room _ opens =>
    rw [if_pos (mayOpen_iff.2 ⟨idle, room⟩)]
    exact (opens.talks (Environment.talks_note _ _)).connects
  | refused idle room _ refuses =>
    rw [if_pos (mayOpen_iff.2 ⟨idle, room⟩)]
    exact refuses.connects
  | noCapacity _ _ full =>
    rw [if_neg (by simp [mayOpen_iff, full]), Nat.add_zero]
  | mustWait _ _ full =>
    rw [if_neg (by simp [mayOpen_iff, full]), Nat.add_zero]
  | claimed _ _ full _ _ talks =>
    rw [if_neg (by simp [mayOpen_iff, full])]
    exact talks.connects

end Finds

/-- While a candidate is in hand, checked or not, there is room for it. -/
theorem Owns.room_vetted {settings : Settings} {who : Credentials} {pool found vetted : Pool σ}
    {w : WrapperId} {outcome : Except Rejection Unit} (owns : pool.Owns [])
    (fits : pool.load ≤ settings.policy.maxActive)
    (search : pool.nextCandidate settings who = (.ok (.ready w), found))
    (vet : found.vet settings.policy w = (outcome, vetted)) :
    vetted.room settings.policy = max (pool.room settings.policy) 1 := by
  have finds := owns.search search
  have checks := (finds.owns owns).vet vet
  calc vetted.room settings.policy
      = found.room settings.policy := by rw [Pool.room, checks.active, Pool.room]
    _ = max (pool.room settings.policy) 1 := finds.room fits

/-- A search and the check of its candidate ask for a connection where the search
does. -/
theorem Owns.connects_vetted {settings : Settings} {who : Credentials}
    {pool found vetted : Pool σ} {w : WrapperId} {outcome : Except Rejection Unit}
    (owns : pool.Owns []) (search : pool.nextCandidate settings who = (.ok (.ready w), found))
    (vet : found.vet settings.policy w = (outcome, vetted)) :
    vetted.env.connects =
      pool.env.connects + if pool.mayOpen settings.policy = true then 1 else 0 := by
  have finds := owns.search search
  have checks := (finds.owns owns).vet vet
  exact checks.connects.trans finds.connects

namespace Acquires

variable {settings : Settings} {acquisition : Acquisition} {budget : Nat}
  {pool after : Pool σ} {progress : Progress}

/-- However an acquisition ends, the pool answers for no more than it may. -/
theorem load (acquires : Acquires settings acquisition budget pool progress after)
    (owns : pool.Owns []) (fits : pool.load ≤ settings.policy.maxActive) :
    after.load ≤ settings.policy.maxActive := by
  induction acquires with
  | failed search => exact Nat.le_trans (owns.search search).draws.load_le fits
  | asleep search =>
    exact Nat.le_trans (draws_fallAsleep _ _ _).load_le
      (Nat.le_trans (owns.search search).draws.load_le fits)
  | @granted _ _ pool found vetted w search vet =>
    have finds := owns.search search
    have checks := (finds.owns owns).vet vet
    have enough := finds.load fits
    unfold Pool.load at enough ⊢
    rw [inHand, List.length_singleton, ← checks.idle, ← checks.active] at enough
    simp only [handOut, count, alter, List.length_append, List.length_singleton]
    omega
  | gaveUp search vet => exact Nat.le_trans (owns.reject search vet).2.load_le fits
  | again search vet _ ih =>
    obtain ⟨rest, draws⟩ := owns.reject search vet
    exact ih rest (Nat.le_trans draws.load_le fits)

/-- What an acquisition does with the room for more checkouts depends on what it
comes to only, and not on what happened in between. -/
theorem room (acquires : Acquires settings acquisition budget pool progress after)
    (owns : pool.Owns []) (fits : pool.load ≤ settings.policy.maxActive) :
    progress.Uses (pool.room settings.policy) (after.room settings.policy) := by
  induction acquires with
  | failed search => exact (owns.search search).room fits
  | @asleep acquisition _ pool found search =>
    have none := (owns.search search).room fits
    have same : (found.fallAsleep settings.policy acquisition).2.room settings.policy =
        found.room settings.policy := by
      unfold fallAsleep
      cases acquisition.waited <;> rfl
    rw [← same] at none
    exact none
  | granted search vet =>
    have place := owns.room_vetted fits search vet
    simp only [Progress.Uses]
    simp only [Pool.room, handOut, count, alter, List.length_append,
      List.length_singleton] at place ⊢
    omega
  | gaveUp search vet =>
    have place := owns.room_vetted fits search vet
    exact place
  | @again _ _ pool found vetted _ w rejection _ search vet _ ih =>
    obtain ⟨rest, draws⟩ := owns.reject search vet
    -- The rejected candidate leaves its place to the searches that follow.
    have uses := ih rest (Nat.le_trans draws.load_le fits)
    have place := owns.room_vetted fits search vet
    have same : (vetted.countBad.note (.candidateRejected rejection)).room settings.policy =
        vetted.room settings.policy := rfl
    rw [same, place] at uses
    exact uses.of_max

/-- An acquisition asks the driver for a connection once for each of its searches
that finds none idle and may have another one checked out, and at no other time. -/
theorem connects (acquires : Acquires settings acquisition budget pool progress after)
    (owns : pool.Owns []) :
    after.env.connects = pool.env.connects +
      (pool.searches settings acquisition budget).countP (·.mayOpen settings.policy) := by
  induction acquires with
  | @failed _ budget _ _ _ search =>
    rw [searches_of_end budget search rfl, List.countP_singleton]
    exact (owns.search search).connects
  | @asleep acquisition budget pool found search =>
    rw [searches_of_end budget search rfl, List.countP_singleton,
      ← (owns.search search).connects]
    unfold fallAsleep
    split
    · exact (Environment.talks_note _ _).connects
    · exact (Environment.talks_note _ _).connects
  | @granted _ budget _ _ _ _ search vet =>
    rw [searches_of_good budget search vet, List.countP_singleton,
      ← owns.connects_vetted search vet]
    rfl
  | gaveUp search vet =>
    rw [searches_of_one_too_many search vet, List.countP_singleton,
      ← owns.connects_vetted search vet]
    exact (Environment.talks_note _ _).connects.trans (Environment.talks_note _ _).connects
  | @again acquisition budget pool found vetted after w rejection progress search vet _ ih =>
    have asked := owns.connects_vetted search vet
    have said : (vetted.countBad.note (.candidateRejected rejection)).env.connects =
        vetted.env.connects := (Environment.talks_note _ _).connects
    rw [searches_of_bad budget search vet, List.countP_cons, ih (owns.reject search vet).1,
      said, asked]
    omega

/-- Wherever an acquisition looks for a candidate, all connections are owned
properly. -/
theorem owns_searches (acquires : Acquires settings acquisition budget pool progress after)
    (owns : pool.Owns []) : ∀ found ∈ pool.searches settings acquisition budget,
      found.Owns [] := by
  induction acquires with
  | @failed _ budget _ _ _ search =>
    rw [searches_of_end budget search rfl]
    simpa using owns
  | @asleep _ budget _ _ search =>
    rw [searches_of_end budget search rfl]
    simpa using owns
  | @granted _ budget _ _ _ _ search vet =>
    rw [searches_of_good budget search vet]
    simpa using owns
  | gaveUp search vet =>
    rw [searches_of_one_too_many search vet]
    simpa using owns
  | @again _ budget _ _ _ _ _ _ _ search vet _ ih =>
    rw [searches_of_bad budget search vet]
    exact List.forall_mem_cons.2 ⟨owns, ih (owns.reject search vet).1⟩

/-- Until an acquisition hands something out, it only draws on the pool. -/
theorem draws_searches (acquires : Acquires settings acquisition budget pool progress after)
    (owns : pool.Owns []) : ∀ found ∈ pool.searches settings acquisition budget,
      pool.Draws found := by
  have here (pool : Pool σ) : ∀ found ∈ [pool], pool.Draws found :=
    List.forall_mem_singleton.2 (.refl pool)
  induction acquires with
  | @failed _ budget _ _ _ search =>
    rw [searches_of_end budget search rfl]
    exact here _
  | @asleep _ budget _ _ search =>
    rw [searches_of_end budget search rfl]
    exact here _
  | @granted _ budget _ _ _ _ search vet =>
    rw [searches_of_good budget search vet]
    exact here _
  | gaveUp search vet =>
    rw [searches_of_one_too_many search vet]
    exact here _
  | @again _ budget _ _ _ _ _ _ _ search vet _ ih =>
    obtain ⟨rest, draws⟩ := owns.reject search vet
    rw [searches_of_bad budget search vet]
    refine List.forall_mem_cons.2 ⟨.refl _, ?_⟩
    exact fun found hfound => draws.trans (ih rest found hfound)

end Acquires

/-- An acquisition asks the driver for a connection as often as it looks for a
candidate where none is idle and another one may be checked out. -/
theorem Owns.acquire_connects {pool : Pool σ} (owns : pool.Owns []) (settings : Settings)
    (acquisition : Acquisition) :
    (pool.acquire settings acquisition).2.env.connects = pool.env.connects +
      (pool.lookups settings acquisition).countP (·.mayOpen settings.policy) := by
  rcases lookups_cases settings acquisition pool with ⟨none, refused⟩ | ⟨searched, acquires⟩
  · rw [refused, none, List.countP_nil, Nat.add_zero]
  · rw [searched]
    exact acquires.connects owns

theorem Owns.owns_lookups {pool : Pool σ} (owns : pool.Owns []) (settings : Settings)
    (acquisition : Acquisition) : ∀ found ∈ pool.lookups settings acquisition,
      found.Owns [] := by
  intro found listed
  obtain ⟨searched, acquires⟩ := acquires_of_mem_lookups listed
  exact acquires.owns_searches owns found searched

theorem Owns.draws_lookups {pool : Pool σ} (owns : pool.Owns []) (settings : Settings)
    (acquisition : Acquisition) : ∀ found ∈ pool.lookups settings acquisition,
      pool.Draws found := by
  intro found listed
  obtain ⟨searched, acquires⟩ := acquires_of_mem_lookups listed
  exact acquires.draws_searches owns found searched

end Pool

end ConnectionPooling
