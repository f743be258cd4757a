/-
# Which checkouts are counted

The totals of checkout time are the sums over the stays in the ledger of a run. This module
says what a stay is a stay of: of one checkout, that of a handle that was not given back,
from the moment at which its acquisition got the connection to a moment of the step in
which the pool took it away or took it back. After that step nothing can be reached through
the handle, whatever else happens to it, so that no checkout has two stays and a handle
that is given back late adds nothing.

That a checkout is as old as its handle is carried through a run by `Thins`: whatever the
pool does, those checkouts that it does not end were made when they were made.
-/

import ConnectionPooling.Proofs.Ledger
import ConnectionPooling.Proofs.Tenure

namespace ConnectionPooling

variable {σ α : Type}

namespace Pool

/-- From `before` to `after` time passed and no checkout was made. Those that are left are
what they were. -/
structure Thins (before after : Pool σ) : Prop where
  clock : before.now ≤ after.now
  fewer : ∀ w ∈ after.active, w ∈ before.active
  stamp : ∀ w ∈ after.active, after.checkoutAt w = before.checkoutAt w

theorem Thins.refl (pool : Pool σ) : pool.Thins pool :=
  ⟨Nat.le_refl _, fun _ => id, fun _ _ => rfl⟩

theorem Thins.trans {before mid after : Pool σ} (first : before.Thins mid)
    (second : mid.Thins after) : before.Thins after where
  clock := Nat.le_trans first.clock second.clock
  fewer w listed := first.fewer w (second.fewer w listed)
  stamp w listed := (second.stamp w listed).trans (first.stamp w (second.fewer w listed))

theorem Thins.note {before after : Pool σ} (thins : before.Thins after) (event : Event) :
    before.Thins (after.note event) :=
  ⟨thins.clock, thins.fewer, thins.stamp⟩

theorem Checks.thins {pool after : Pool σ} {w : WrapperId} {result : Except Rejection Unit}
    (checks : Checks w pool result after) : pool.Thins after := by
  cases checks with
  | good talks => exact ⟨talks.clock, fun _ => id, fun _ _ => rfl⟩
  | bad _ _ shuts =>
    exact ⟨shuts.clock, fun _ => id, fun v _ => pool.checkoutAt_alter fun _ => rfl⟩

theorem thins_fallAsleep (policy : Policy) (acquisition : Acquisition) (pool : Pool σ) :
    pool.Thins (pool.fallAsleep policy acquisition).2 := by
  unfold fallAsleep
  cases acquisition.waited with
  | true => exact ⟨Nat.le_refl _, fun _ => id, fun _ _ => rfl⟩
  | false => exact ⟨Nat.le_refl _, fun _ => id, fun _ _ => rfl⟩

variable [Driver σ]

theorem Finds.thins {settings : Settings} {who : Credentials} {pool after : Pool σ}
    {result : Except PoolError Candidate} (finds : Finds settings who pool result after)
    (owns : pool.Owns []) : pool.Thins after := by
  cases finds with
  | idle => exact ⟨Nat.le_refl _, fun _ => id, fun _ _ => rfl⟩
  | opened _ _ _ opens =>
    refine ⟨opens.clock, fun _ => id, fun v listed => ?_⟩
    exact pool.checkoutAt_enrol _ _ (owns.lt_size listed)
  | refused _ _ _ refuses => exact ⟨refuses.clock, fun _ => id, fun _ _ => rfl⟩
  | noCapacity => exact .refl pool
  | mustWait => exact .refl pool
  | @claimed w rest old conn _ _ active _ _ _ talks =>
    have fewer : ∀ v ∈ rest, v ∈ pool.active := by
      intro v listed
      rw [active]
      exact List.mem_cons_of_mem w listed
    exact ⟨talks.clock, fewer, fun v listed =>
      pool.checkoutAt_renew old conn (owns.lt_size (fewer v listed))⟩

theorem Owns.thins_reject {settings : Settings} {who : Credentials} {pool found vetted : Pool σ}
    {w : WrapperId} {rejection : Rejection} (owns : pool.Owns [])
    (search : pool.nextCandidate settings who = (.ok (.ready w), found))
    (vet : found.vet settings.policy w = (.error rejection, vetted)) :
    pool.Thins (vetted.countBad.note (.candidateRejected rejection)) := by
  have finds := owns.search search
  have thins := (finds.thins owns).trans ((finds.owns owns).vet vet).thins
  exact ⟨thins.clock, thins.fewer, thins.stamp⟩

/-- An acquisition goes on from each pool in which it looks for a candidate, and it has made
no checkout by then. -/
theorem Acquires.goes_on {settings : Settings} {acquisition : Acquisition} {budget : Nat}
    {pool after : Pool σ} {progress : Progress}
    (acquires : Acquires settings acquisition budget pool progress after)
    (owns : pool.Owns []) :
    ∀ found ∈ pool.searches settings acquisition budget,
      pool.Thins found ∧ found.Owns [] ∧ ∃ again more, again.who = acquisition.who ∧
        Acquires settings again more found progress after := by
  have here : pool.Thins pool ∧ pool.Owns [] ∧ ∃ again more, again.who = acquisition.who ∧
      Acquires settings again more pool progress after :=
    ⟨.refl pool, owns, acquisition, budget, rfl, acquires⟩
  induction acquires with
  | @failed _ budget _ _ _ search =>
    rw [searches_of_end budget search rfl]
    exact List.forall_mem_singleton.2 here
  | @asleep _ budget _ _ search =>
    rw [searches_of_end budget search rfl]
    exact List.forall_mem_singleton.2 here
  | @granted _ budget _ _ _ _ search vet =>
    rw [searches_of_good budget search vet]
    exact List.forall_mem_singleton.2 here
  | gaveUp search vet =>
    rw [searches_of_one_too_many search vet]
    exact List.forall_mem_singleton.2 here
  | @again _ budget _ _ _ _ _ _ _ search vet rest ih =>
    have owned := (owns.reject search vet).1
    rw [searches_of_bad budget search vet]
    refine List.forall_mem_cons.2 ⟨here, fun found listed => ?_⟩
    obtain ⟨thins, goesOn⟩ := ih owned ⟨.refl _, owned, _, _, rfl, rest⟩ found listed
    exact ⟨(owns.thins_reject search vet).trans thins, goesOn⟩

/-- From `before` to `after` time passed. Each checkout is what it was, or it has just been
made and is one of those that were granted. -/
structure Checkouts (granted : List WrapperId) (before after : Pool σ) : Prop where
  clock : before.now ≤ after.now
  cases : ∀ w ∈ after.active,
    (w ∈ before.active ∧ after.checkoutAt w = before.checkoutAt w) ∨
      (w ∈ granted ∧ after.checkoutAt w = after.now)

omit [Driver σ] in
theorem Thins.checkouts {before after : Pool σ} (thins : before.Thins after)
    (granted : List WrapperId) : Checkouts granted before after :=
  ⟨thins.clock, fun w listed => .inl ⟨thins.fewer w listed, thins.stamp w listed⟩⟩

omit [Driver σ] in
theorem Thins.trans_checkouts {granted : List WrapperId} {before mid after : Pool σ}
    (thins : before.Thins mid) (checkouts : Checkouts granted mid after) :
    Checkouts granted before after where
  clock := Nat.le_trans thins.clock checkouts.clock
  cases w listed := by
    refine (checkouts.cases w listed).imp_left ?_
    rintro ⟨before, same⟩
    exact ⟨thins.fewer w before, same.trans (thins.stamp w before)⟩

omit [Driver σ] in
theorem Owns.checkouts_handOut {pool : Pool σ} {w : WrapperId} (owns : pool.Owns [w])
    (code : Fingerprint) (started : Instant) :
    Checkouts [w] pool (pool.handOut code started w) := by
  have exist := lt_size_of_isValid owns.isValid_hand
  have stamped (v : WrapperId) : (pool.handOut code started w).checkoutAt v =
      if w = v then pool.now else pool.checkoutAt v := by
    have altered : (pool.handOut code started w).wrappers[v]? = _ := pool.wrappers_alter w v _
    unfold checkoutAt
    rw [altered]
    split
    · rename_i same
      rw [← same, Array.getElem?_eq_getElem exist]
      rfl
    · rfl
  refine ⟨Nat.le_refl _, fun v listed => ?_⟩
  rcases List.mem_append.1 listed with old | new
  · have different : w ≠ v := by
      rintro rfl
      exact owns.not_mem_hand (List.mem_append_right _ old)
    exact .inl ⟨old, (stamped v).trans (if_neg different)⟩
  · exact .inr ⟨new, (stamped v).trans (if_pos (List.mem_singleton.1 new).symm)⟩

theorem Acquires.checkouts {settings : Settings} {acquisition : Acquisition} {budget : Nat}
    {pool after : Pool σ} {progress : Progress}
    (acquires : Acquires settings acquisition budget pool progress after)
    (owns : pool.Owns []) : Checkouts progress.grant pool after := by
  induction acquires with
  | failed search => exact ((owns.search search).thins owns).checkouts _
  | asleep search =>
    exact (((owns.search search).thins owns).trans (thins_fallAsleep _ _ _)).checkouts _
  | granted search vet =>
    have finds := owns.search search
    have checks := (finds.owns owns).vet vet
    exact ((finds.thins owns).trans checks.thins).trans_checkouts
      ((checks.owns_good (finds.owns owns)).checkouts_handOut _ _)
  | gaveUp search vet => exact ((owns.thins_reject search vet).note _).checkouts _
  | again search vet _ ih =>
    exact (owns.thins_reject search vet).trans_checkouts (ih (owns.reject search vet).1)

theorem Owns.checkouts_acquire {pool : Pool σ} (owns : pool.Owns []) (settings : Settings)
    (acquisition : Acquisition) :
    Checkouts (pool.acquire settings acquisition).1.grant pool
      (pool.acquire settings acquisition).2 := by
  rcases acquire_cases settings acquisition pool with ⟨-, refused⟩ | ⟨-, acquires⟩
  · rw [refused]
    exact (Thins.refl pool).checkouts _
  · exact acquires.checkouts owns

omit [Driver σ] in
/-- A wrapper that exists and is listed nowhere is not handed out. -/
theorem Leaves.not_mem_active {before after : Pool σ} {progress : Progress} {w : WrapperId}
    (leaves : before.Leaves progress after) (old : w < before.wrappers.size)
    (gone : w ∉ before.idle ++ before.active) : w ∉ after.active := by
  obtain ⟨kept, suffix, active⟩ := leaves.active
  rw [List.mem_append, not_or] at gone
  rw [active, List.mem_append]
  rintro (listed | granted)
  · exact gone.2 (suffix.subset listed)
  · rcases leaves.fresh w granted with idle | new
    · exact gone.1 idle
    · exact absurd old (Nat.not_lt.2 new)

/-- A checkout that a search takes away is gone from both lists. -/
theorem Owns.not_mem_of_claims {pool found : Pool σ} (owns : pool.Owns []) {settings : Settings}
    {who : Credentials} {w : WrapperId} {result : Except PoolError Candidate}
    (claims : pool.Claims settings who w)
    (search : pool.nextCandidate settings who = (result, found)) :
    w < pool.wrappers.size ∧ w ∉ pool.idle ∧ w ∉ found.active := by
  have after := claims.after
  rw [search] at after
  refine ⟨owns.lt_size claims.before, fun idle => ?_, after⟩
  have nodup := owns.nodup
  rw [List.append_nil] at nodup
  exact List.disjoint_of_nodup_append nodup idle claims.before

/-- An acquisition does not give back a checkout that its first search takes away. -/
theorem Acquires.not_mem_of_claims {settings : Settings} {acquisition : Acquisition}
    {budget : Nat} {pool after : Pool σ} {progress : Progress}
    (acquires : Acquires settings acquisition budget pool progress after)
    (owns : pool.Owns []) {w : WrapperId} (claims : pool.Claims settings acquisition.who w) :
    w ∉ after.active := by
  -- What is left of the candidate of that search has the same checkouts.
  have rejected {found vetted : Pool σ} {v : WrapperId} {outcome : Except Rejection Unit}
      (search : pool.nextCandidate settings acquisition.who = (.ok (.ready v), found))
      (vet : found.vet settings.policy v = (outcome, vetted)) : w ∉ vetted.active := by
    rw [(((owns.search search).owns owns).vet vet).active]
    exact (owns.not_mem_of_claims claims search).2.2
  cases acquires with
  | failed search => exact (owns.not_mem_of_claims claims search).2.2
  | asleep search =>
    have gone := (owns.not_mem_of_claims claims search).2.2
    unfold fallAsleep
    dsimp only
    split
    · exact gone
    · exact gone
  | granted search vet =>
    obtain ⟨old, busy, -⟩ := owns.not_mem_of_claims claims search
    intro listed
    rcases List.mem_append.1 listed with kept | granted
    · exact rejected search vet kept
    · rw [List.mem_singleton.1 granted] at old busy
      rcases (owns.search search).fresh with idle | new
      · exact busy idle
      · exact absurd old (Nat.not_lt.2 new)
  | gaveUp search vet =>
    have gone := rejected search vet
    exact gone
  | again search vet rest =>
    obtain ⟨old, busy, -⟩ := owns.not_mem_of_claims claims search
    obtain ⟨owned, draws⟩ := owns.reject search vet
    apply (rest.leaves owned).not_mem_active (Nat.lt_of_lt_of_le old draws.size)
    have gone := rejected search vet
    rw [List.mem_append, not_or]
    exact ⟨fun idle => busy (draws.idle.subset idle), gone⟩

/-- The stays that a search ends are stays of different checkouts. -/
theorem Owns.nodup_taken {pool : Pool σ} (owns : pool.Owns []) (settings : Settings)
    (who : Credentials) : ((pool.taken settings who).map Stay.wrapper).Nodup := by
  have nodup := owns.nodup
  rw [List.append_nil] at nodup
  have wrappers : (pool.taken settings who).map Stay.wrapper =
      pool.active.filter fun w => decide (w ∉ (pool.nextCandidate settings who).2.active) := by
    unfold taken
    rw [List.map_map]
    exact List.map_id _
  rw [wrappers]
  exact nodup.of_append_right.filter _

/-- The stays that an acquisition ends are stays of different checkouts. -/
theorem Acquires.nodup_taken {settings : Settings} {acquisition : Acquisition} {budget : Nat}
    {pool after : Pool σ} {progress : Progress}
    (acquires : Acquires settings acquisition budget pool progress after)
    (owns : pool.Owns []) :
    (((pool.searches settings acquisition budget).flatMap
      (taken settings acquisition.who)).map Stay.wrapper).Nodup := by
  have single := owns.nodup_taken settings acquisition.who
  induction acquires with
  | @failed _ budget _ _ _ search =>
    rwa [searches_of_end budget search rfl, List.flatMap_singleton]
  | @asleep _ budget _ _ search =>
    rwa [searches_of_end budget search rfl, List.flatMap_singleton]
  | @granted _ budget _ _ _ _ search vet =>
    rwa [searches_of_good budget search vet, List.flatMap_singleton]
  | gaveUp search vet =>
    rwa [searches_of_one_too_many search vet, List.flatMap_singleton]
  | @again acquisition budget pool found vetted _ _ _ _ search vet rest ih =>
    have owned := (owns.reject search vet).1
    rw [searches_of_bad budget search vet, List.flatMap_cons, List.map_append,
      List.nodup_append]
    refine ⟨single, ih owned (owned.nodup_taken settings acquisition.who), ?_⟩
    -- What an earlier search took away is not checked out any more in a later one.
    rintro v early _ late rfl
    obtain ⟨_, ended, rfl⟩ := List.mem_map.1 early
    obtain ⟨_, again, same⟩ := List.mem_map.1 late
    obtain ⟨w, claims, rfl⟩ := mem_taken.1 ended
    obtain ⟨later, searched, again⟩ := List.mem_flatMap.1 again
    obtain ⟨u, other, rfl⟩ := mem_taken.1 again
    obtain rfl : u = w := same
    have listed := ((rest.goes_on owned) later searched).1.fewer u other.before
    have checks := ((owns.search search).owns owns).vet vet
    have gone := (owns.not_mem_of_claims claims search).2.2
    rw [← checks.active] at gone
    exact gone listed

theorem Owns.nodup_taken_lookups {pool : Pool σ} (owns : pool.Owns []) (settings : Settings)
    (acquisition : Acquisition) : (((pool.lookups settings acquisition).flatMap
      (taken settings acquisition.who)).map Stay.wrapper).Nodup := by
  rcases lookups_cases settings acquisition pool with ⟨none, -⟩ | ⟨searched, acquires⟩
  · rw [none]
    exact List.nodup_nil
  · rw [searched]
    exact acquires.nodup_taken owns

/-- What is known of a pool that is searched in an acquisition: it is an earlier one, and
what the search takes away does not come back. -/
theorem Owns.searched {pool found : Pool σ} (owns : pool.Owns []) {settings : Settings}
    {acquisition : Acquisition} (listed : found ∈ pool.lookups settings acquisition) :
    pool.Thins found ∧ found.Owns [] ∧ found.now ≤ (pool.acquire settings acquisition).2.now ∧
      ∀ {w}, found.Claims settings acquisition.who w →
        w ∉ (pool.acquire settings acquisition).2.active := by
  obtain ⟨listed, acquires⟩ := acquires_of_mem_lookups listed
  obtain ⟨thins, owned, again, more, same, rest⟩ := acquires.goes_on owns found listed
  refine ⟨thins, owned, (rest.checkouts owned).clock, fun claims => ?_⟩
  rw [← same] at claims
  exact rest.not_mem_of_claims owned claims

/-! ## Everything else -/

omit [Driver σ] in
theorem Returns.thins {policy : Policy} {w : WrapperId} {pool after : Pool σ}
    (returns : Returns policy w pool after) (exist : ∀ v ∈ pool.active, v < pool.wrappers.size) :
    pool.Thins after := by
  cases returns with
  | closed _ shuts =>
    exact ⟨shuts.clock, fun _ => id, fun v _ => pool.checkoutAt_alter fun _ => rfl⟩
  | kept _ _ talks =>
    exact ⟨talks.clock, fun _ => id, fun v listed => pool.checkoutAt_renew _ _ (exist v listed)⟩

/-- A connection that is given back makes no checkout, and its own one is over. -/
theorem Owns.thins_release {pool : Pool σ} (owns : pool.Owns []) (policy : Policy)
    (w : WrapperId) : pool.Thins (pool.release policy w) ∧ w ∉ (pool.release policy w).active := by
  have nodup := owns.nodup
  rw [List.append_nil] at nodup
  have left : pool.Thins { pool with active := pool.active.erase w } :=
    ⟨Nat.le_refl _, fun v listed => List.mem_of_mem_erase listed, fun _ _ => rfl⟩
  have gone : w ∉ pool.active.erase w := nodup.of_append_right.not_mem_erase
  rcases owns.release_cases policy w with ⟨-, refused⟩ | ⟨-, returns⟩
  · rw [refused]
    exact ⟨⟨left.clock, left.fewer, left.stamp⟩, gone⟩
  · refine ⟨left.trans (returns.thins fun v listed => owns.lt_size (left.fewer v listed)), ?_⟩
    rw [returns.active]
    exact gone

theorem Owns.thins_forceCloseAll {pool : Pool σ} (owns : pool.Owns []) (source : DataSource) :
    pool.Thins (pool.forceCloseAll source) := by
  have drains := owns.drains source
  refine ⟨drains.goesOn.clock, ?_, ?_⟩
  · simp [drains.active]
  · simp [drains.active]

omit [Driver σ] in
/-- What a holder does with its connection makes no checkout. -/
theorem thins_withConnection (pool : Pool σ) (w : WrapperId) {work : ConnId → Exchange σ α}
    {P : ConnId → Entry → Prop} (own : ∀ conn, Exchange.Within (P conn) (work conn)) :
    pool.Thins ((pool.withConnection w work).2.touch w) := by
  have touched (pool : Pool σ) : pool.Thins (pool.touch w) :=
    ⟨Nat.le_refl _, fun _ => id, fun v _ => pool.checkoutAt_alter fun _ => rfl⟩
  unfold withConnection
  cases pool.reach w with
  | none => exact touched pool
  | some conn =>
    have spoken : pool.Thins { pool with env := ((work conn).perform pool.env).2 } :=
      ⟨(own conn pool.env).clock, fun _ => id, fun _ _ => rfl⟩
    exact spoken.trans (touched _)

end Pool

namespace World

variable [Driver σ]

/-! ## Steps -/

theorem Operates.thins {step : Step σ} {world : World σ} {pool : Pool σ}
    (operates : Operates step world pool) (orderly : world.Orderly)
    (quiet : world.asks step = Option.none) : world.pool.Thins pool := by
  cases operates with
  | none => exact .refl _
  | begun begins =>
    subst begins
    cases quiet
  | woken wakes found =>
    subst wakes
    simp [World.asks, found] at quiet
  | used _ _ own => exact Pool.thins_withConnection _ _ own
  | returned => exact (orderly.owns.thins_release _ _).1
  | emptied => exact orderly.owns.thins_forceCloseAll _
  | shut =>
    have closed : Pool.Owns [] { world.pool with closed := true } := orderly.owns.relist (.refl _)
    have thins := (closed.thins_forceCloseAll world.settings.source).note .poolClosed
    exact ⟨thins.clock, thins.fewer, thins.stamp⟩
  | aside grows => exact ⟨grows.clock, fun _ => id, fun _ _ => rfl⟩

theorem Ends.thins {world : World σ} {pool after : Pool σ} (ends : Ends world pool after) :
    pool.Thins after := by
  cases ends with
  | reached same => exact same ▸ .refl _
  | abandoned owns ended => exact ended ▸ owns.thins_forceCloseAll _

theorem stays_of_asks {step : Step σ} {world : World σ} {who : Credentials}
    (asks : world.asks step = some who) :
    world.stays step = (world.searches step).flatMap (Pool.taken world.settings who) := by
  unfold stays
  rw [asks, returns_of_asks asks]
  exact List.append_nil _

omit [Driver σ] in
/-- Who gives a connection back asks for none. -/
theorem asks_of_returns {step : Step σ} {world : World σ} {h : HandleId}
    (returns : step.returns = some h) : world.asks step = none := by
  cases asks : world.asks step with
  | none => rfl
  | some who =>
    rw [returns_of_asks asks] at returns
    cases returns

theorem stays_of_returns {step : Step σ} {world : World σ} {h : HandleId}
    (returns : step.returns = some h) :
    world.stays step =
      (world.checkout h).elim [] fun w => world.pool.givenBack world.settings.policy w := by
  unfold stays
  rw [asks_of_returns returns, returns]
  rfl

/-- A checkout that was there before a step is what it was, and any other one was made at
the end of the step. -/
theorem Sound.checkoutAt_take {world : World σ} (sound : world.Sound) (step : Step σ)
    {w : WrapperId} (listed : w ∈ (world.take step).pool.active) :
    (w ∈ world.pool.active ∧ (world.take step).pool.checkoutAt w = world.pool.checkoutAt w) ∨
      (w ∉ world.pool.active ∧
        (world.take step).pool.checkoutAt w = (world.take step).pool.now) := by
  have orderly := sound.toOrderly
  cases asks : world.asks step with
  | none =>
    obtain ⟨pool, operates, ends⟩ := orderly.operates step
    have thins := (operates.thins orderly asks).trans ends.thins
    exact .inl ⟨thins.fewer w listed, thins.stamp w listed⟩
  | some who =>
    obtain ⟨slept, acquisition, -, -, -, ends⟩ := orderly.ends_acquire asks
    have owns : (waitedFor slept world.pool).Owns [] := orderly.owns.count _
    cases ends with
    | abandoned owned ended => simp [ended, (owned.drains world.settings.source).active] at listed
    | reached same =>
      rw [same] at listed ⊢
      refine ((owns.checkouts_acquire world.settings acquisition).cases w listed).imp_right ?_
      rintro ⟨granted, now⟩
      refine ⟨fun before => ?_, now⟩
      rcases (owns.acquire_leaves world.settings acquisition).fresh w granted with idle | new
      · have nodup := orderly.owns.nodup
        rw [List.append_nil] at nodup
        exact List.disjoint_of_nodup_append nodup idle before
      · exact absurd (orderly.owns.lt_size before) (Nat.not_lt.2 new)

/-- In the step `step` the stay of a checkout ends. -/
structure Concludes (step : Step σ) (world : World σ) (stay : Stay) : Prop where
  /-- It is the checkout of a handle that was not given back and is valid. If nobody claims
  the connection, that handle is given back, and the connection is good. -/
  handle : ∃ h, world.checkout h = some stay.wrapper ∧ world.isValid h = true ∧
    (stay.allowed = none → step.returns = some h ∧
      world.pool.isGood world.settings.policy stay.wrapper = true)
  /-- The stay is as old as the checkout. -/
  since : stay.since = world.pool.checkoutAt stay.wrapper
  /-- Its time is taken in the course of the step. -/
  from_le : world.pool.now ≤ stay.upTo
  upTo_le : stay.upTo ≤ (world.take step).pool.now
  /-- Only a checkout that is overdue is claimed. -/
  overdue : ∀ limit, stay.allowed = some limit →
    limit = world.settings.policy.maxCheckoutTime ∧ limit < stay.time
  /-- Afterwards it is checked out no more. -/
  ended : stay.wrapper ∈ world.pool.active ∧ stay.wrapper ∉ (world.take step).pool.active

omit [Driver σ] in
/-- A checkout is that of a handle that is valid. -/
theorem Orderly.exists_valid {world : World σ} (orderly : world.Orderly) {w : WrapperId}
    (listed : w ∈ world.pool.active) :
    ∃ h, world.checkout h = some w ∧ world.isValid h = true := by
  obtain ⟨h, handle, found, rfl, held⟩ := orderly.handles.held w listed
  refine ⟨h, checkout_eq_some.2 ⟨handle, found, held, rfl⟩, ?_⟩
  rw [isValid_iff]
  exact ⟨handle, found, held, (orderly.owns.isValid_iff _).2 (by simp [listed])⟩

/-- A checkout that is given back, with a connection that is good. -/
theorem Sound.concludes_given {world : World σ} (sound : world.Sound) {step : Step σ}
    {h : HandleId} {w : WrapperId} (returns : step.returns = some h)
    (out : world.checkout h = some w) {stay : Stay}
    (ended : stay ∈ world.pool.givenBack world.settings.policy w) :
    Concludes step world stay := by
  have orderly := sound.toOrderly
  have busy := orderly.busy_of_checkout out
  have ends := (orderly.ends_release (Option.bind_eq_some_iff.2 ⟨h, returns, out⟩)).thins
  obtain ⟨-, gone⟩ := orderly.owns.thins_release world.settings.policy w
  rcases orderly.owns.release_eq world.settings.policy busy with
    ⟨bad, -⟩ | ⟨good, listed, ⟨env, talks, checked⟩, ⟨_, _, holds⟩, put⟩
  · simp [Pool.givenBack, bad] at ended
  · obtain rfl : stay = _ := by simpa [Pool.givenBack, good] using ended
    obtain ⟨g, own, valid⟩ := orderly.exists_valid listed
    obtain rfl := orderly.checkout_inj own out
    have later : (world.pool.tallied world.settings.policy w).now ≤
        (world.pool.release world.settings.policy w).now := by
      rw [put]
      refine ((holds.putAway world.settings.policy).thins fun v left => ?_).clock
      unfold Pool.tallied at left ⊢
      rw [checked] at left ⊢
      exact orderly.owns.lt_size (List.mem_of_mem_erase left)
    exact {
      handle := ⟨g, out, valid, fun _ => ⟨returns, good⟩⟩
      since := rfl
      from_le := by
        rw [checked]
        exact talks.clock
      upTo_le := Nat.le_trans later ends.clock
      overdue := by
        rintro limit ⟨⟩
      ended := ⟨listed, fun still => gone (ends.fewer w still)⟩ }

/-- A checkout that a search takes away. -/
theorem Sound.concludes_taken {world : World σ} (sound : world.Sound) {step : Step σ}
    {who : Credentials} (asks : world.asks step = some who) {found : Pool σ}
    (searched : found ∈ world.searches step) {stay : Stay}
    (ended : stay ∈ found.taken world.settings who) : Concludes step world stay := by
  have orderly := sound.toOrderly
  obtain ⟨w, claims, rfl⟩ := Pool.mem_taken.1 ended
  obtain ⟨slept, acquisition, rfl, searches, -, ends⟩ := orderly.ends_acquire asks
  have owns : (waitedFor slept world.pool).Owns [] := orderly.owns.count _
  rw [searches] at searched
  obtain ⟨thins, owned, later, gone⟩ := owns.searched searched
  have listed : w ∈ world.pool.active := thins.fewer w claims.before
  obtain ⟨h, out, valid⟩ := orderly.exists_valid listed
  obtain ⟨-, -, -, overdue⟩ := owned.claims_cases claims
  exact {
    handle := ⟨h, out, valid, fun none => by cases none⟩
    since := thins.stamp w claims.before
    from_le := thins.clock
    upTo_le := Nat.le_trans later ends.thins.clock
    overdue := by
      rintro limit ⟨⟩
      exact ⟨rfl, overdue⟩
    ended := ⟨listed, fun still => gone claims (ends.thins.fewer w still)⟩ }

theorem Sound.concludes {world : World σ} (sound : world.Sound) {step : Step σ} {stay : Stay}
    (ended : stay ∈ world.stays step) : Concludes step world stay := by
  cases asks : world.asks step with
  | none =>
    unfold stays at ended
    rw [asks] at ended
    cases returned : step.returns.bind world.checkout with
    | none =>
      rw [returned] at ended
      cases ended
    | some w =>
      rw [returned] at ended
      obtain ⟨h, returns, out⟩ := Option.bind_eq_some_iff.1 returned
      exact sound.concludes_given returns out ended
  | some who =>
    rw [stays_of_asks asks] at ended
    obtain ⟨found, searched, taken⟩ := List.mem_flatMap.1 ended
    exact sound.concludes_taken asks searched taken

/-- The stays that end in a step are stays of different checkouts. -/
theorem Sound.nodup_stays {world : World σ} (sound : world.Sound) (step : Step σ) :
    ((world.stays step).map Stay.wrapper).Nodup := by
  cases asks : world.asks step with
  | none =>
    unfold stays
    rw [asks]
    cases step.returns.bind world.checkout with
    | none => exact List.nodup_nil
    | some w =>
      show ((world.pool.givenBack world.settings.policy w).map Stay.wrapper).Nodup
      unfold Pool.givenBack
      split
      · exact List.nodup_singleton w
      · exact List.nodup_nil
  | some who =>
    obtain ⟨slept, acquisition, rfl, searches, -, -⟩ := sound.toOrderly.ends_acquire asks
    have owns : (waitedFor slept world.pool).Owns [] := sound.owns.count _
    rw [stays_of_asks asks, searches]
    exact owns.nodup_taken_lookups world.settings acquisition

/-! ## Runs -/

/-- What is known about a wrapper whose stay has ended: it exists, and no connection can be
reached through it any more. -/
structure Vacant (world : World σ) (w : WrapperId) : Prop where
  exist : w < world.pool.wrappers.size
  empty : world.pool.isValid w = false

omit [Driver σ] in
theorem Orderly.vacant {world : World σ} (orderly : world.Orderly) {h : HandleId}
    {handle : Handle} (found : world.handles[h]? = some handle)
    (gone : handle.wrapper ∉ world.pool.active) : Vacant world handle.wrapper := by
  obtain ⟨busy, exist⟩ := orderly.handles.busy found
  refine ⟨exist, Bool.eq_false_iff.2 fun valid => ?_⟩
  exact gone (orderly.owns.mem_active valid busy)

omit [Driver σ] in
/-- A handle goes on to stand for its wrapper. -/
theorem Passes.found {step : Step σ} {world after : World σ} (passes : Passes step world after)
    {h : HandleId} {handle : Handle} (found : world.handles[h]? = some handle) :
    ∃ later, after.handles[h]? = some later ∧ later.wrapper = handle.wrapper := by
  cases passes with
  | same handles => exact ⟨handle, handles ▸ found, rfl⟩
  | @given g stage _ _ handles =>
    rw [handles, Array.getElem?_modify, found]
    split
    · exact ⟨_, rfl, rfl⟩
    · exact ⟨_, rfl, rfl⟩
  | issued handles =>
    obtain ⟨inside, -⟩ := Array.getElem?_eq_some_iff.1 found
    rw [handles, Array.getElem?_push, if_neg (Nat.ne_of_lt inside)]
    exact ⟨handle, found, rfl⟩

omit [Driver σ] in
/-- A handle that was not given back is an old one or the next one. -/
theorem Passes.number_cases {step : Step σ} {world after : World σ}
    (passes : Passes step world after) {h : HandleId} {w : WrapperId}
    (out : after.checkout h = some w) : h < world.handles.size ∨ h = world.handles.size := by
  obtain ⟨handle, found, -⟩ := checkout_eq_some.1 out
  obtain ⟨inside, -⟩ := Array.getElem?_eq_some_iff.1 found
  cases passes with
  | same handles => exact .inl (handles ▸ inside)
  | given _ _ handles =>
    rw [handles, Array.size_modify] at inside
    exact .inl inside
  | issued handles =>
    rw [handles, Array.size_push] at inside
    exact Nat.lt_succ_iff_lt_or_eq.1 inside

theorem Turn.size_le {step : Step σ} {world after : World σ} (turn : Turn step world after) :
    world.pool.wrappers.size ≤ after.pool.wrappers.size := by
  cases turn with
  | moved moves => exact moves.size_le
  | drained moves drains => exact Nat.le_trans moves.size_le drains.size

/-- An old wrapper does not become valid. -/
theorem Sound.isValid_old {world : World σ} (sound : world.Sound) {step : Step σ}
    (allowed : world.allows step = true) {w : WrapperId} (exist : w < world.pool.wrappers.size)
    (valid : (world.take step).pool.isValid w = true) : world.pool.isValid w = true := by
  obtain ⟨conn, held⟩ := ((sound.take allowed).owns.toCoherent.isValid_iff_slot w).1 valid
  have before := (sound.turn step).slot_old exist held
  exact (sound.owns.toCoherent.isValid_iff_slot w).2 ⟨conn, before⟩

theorem Sound.vacant_take {world : World σ} (sound : world.Sound) {step : Step σ}
    (allowed : world.allows step = true) {w : WrapperId} (vacant : Vacant world w) :
    Vacant (world.take step) w := by
  refine ⟨Nat.lt_of_lt_of_le vacant.exist (sound.turn step).size_le, ?_⟩
  refine Bool.eq_false_iff.2 fun valid => ?_
  have stillValid := sound.isValid_old allowed vacant.exist valid
  rw [vacant.empty] at stillValid
  cases stillValid

/-- A stay leaves a vacant wrapper. -/
theorem Sound.vacant_of_stay {world : World σ} (sound : world.Sound) {step : Step σ}
    (allowed : world.allows step = true) {stay : Stay} (ended : stay ∈ world.stays step) :
    Vacant (world.take step) stay.wrapper := by
  have concludes := sound.concludes ended
  obtain ⟨h, out, -, -⟩ := concludes.handle
  obtain ⟨handle, found, -, same⟩ := checkout_eq_some.1 out
  obtain ⟨later, found, still⟩ := (sound.passes step).found found
  rw [← same, ← still]
  apply (sound.take allowed).toOrderly.vacant found
  rw [still, same]
  exact concludes.ended.2

section

variable {first last : World σ} {past : List (World σ × Step σ)} (leads : first.Leads past last)
  (sound : first.Sound)

include leads sound

theorem Leads.vacant {stay : Stay} (ended : stay ∈ ledger past) :
    Vacant last stay.wrapper := by
  induction leads with
  | refl => cases ended
  | step earlier step allowed ih =>
    have before := earlier.sound sound
    rcases List.mem_append.1 ended with old | new
    · exact before.vacant_take allowed (ih old)
    · exact before.vacant_of_stay allowed new

/-- No checkout has two stays. -/
theorem Leads.nodup_ledger : ((ledger past).map Stay.wrapper).Nodup := by
  induction leads with
  | refl => exact List.nodup_nil
  | step earlier step allowed ih =>
    have before := earlier.sound sound
    unfold ledger
    rw [List.map_append, List.nodup_append]
    refine ⟨ih, before.nodup_stays step, ?_⟩
    rintro w old _ new rfl
    obtain ⟨stay, ended, rfl⟩ := List.mem_map.1 old
    obtain ⟨other, ends, same⟩ := List.mem_map.1 new
    obtain ⟨h, out, valid, -⟩ := (before.concludes ends).handle
    -- The new stay is that of a valid handle.
    obtain ⟨handle, found, held, wrapper⟩ := checkout_eq_some.1 out
    obtain ⟨own, found', -, holds⟩ := isValid_iff.1 valid
    rw [found] at found'
    cases found'
    rw [wrapper, same, (earlier.vacant sound ended).empty] at holds
    cases holds

end

/-- The stay began at the end of a step of the run, which made its checkout for a new
handle. -/
def Began (past : List (World σ × Step σ)) (world : World σ) (stay : Stay) : Prop :=
  ∃ before issue, (before, issue) ∈ past ∧
    world.checkout before.handles.size = some stay.wrapper ∧
    (before.take issue).checkout before.handles.size = some stay.wrapper ∧
    stay.since = (before.take issue).pool.now

/-- Every checkout is as old as the step that issued its handle. -/
theorem Leads.issued {settings : Settings} {driver : σ} {past : List (World σ × Step σ)}
    {world : World σ} (leads : (World.start settings driver).Leads past world) {h : HandleId}
    {w : WrapperId} (out : world.checkout h = some w) (listed : w ∈ world.pool.active) :
    ∃ before issue, (before, issue) ∈ past ∧ before.handles.size = h ∧
      (before.take issue).checkout h = some w ∧
      world.pool.checkoutAt w = (before.take issue).pool.now := by
  have start := sound_start settings driver
  induction leads with
  | refl => cases listed
  | @step past world earlier step allowed ih =>
    have before := earlier.sound start
    have after := (before.take allowed).toOrderly
    have passes := before.passes step
    rcases before.checkoutAt_take step listed with ⟨wasListed, same⟩ | ⟨new, now⟩
    · obtain ⟨g, own, -⟩ := before.toOrderly.exists_valid wasListed
      obtain ⟨handle, found, -, wrapper⟩ := checkout_eq_some.1 own
      obtain ⟨later, found, still⟩ := passes.found found
      obtain ⟨other, found', -, wrapper'⟩ := checkout_eq_some.1 out
      obtain rfl : g = h :=
        after.handles.inj found found' (still.trans (wrapper.trans wrapper'.symm))
      obtain ⟨first, issue, passed, number, issued, stamp⟩ := ih own wasListed
      exact ⟨first, issue, List.mem_cons_of_mem _ passed, number, issued, same.trans stamp⟩
    · refine ⟨world, step, List.mem_cons_self, ?_, out, now⟩
      rcases passes.number_cases out with old | same
      · -- An old handle has its checkout from before.
        obtain ⟨handle, found, -, rfl⟩ := checkout_eq_some.1 (passes.checkout_old old out)
        obtain ⟨busy, exist⟩ := before.handles.busy found
        have valid := (after.owns.isValid_iff handle.wrapper).2 (by simp [listed])
        exact absurd (before.owns.mem_active (before.isValid_old allowed exist valid) busy) new
      · exact same.symm

theorem mem_ledger {past : List (World σ × Step σ)} {stay : Stay} :
    stay ∈ ledger past ↔ ∃ mid step, (mid, step) ∈ past ∧ stay ∈ mid.stays step := by
  induction past with
  | nil => simp [ledger]
  | cons last past ih =>
    obtain ⟨world, step⟩ := last
    unfold ledger
    rw [List.mem_append, ih]
    constructor
    · rintro (⟨mid, earlier, passed, ended⟩ | ended)
      · exact ⟨mid, earlier, List.mem_cons_of_mem _ passed, ended⟩
      · exact ⟨world, step, List.mem_cons_self, ended⟩
    · rintro ⟨mid, earlier, passed, ended⟩
      rcases List.mem_cons.1 passed with same | before
      · cases same
        exact .inr ended
      · exact .inl ⟨mid, earlier, before, ended⟩

end World

namespace Stay

/-- How long the claimed ones among some checkouts were allowed to last, together. -/
def allowance (stays : List Stay) : Duration :=
  (stays.filterMap allowed).sum

/-- Claimed checkouts have lasted for longer than they were allowed to. -/
def Overdue (stays : List Stay) : Prop :=
  ∀ stay ∈ stays, ∀ limit, stay.allowed = some limit → limit < stay.time

theorem total_claims_le (stays : List Stay) : total (claims stays) ≤ total stays :=
  (List.filter_sublist.map time).sum_le_sum fun _ _ => Nat.zero_le _

theorem allowance_add_length_le {stays : List Stay} (overdue : Overdue stays) :
    allowance stays + (claims stays).length ≤ total (claims stays) := by
  induction stays with
  | nil => exact Nat.le_refl _
  | cons stay rest ih =>
    have later := ih fun other listed => overdue other (List.mem_cons_of_mem _ listed)
    unfold allowance claims total at later ⊢
    cases claimed : stay.allowed with
    | none =>
      have kept : ¬ stay.isClaimed = true := by simp [isClaimed, claimed]
      rwa [List.filterMap_cons_none claimed, List.filter_cons_of_neg kept]
    | some limit =>
      have longer := overdue stay List.mem_cons_self limit claimed
      have counts : stay.isClaimed = true := by simp [isClaimed, claimed]
      rw [List.filterMap_cons_some claimed, List.filter_cons_of_pos counts]
      rw [List.map_cons, List.sum_cons, List.sum_cons, List.length_cons, Nat.add_comm _ 1,
        Nat.add_add_add_comm]
      exact Nat.add_le_add longer later

/-- The time of claimed checkouts is nothing only if there are none. -/
theorem total_claims_eq_zero_iff {stays : List Stay} (overdue : Overdue stays) :
    total (claims stays) = 0 ↔ claims stays = [] := by
  have least := allowance_add_length_le overdue
  constructor
  · intro none
    rw [none] at least
    exact List.eq_nil_of_length_eq_zero (Nat.le_zero.1 (Nat.le_trans (Nat.le_add_left _ _) least))
  · intro none
    rw [none]
    rfl

end Stay

namespace World

variable [Driver σ]

/-- The totals of checkout time are those of the stays in the ledger of the run. -/
structure CountsStays (past : List (World σ × Step σ)) (world : World σ) : Prop where
  /-- The checkout time is that of all stays, and the overdue part of it is that of the
  claimed ones, which are counted as well. -/
  checkoutTime : world.pool.counters.checkoutTime = Stay.total (ledger past)
  overdueClaims : world.pool.counters.overdueClaims = (Stay.claims (ledger past)).length
  overdueCheckoutTime :
    world.pool.counters.overdueCheckoutTime = Stay.total (Stay.claims (ledger past))
  /-- Every checkout that a search claims has a stay, and so has every one that is given
  back with a good connection. -/
  claimed : ∀ mid step who found w, (mid, step) ∈ past → mid.asks step = some who →
    found ∈ mid.searches step → found.Claims mid.settings who w →
    ∃ stay ∈ ledger past, stay.wrapper = w ∧ stay.since = found.checkoutAt w ∧
      stay.upTo = found.now ∧ stay.isClaimed = true
  given : ∀ mid step h w, (mid, step) ∈ past → step.returns = some h →
    mid.checkout h = some w → mid.pool.isGood mid.settings.policy w = true →
    ∃ stay ∈ ledger past, stay.wrapper = w ∧ stay.since = mid.pool.checkoutAt w ∧
      stay.upTo = (mid.pool.check mid.settings.policy w).2.now ∧ stay.isClaimed = false
  /-- No other checkout has one, and none has two. A stay lasts from the end of the step
  that issued the handle into the step in which the checkout ends. -/
  once : ((ledger past).map Stay.wrapper).Nodup
  lasted : ∀ stay ∈ ledger past, ∃ mid step, (mid, step) ∈ past ∧
    Began past mid stay ∧ Concludes step mid stay
  /-- The overdue time is a part of all time, it exceeds what was allowed, and it is nothing
  exactly if nothing was claimed. -/
  overdue_le : world.pool.counters.overdueCheckoutTime ≤ world.pool.counters.checkoutTime
  allowance_le : Stay.allowance (ledger past) ≤ world.pool.counters.overdueCheckoutTime
  overdue_eq_zero_iff :
    world.pool.counters.overdueCheckoutTime = 0 ↔ world.pool.counters.overdueClaims = 0
  /-- A handle whose checkout has a stay is not valid any more, and whoever gives back a
  handle that is not valid adds nothing. -/
  invalid : ∀ stay ∈ ledger past, ∀ h handle, world.handles[h]? = some handle →
    handle.wrapper = stay.wrapper → world.isValid h = false
  late : ∀ step h, step.returns = some h → world.isValid h = false →
    (world.take step).pool.counters.checkoutTime = world.pool.counters.checkoutTime ∧
    (world.take step).pool.counters.overdueClaims = world.pool.counters.overdueClaims ∧
    (world.take step).pool.counters.overdueCheckoutTime =
      world.pool.counters.overdueCheckoutTime
  /-- The report shows the totals in whole milliseconds, while these fit one word. -/
  checkoutMillis : Stay.total (ledger past) / Duration.perMilli < UInt64.size →
    world.statistics.checkoutMillis = Stay.total (ledger past) / Duration.perMilli
  overdueMillis : Stay.total (Stay.claims (ledger past)) / Duration.perMilli < UInt64.size →
    world.statistics.overdueCheckoutMillis =
      Stay.total (Stay.claims (ledger past)) / Duration.perMilli

/-- Giving back a handle that is not valid ends no stay. -/
theorem stays_of_invalid {world : World σ} {step : Step σ} {h : HandleId}
    (returns : step.returns = some h) (invalid : world.isValid h = false) :
    world.stays step = [] := by
  rw [stays_of_returns returns]
  cases out : world.checkout h with
  | none => rfl
  | some w =>
    obtain ⟨handle, found, held, rfl⟩ := checkout_eq_some.1 out
    have spent : world.pool.isValid handle.wrapper = false := by
      rw [← Bool.not_eq_true]
      intro valid
      rw [isValid_iff.2 ⟨handle, found, held, valid⟩] at invalid
      cases invalid
    rw [Option.elim_some]
    unfold Pool.givenBack Pool.isGood
    rw [spent, Bool.false_and, if_neg Bool.false_ne_true]

/-- In every run the totals of checkout time are those of the stays. -/
theorem countsStays_of_leads {settings : Settings} {driver : σ}
    {past : List (World σ × Step σ)} {world : World σ}
    (leads : (World.start settings driver).Leads past world) : CountsStays past world := by
  have start := sound_start settings driver
  have sound := leads.sound start
  have books := leads.books start
  have time : world.pool.counters.checkoutTime = Stay.total (ledger past) :=
    books.checkoutTime.trans (Nat.zero_add _)
  have claims : world.pool.counters.overdueClaims = (Stay.claims (ledger past)).length :=
    books.overdueClaims.trans (Nat.zero_add _)
  have overdueTime :
      world.pool.counters.overdueCheckoutTime = Stay.total (Stay.claims (ledger past)) :=
    books.overdueCheckoutTime.trans (Nat.zero_add _)
  have lasted : ∀ stay ∈ ledger past, ∃ mid step, (mid, step) ∈ past ∧
      Began past mid stay ∧ Concludes step mid stay := by
    intro stay listed
    obtain ⟨mid, step, passed, ended⟩ := mem_ledger.1 listed
    obtain ⟨earlier, reaches, before⟩ := leads.exists_earlier_of_mem passed
    have concludes := (reaches.sound start).concludes ended
    obtain ⟨h, out, -⟩ := concludes.handle
    obtain ⟨first, issue, passed', number, issued, stamp⟩ :=
      reaches.issued out concludes.ended.1
    rw [← number] at out issued
    exact ⟨mid, step, passed, ⟨first, issue, before passed', out, issued,
      concludes.since.trans stamp⟩, concludes⟩
  have overdue : Stay.Overdue (ledger past) := by
    intro stay listed limit allowed
    obtain ⟨mid, step, -, -, concludes⟩ := lasted stay listed
    exact (concludes.overdue limit allowed).2
  constructor
  case checkoutTime => exact time
  case overdueClaims => exact claims
  case overdueCheckoutTime => exact overdueTime
  case claimed =>
    intro mid step who found w passed asks searched claims
    have ended := List.mem_flatMap.2 ⟨found, searched, Pool.mem_taken.2 ⟨w, claims, rfl⟩⟩
    rw [← stays_of_asks asks] at ended
    exact ⟨_, mem_ledger.2 ⟨mid, step, passed, ended⟩, rfl, rfl, rfl, rfl⟩
  case given =>
    intro mid step h w passed returns out good
    have ended : mid.stays step = _ := stays_of_returns returns
    rw [out, Option.elim_some, Pool.givenBack, if_pos good] at ended
    have listed := ended.symm ▸ List.mem_cons_self
    exact ⟨_, mem_ledger.2 ⟨mid, step, passed, listed⟩, rfl, rfl, rfl, rfl⟩
  case once => exact leads.nodup_ledger start
  case lasted => exact lasted
  case overdue_le =>
    rw [overdueTime, time]
    exact Stay.total_claims_le _
  case allowance_le =>
    rw [overdueTime]
    exact Nat.le_trans (Nat.le_add_right _ _) (Stay.allowance_add_length_le overdue)
  case overdue_eq_zero_iff =>
    rw [overdueTime, claims, Stay.total_claims_eq_zero_iff overdue, List.length_eq_zero_iff]
  case invalid =>
    intro stay listed h handle found same
    rw [← Bool.not_eq_true]
    intro valid
    obtain ⟨own, found', -, holds⟩ := isValid_iff.1 valid
    rw [found] at found'
    cases found'
    rw [same, (leads.vacant start listed).empty] at holds
    cases holds
  case late =>
    intro step h returns invalid
    have books := sound.books step
    unfold Books at books
    rw [stays_of_invalid returns invalid] at books
    exact ⟨books.checkoutTime, books.overdueClaims, books.overdueCheckoutTime⟩
  case checkoutMillis =>
    intro fits
    rw [← time] at fits ⊢
    exact Nat.mod_eq_of_lt fits
  case overdueMillis =>
    intro fits
    rw [← overdueTime] at fits ⊢
    exact Nat.mod_eq_of_lt fits

/-- Five checkouts, which end in all possible ways. The first one is claimed after 7 moments,
and its handle is dropped late; the second one is given back after 4. The third and the
fourth one are closed by force, and the fourth handle is dropped after that. The fifth one is
given back with a connection that is dead. -/
def variedSteps : List (Step Simulation.State) :=
  [.act (.acquire none), .act (.elapse 3), .act (.acquire none), .act (.acquire none),
    .act (.elapse 7), .wake 0, .act (.drop 1), .act (.drop 0), .act (.acquire none),
    .act .forceCloseAll, .act (.elapse 9), .act (.drop 3), .act (.acquire none),
    .act (.disturb fun driver =>
      { driver with connections := driver.connections.modify 2 ({ · with behaviour.dead := true }) }),
    .act (.elapse 12), .act (.drop 4)]

/-- Only two of the checkouts count. -/
theorem countsStays_varied : ∃ world,
    (World.start tightSettings {}).follow variedSteps = some world ∧
    world.pool.counters.checkoutTime = 11 ∧ world.pool.counters.overdueClaims = 1 ∧
    world.pool.counters.overdueCheckoutTime = 7 ∧
    ledger ((World.start tightSettings {}).trail variedSteps []) =
      [{ wrapper := 0, since := 0, upTo := 7, allowed := some 5 },
        { wrapper := 1, since := 3, upTo := 7, allowed := none }] ∧
    CountsStays ((World.start tightSettings {}).trail variedSteps []) world := by
  have run : ((World.start tightSettings ({} : Simulation.State)).follow variedSteps).map
      (fun world => (world.pool.counters.checkoutTime, world.pool.counters.overdueClaims,
        world.pool.counters.overdueCheckoutTime)) = some (11, 1, 7) := by decide +kernel
  obtain ⟨world, found, seen⟩ := Option.map_eq_some_iff.1 run
  simp only [Prod.mk.injEq] at seen
  exact ⟨world, found, seen.1, seen.2.1, seen.2.2, by decide +kernel,
    countsStays_of_leads (Leads.refl.follow found)⟩

end World

end ConnectionPooling
