/-
# How checkout time adds up

The time for which a connection was checked out is added to the pool's total when the
checkout ends, be it claimed or given back. What was added so far and what the present
checkouts have lasted is the time that has accrued. `Accrues` bounds by how much it grows:
by the time that passes, once for each connection that is checked out meanwhile. A checkout
that ends is counted as it stands, and one that begins has lasted for no time, so that
nothing is counted twice.

As no more connections are checked out than the pool allows, the accrued time fits the
capacity of the pool: it is at most the time since the pool was made, taken as often as
connections could be checked out at most.
-/

import ConnectionPooling.Proofs.History
import ConnectionPooling.Proofs.Operations
import ConnectionPooling.Simulation.Driver
import Mathlib.Algebra.Order.BigOperators.Group.List
import Mathlib.Algebra.Order.Ring.Nat

namespace ConnectionPooling

variable {σ α : Type}

namespace Pool

/-! ## Accrued time -/

/-- How long the present checkouts have lasted, together. -/
def outstanding (pool : Pool σ) : Duration :=
  (pool.active.map pool.checkoutTime).sum

/-- The checkout time that was counted, and that of the present checkouts. -/
def accrued (pool : Pool σ) : Duration :=
  pool.counters.checkoutTime + pool.outstanding

/-- From `before` to `after` the accrued time grew by no more than the time that passed,
for each of `places` connections. -/
structure Accrues (places : Nat) (before after : Pool σ) : Prop where
  clock : before.now ≤ after.now
  accrued : after.accrued ≤ before.accrued + places * (after.now - before.now)

theorem Accrues.refl (places : Nat) (pool : Pool σ) : Accrues places pool pool :=
  ⟨Nat.le_refl _, Nat.le_add_right _ _⟩

theorem Accrues.trans {places : Nat} {before mid after : Pool σ}
    (first : Accrues places before mid) (second : Accrues places mid after) :
    Accrues places before after := by
  refine ⟨Nat.le_trans first.clock second.clock, ?_⟩
  calc after.accrued
      ≤ mid.accrued + places * (after.now - mid.now) := second.accrued
    _ ≤ before.accrued + places * (mid.now - before.now) + places * (after.now - mid.now) :=
        Nat.add_le_add_right first.accrued _
    _ = before.accrued + places * (after.now - before.now) := by
        rw [Nat.add_assoc, ← Nat.mul_add, Nat.add_comm (mid.now - before.now),
          Nat.sub_add_sub_cancel second.clock first.clock]

theorem Accrues.mono {places more : Nat} {before after : Pool σ}
    (accrues : Accrues places before after) (le : places ≤ more) : Accrues more before after :=
  ⟨accrues.clock, Nat.le_trans accrues.accrued
    (Nat.add_le_add_left (Nat.mul_le_mul_right _ le) _)⟩

/-- The time since each of some moments grows by the time that passes. -/
theorem sum_elapsed_le (moments : List Nat) (before after : Nat) :
    (moments.map (after - ·)).sum ≤
      (moments.map (before - ·)).sum + moments.length * (after - before) := by
  induction moments with
  | nil => exact Nat.zero_le _
  | cons moment rest ih =>
    simp only [List.map_cons, List.sum_cons, List.length_cons, Nat.succ_mul]
    omega

/-- Checkouts may leave the list uncounted while time passes. -/
theorem accrues_of_sublist {places : Nat} {before after : Pool σ}
    (clock : before.now ≤ after.now)
    (counted : after.counters.checkoutTime = before.counters.checkoutTime)
    (fewer : after.active.Sublist before.active)
    (same : ∀ w ∈ after.active, after.checkoutAt w = before.checkoutAt w)
    (few : after.active.length ≤ places) : Accrues places before after := by
  refine ⟨clock, ?_⟩
  have outstanding : after.outstanding ≤
      before.outstanding + places * (after.now - before.now) := by
    calc after.outstanding
        = ((after.active.map before.checkoutAt).map (after.now - ·)).sum := by
          rw [List.map_map]
          refine congrArg List.sum (List.map_congr_left fun w listed => ?_)
          exact congrArg (after.now - ·) (same w listed)
      _ ≤ ((after.active.map before.checkoutAt).map (before.now - ·)).sum +
            (after.active.map before.checkoutAt).length * (after.now - before.now) :=
          sum_elapsed_le _ _ _
      _ ≤ before.outstanding + after.active.length * (after.now - before.now) := by
          rw [List.length_map, List.map_map]
          exact Nat.add_le_add_right ((fewer.map _).sum_le_sum fun _ _ => Nat.zero_le _) _
      _ ≤ before.outstanding + places * (after.now - before.now) :=
          Nat.add_le_add_left (Nat.mul_le_mul_right _ few) _
  calc after.accrued
      ≤ before.counters.checkoutTime +
          (before.outstanding + places * (after.now - before.now)) :=
        Nat.add_le_add (Nat.le_of_eq counted) outstanding
    _ = before.accrued + places * (after.now - before.now) := (Nat.add_assoc _ _ _).symm

/-- A checkout that leaves the list is counted as it stands. -/
theorem accrues_of_perm {places : Nat} {before after : Pool σ} {w : WrapperId}
    (clock : after.now = before.now) (same : ∀ v, after.checkoutAt v = before.checkoutAt v)
    (ended : before.active.Perm (w :: after.active))
    (counted : after.counters.checkoutTime =
      before.counters.checkoutTime + before.checkoutTime w) : Accrues places before after := by
  have lasted : after.checkoutTime = before.checkoutTime := by
    funext v
    exact congrArg₂ (· - ·) clock (same v)
  have split : before.outstanding = before.checkoutTime w + after.outstanding := by
    unfold outstanding
    rw [lasted, (ended.map before.checkoutTime).sum_eq, List.map_cons, List.sum_cons]
  refine ⟨Nat.le_of_eq clock.symm, Nat.le_trans (Nat.le_of_eq ?_) (Nat.le_add_right _ _)⟩
  unfold accrued
  rw [counted, split, Nat.add_assoc]

theorem accrues_note {places : Nat} (event : Event) (pool : Pool σ) :
    Accrues places pool (pool.note event) :=
  ⟨Nat.le_refl _, Nat.le_add_right _ _⟩

/-- Other totals do not matter. -/
theorem accrues_count {places : Nat} {update : Counters → Counters} (pool : Pool σ)
    (same : (update pool.counters).checkoutTime = pool.counters.checkoutTime) :
    Accrues places pool (pool.count update) := by
  refine ⟨Nat.le_refl _, Nat.le_trans (Nat.le_of_eq ?_) (Nat.le_add_right _ _)⟩
  exact congrArg (· + pool.outstanding) same

theorem accrues_talk {places : Nat} (pool : Pool σ) {env : Environment σ}
    (clock : pool.env.clock ≤ env.clock) (few : pool.active.length ≤ places) :
    Accrues places pool { pool with env := env } :=
  accrues_of_sublist clock rfl (List.Sublist.refl pool.active) (fun _ _ => rfl) few

/-- What a holder does with its connection leaves its checkout as it is. -/
theorem accrues_withConnection {places : Nat} {pool : Pool σ} (w : WrapperId)
    {work : ConnId → Exchange σ α} (talks : ∀ conn, Exchange.Within Entry.IsTalk (work conn))
    (few : pool.active.length ≤ places) :
    Accrues places pool ((pool.withConnection w work).2.touch w) := by
  have touched (pool : Pool σ) (few : pool.active.length ≤ places) :
      Accrues places pool (pool.touch w) :=
    accrues_of_sublist (Nat.le_refl _) rfl (List.Sublist.refl pool.active)
      (fun v _ => pool.checkoutAt_alter fun _ => rfl) few
  unfold withConnection
  cases pool.reach w with
  | none => exact touched pool few
  | some conn => exact (accrues_talk pool (talks conn pool.env).clock few).trans (touched _ few)

/-- A checkout stands in a wrapper that exists. -/
theorem Owns.lt_size {pool : Pool σ} {inHand : List WrapperId} (owns : pool.Owns inHand)
    {w : WrapperId} (listed : w ∈ pool.active) : w < pool.wrappers.size := by
  apply lt_size_of_isValid
  rw [owns.isValid_iff]
  exact List.mem_append_left _ (List.mem_append_right _ listed)

theorem checkoutAt_enrol (pool : Pool σ) {w : WrapperId} (conn : ConnId) (env : Environment σ)
    (exist : w < pool.wrappers.size) :
    (pool.enrol conn env).checkoutAt w = pool.checkoutAt w := by
  simp only [checkoutAt, enrol, wrappers_push, if_neg (Nat.ne_of_lt exist)]

/-- A checkout that begins has lasted for no time. -/
theorem accrues_handOut {places : Nat} {pool : Pool σ} {w : WrapperId}
    (owns : pool.Owns [w]) (code : Fingerprint) (started : Instant) :
    Accrues places pool (pool.handOut code started w) := by
  have other : ∀ v ∈ pool.active,
      (pool.handOut code started w).checkoutTime v = pool.checkoutTime v := by
    intro v listed
    have different : w ≠ v := by
      rintro rfl
      exact owns.not_mem_hand (List.mem_append_right _ listed)
    have same : (pool.handOut code started w).wrappers[v]? = pool.wrappers[v]? :=
      (pool.wrappers_alter w v _).trans (if_neg different)
    unfold Pool.checkoutTime Pool.since
    rw [same]
    rfl
  have own : (pool.handOut code started w).checkoutTime w = 0 := by
    have exist := lt_size_of_isValid owns.isValid_hand
    have stamped : (pool.handOut code started w).wrappers[w]? =
        pool.wrappers[w]?.map (·.checkedOut code pool.now) :=
      (pool.wrappers_alter w w _).trans (if_pos rfl)
    unfold Pool.checkoutTime Pool.since
    rw [stamped, Array.getElem?_eq_getElem exist]
    exact Nat.sub_self _
  refine ⟨Nat.le_refl _, Nat.le_trans (Nat.le_of_eq ?_) (Nat.le_add_right _ _)⟩
  show _ + ((pool.active ++ [w]).map (pool.handOut code started w).checkoutTime).sum = _
  rw [List.map_append, List.map_congr_left other, List.map_singleton, own, List.sum_append]
  rfl

/-! ## Acquisitions -/

theorem Checks.accrues {places : Nat} {pool after : Pool σ} {w : WrapperId}
    {result : Except Rejection Unit} (checks : Checks w pool result after)
    (few : pool.active.length ≤ places) : Accrues places pool after := by
  cases checks with
  | good talks => exact accrues_talk pool talks.clock few
  | bad _ _ shuts =>
    refine accrues_of_sublist shuts.clock rfl (List.Sublist.refl pool.active) ?_ few
    exact fun v _ => pool.checkoutAt_alter fun _ => rfl

variable [Driver σ]

theorem Finds.accrues {places : Nat} {settings : Settings} {who : Credentials}
    {pool after : Pool σ} {result : Except PoolError Candidate}
    (finds : Finds settings who pool result after) (owns : pool.Owns [])
    (few : pool.active.length ≤ places) : Accrues places pool after := by
  cases finds with
  | idle => exact ⟨Nat.le_refl _, Nat.le_add_right _ _⟩
  | @opened env _ _ _ opens =>
    have enrolled : Accrues places pool (pool.enrol pool.env.opened env) := by
      refine accrues_of_sublist opens.clock rfl (List.Sublist.refl pool.active) ?_ few
      exact fun v listed => pool.checkoutAt_enrol _ _ (owns.lt_size listed)
    exact enrolled.trans (accrues_note _ _)
  | refused _ _ _ refuses => exact accrues_talk pool refuses.clock few
  | noCapacity => exact .refl _ _
  | mustWait => exact .refl _ _
  | @claimed w rest old conn env _ active _ _ _ talks =>
    have counted : Accrues places pool
        { pool with
          active := rest
          counters := pool.counters.afterClaim (pool.checkoutTime w) } :=
      accrues_of_perm rfl (fun _ => rfl) (active ▸ .refl _) rfl
    have shorter : rest.Sublist pool.active := by
      rw [active]
      exact List.sublist_cons_self _ _
    refine counted.trans (accrues_of_sublist talks.clock rfl (List.Sublist.refl rest) ?_
      (Nat.le_trans shorter.length_le few))
    exact fun v listed => pool.checkoutAt_renew old conn (owns.lt_size (shorter.subset listed))

/-- A bad candidate is not counted. -/
theorem Owns.accrues_reject {places : Nat} {settings : Settings} {who : Credentials}
    {pool found vetted : Pool σ} {w : WrapperId} {rejection : Rejection} (owns : pool.Owns [])
    (few : pool.active.length ≤ places)
    (search : pool.nextCandidate settings who = (.ok (.ready w), found))
    (vet : found.vet settings.policy w = (.error rejection, vetted)) :
    Accrues places pool (vetted.countBad.note (.candidateRejected rejection)) := by
  have finds := owns.search search
  have checks := (finds.owns owns).vet vet
  have fewer : found.active.length ≤ places := Nat.le_trans finds.draws.active.length_le few
  have bad : Accrues places vetted vetted.countBad := accrues_count vetted rfl
  exact (((finds.accrues owns few).trans (checks.accrues fewer)).trans bad).trans
    (accrues_note _ _)

theorem Acquires.accrues {places : Nat} {settings : Settings} {acquisition : Acquisition}
    {budget : Nat} {pool after : Pool σ} {progress : Progress}
    (acquires : Acquires settings acquisition budget pool progress after)
    (owns : pool.Owns []) (few : pool.active.length ≤ places) : Accrues places pool after := by
  induction acquires with
  | failed search => exact (owns.search search).accrues owns few
  | @asleep acquisition _ _ found search =>
    have finds := (owns.search search).accrues owns few
    unfold fallAsleep
    dsimp only
    split
    · exact finds.trans (accrues_note _ _)
    · exact (finds.trans (accrues_count found rfl)).trans (accrues_note _ _)
  | @granted _ _ _ found vetted _ search vet =>
    have finds := owns.search search
    have hand := finds.owns owns
    have checks := hand.vet vet
    have fewer : found.active.length ≤ places := Nat.le_trans finds.draws.active.length_le few
    exact ((finds.accrues owns few).trans (checks.accrues fewer)).trans
      (accrues_handOut (checks.owns_good hand) _ _)
  | gaveUp search vet => exact (owns.accrues_reject few search vet).trans (accrues_note _ _)
  | again search vet _ ih =>
    obtain ⟨rest, draws⟩ := owns.reject search vet
    exact (owns.accrues_reject few search vet).trans
      (ih rest (Nat.le_trans draws.active.length_le few))

theorem Owns.accrues_acquire {places : Nat} {pool : Pool σ} (owns : pool.Owns [])
    (few : pool.active.length ≤ places) (settings : Settings) (acquisition : Acquisition) :
    Accrues places pool (pool.acquire settings acquisition).2 := by
  rcases acquire_cases settings acquisition pool with ⟨-, refused⟩ | ⟨-, acquires⟩
  · rw [refused]
    exact .refl _ _
  · exact acquires.accrues owns few

/-! ## Giving back -/

omit [Driver σ] in
/-- A connection that is put away is checked out no more. -/
theorem Returns.accrues {places : Nat} {policy : Policy} {w : WrapperId} {pool after : Pool σ}
    (returns : Returns policy w pool after) (exist : ∀ v ∈ pool.active, v < pool.wrappers.size)
    (counted : after.counters.checkoutTime = pool.counters.checkoutTime)
    (few : pool.active.length ≤ places) : Accrues places pool after := by
  cases returns with
  | closed _ shuts =>
    refine accrues_of_sublist shuts.clock counted (List.Sublist.refl pool.active) ?_ few
    exact fun v _ => pool.checkoutAt_alter fun _ => rfl
  | kept _ _ talks =>
    refine accrues_of_sublist talks.clock counted (List.Sublist.refl pool.active) ?_ few
    exact fun v listed => pool.checkoutAt_renew _ _ (exist v listed)

/-- Putting a connection away counts nothing. -/
theorem Holds.counters_putAway {pool : Pool σ} {w : WrapperId} {wrapper : Wrapper}
    {conn : ConnId} (holds : pool.Holds w wrapper conn) (policy : Policy) :
    (pool.putAway policy w).counters = pool.counters := by
  have retired {pool : Pool σ} (holds : pool.Holds w wrapper conn) :
      (pool.retire w).counters = pool.counters := by
    unfold Pool.retire
    dsimp only
    rw [holds.dispose]
    rfl
  unfold Pool.putAway
  by_cases reusable : pool.isReusable policy w = true
  · rw [if_pos reusable, holds.withConnection]
    cases (Exchange.rollbackIfNeeded conn).perform pool.env with
    | mk outcome env =>
      cases outcome with
      | ok _ =>
        unfold Pool.makeIdle
        dsimp only
        rw [(holds.talk env).rewrap]
        rfl
      | error error => exact retired (holds.talk _)
  · rw [if_neg reusable]
    exact retired holds

/-- A checkout that is given back is counted when its connection passed the check, and not
at all if it did not. -/
theorem Owns.accrues_release {places : Nat} {pool : Pool σ} (owns : pool.Owns [])
    (few : pool.active.length ≤ places) (policy : Policy) {w : WrapperId} (busy : w ∉ pool.idle) :
    Accrues places pool (pool.release policy w) := by
  have shorter : (pool.active.erase w).Sublist pool.active := List.erase_sublist
  have fewer := Nat.le_trans shorter.length_le few
  unfold Pool.release
  dsimp only
  cases valid : pool.isValid w with
  | false =>
    have left : Accrues places pool { pool with active := pool.active.erase w } :=
      accrues_of_sublist (Nat.le_refl _) rfl shorter (fun _ _ => rfl) fewer
    rw [if_neg]
    · exact (left.trans (accrues_count _ rfl)).trans (accrues_note _ _)
    · exact Bool.eq_false_iff.1 valid
  | true =>
    have listed := owns.mem_active valid busy
    obtain ⟨wrapper, conn, found⟩ := owns.toCoherent.exists_holds valid
    have holds : Holds { pool with active := pool.active.erase w } w wrapper conn :=
      ⟨found.found, found.valid, found.held⟩
    have checks := check_checks policy holds
    rw [if_pos holds.isValid]
    cases run : Pool.check policy w { pool with active := pool.active.erase w } with
    | mk outcome checked =>
      rw [run] at checks
      cases checks with
      | @bad env _ _ _ shuts =>
        have left : Accrues places pool
            (Pool.spend w env { pool with active := pool.active.erase w }) :=
          accrues_of_sublist shuts.clock rfl shorter
            (fun v _ => pool.checkoutAt_alter fun _ => rfl) fewer
        exact (left.trans (accrues_count _ rfl)).trans (accrues_note _ _)
      | @good env talks =>
        -- The connection counts as checked out until its check is over.
        have checked := accrues_talk pool talks.clock few
        have counted : Accrues places { pool with env := env }
            (Pool.count
              (fun c => { c with
                checkoutTime := c.checkoutTime + Pool.checkoutTime { pool with env := env } w })
              { pool with active := pool.active.erase w, env := env }) :=
          accrues_of_perm rfl (fun _ => rfl) (List.perm_cons_erase listed) rfl
        have still : ∀ counters, Holds
            { pool with active := pool.active.erase w, env := env, counters := counters }
            w wrapper conn := fun _ => ⟨holds.found, holds.valid, holds.held⟩
        refine (checked.trans counted).trans (((still _).putAway policy).accrues ?_ ?_ fewer)
        · exact fun v mem => owns.lt_size (shorter.subset mem)
        · exact congrArg Counters.checkoutTime ((still _).counters_putAway policy)

/-! ## Closing by force -/

/-- What is closed by force is not counted. -/
theorem Owns.accrues_forceCloseAll {places : Nat} {pool : Pool σ} (owns : pool.Owns [])
    (source : DataSource) : Accrues places pool (pool.forceCloseAll source) := by
  have drains := owns.drains source
  have counted := (pool.forceCloseAll_same source).1
  apply accrues_of_sublist drains.goesOn.clock (congrArg Counters.checkoutTime counted)
  · rw [drains.active]
    exact List.nil_sublist _
  · simp [drains.active]
  · simp [drains.active]

end Pool

namespace World

variable [Driver σ]

/-! ## Steps -/

theorem Operates.accrues {step : Step σ} {world : World σ} {pool : Pool σ}
    (operates : Operates step world pool) (orderly : world.Orderly) :
    Pool.Accrues world.pool.active.length world.pool pool := by
  cases operates with
  | none => exact .refl _ _
  | begun => exact orderly.owns.accrues_acquire (Nat.le_refl _) _ _
  | @woken place sleeper =>
    have counted : Pool.Accrues world.pool.active.length world.pool
        (world.roused place sleeper).pool := ⟨Nat.le_refl _, Nat.le_add_right _ _⟩
    have woken := orderly.roused place sleeper
    exact counted.trans (woken.owns.accrues_acquire (Nat.le_refl _) _ _)
  | used _ _ own =>
    apply Pool.accrues_withConnection _ _ (Nat.le_refl _)
    exact fun conn env => (own conn env).mono fun _ said => said.isTalk
  | returned _ out =>
    exact orderly.owns.accrues_release (Nat.le_refl _) _ (orderly.busy_of_checkout out)
  | emptied => exact orderly.owns.accrues_forceCloseAll _
  | shut =>
    have closed : Pool.Owns [] { world.pool with closed := true } := orderly.owns.relist (.refl _)
    have accrues : Pool.Accrues world.pool.active.length { world.pool with closed := true } _ :=
      (closed.accrues_forceCloseAll world.settings.source).trans (Pool.accrues_note .poolClosed _)
    exact ⟨accrues.clock, accrues.accrued⟩
  | aside grows => exact Pool.accrues_talk _ grows.clock (Nat.le_refl _)

/-- In a step, each connection that was checked out before accrues at most the time that
passes. -/
theorem Sound.accrues_take {world : World σ} (sound : world.Sound) (step : Step σ) :
    Pool.Accrues world.pool.active.length world.pool (world.take step).pool := by
  obtain ⟨pool, operates, ends⟩ := sound.toOrderly.operates step
  have accrues := operates.accrues sound.toOrderly
  cases ends with
  | reached same => exact same ▸ accrues
  | abandoned owns ended => exact ended ▸ accrues.trans (owns.accrues_forceCloseAll _)

/-! ## Runs -/

omit [Driver σ] in
/-- The largest number of connections that could be checked out in any world of a run. -/
def peak : List (World σ × Step σ) → World σ → Nat
  | [], world => world.settings.policy.maxActive
  | (earlier, _) :: past, world => max world.settings.policy.maxActive (peak past earlier)

omit [Driver σ] in
theorem maxActive_le_peak (past : List (World σ × Step σ)) (world : World σ) :
    world.settings.policy.maxActive ≤ peak past world := by
  cases past with
  | nil => exact Nat.le_refl _
  | cons => exact Nat.le_max_left _ _

omit [Driver σ] in
/-- No more connections are checked out than the policy allows. -/
theorem Orderly.active_le {world : World σ} (orderly : world.Orderly) :
    world.pool.active.length ≤ world.settings.policy.maxActive :=
  Nat.le_trans (Nat.le_add_left _ _) orderly.load

theorem Leads.accrues {first last : World σ} {past : List (World σ × Step σ)}
    (leads : first.Leads past last) (sound : first.Sound) :
    Pool.Accrues (peak past last) first.pool last.pool := by
  induction leads with
  | refl => exact .refl _ _
  | @step past world earlier step _ ih =>
    have before := earlier.sound sound
    have some : peak past world ≤ peak ((world, step) :: past) (world.take step) :=
      Nat.le_max_right _ _
    have few := Nat.le_trans before.toOrderly.active_le (maxActive_le_peak past world)
    exact (ih.mono some).trans ((before.accrues_take step).mono (Nat.le_trans few some))

/-- Every world that a run passes through is led to by a part of the run. -/
theorem Leads.exists_earlier_of_mem {first last mid : World σ} {past : List (World σ × Step σ)}
    {step : Step σ} (leads : first.Leads past last) (passed : (mid, step) ∈ past) :
    ∃ earlier, first.Leads earlier mid ∧ ∀ {turn}, turn ∈ earlier → turn ∈ past := by
  induction leads with
  | refl => cases passed
  | step leads _ _ ih =>
    rcases List.mem_cons.1 passed with same | before
    · cases same
      exact ⟨_, leads, fun turn => List.mem_cons_of_mem _ turn⟩
    · obtain ⟨earlier, reaches, part⟩ := ih before
      exact ⟨earlier, reaches, fun turn => List.mem_cons_of_mem _ (part turn)⟩

/-- The checkout time of a pool that was made at the moment `created` fits its capacity,
after the steps `past`. -/
structure FitsCapacity (created : Instant) (past : List (World σ × Step σ))
    (world : World σ) : Prop where
  /-- The clock did not run backwards, and no checkout was made in the future. -/
  created_le : created ≤ world.pool.now
  checkoutAt_le : ∀ w ∈ world.pool.active, world.pool.checkoutAt w ≤ world.pool.now
  /-- What was counted and what is outstanding fit the time since the pool was made, taken
  as often as connections could be checked out at most. -/
  fits : world.pool.counters.checkoutTime +
      (world.pool.active.map fun w => world.pool.now - world.pool.checkoutAt w).sum ≤
    peak past world * (world.pool.now - created)
  /-- In no step any time was counted twice: each connection that was checked out before
  it accrued at most the time that passed. -/
  once : ∀ mid step, (mid, step) ∈ past → (mid.take step).pool.accrued ≤
    mid.pool.accrued + mid.pool.active.length * ((mid.take step).pool.now - mid.pool.now)

/-- In every run the checkout time fits the capacity of the pool. -/
theorem fitsCapacity_of_leads {settings : Settings} {driver : σ} {created : Instant}
    {past : List (World σ × Step σ)} {world : World σ}
    (leads : ((World.start settings driver).advanceTo created).Leads past world) :
    FitsCapacity created past world := by
  have first : Reachable settings driver ((World.start settings driver).advanceTo created) :=
    Reachable.start.step (.act (.elapse created)) rfl
  have begun : ((World.start settings driver).advanceTo created).pool.now = created :=
    Nat.zero_max created
  have accrues := leads.accrues first.sound
  constructor
  case created_le => exact begun ▸ accrues.clock
  case checkoutAt_le => exact (leads.reachable first).tended.past
  case fits =>
    have none : ((World.start settings driver).advanceTo created).pool.accrued = 0 := rfl
    have bound := accrues.accrued
    rw [none, begun, Nat.zero_add] at bound
    exact bound
  case once =>
    intro mid step passed
    obtain ⟨earlier, reaches, -⟩ := leads.exists_earlier_of_mem passed
    exact ((reaches.sound first.sound).accrues_take step).accrued

/-- Two connections may be checked out of a pool that was made at the moment 100. A third
caller sleeps until it claims the first one, which was checked out for 20 moments; its first
holder drops the handle 5 moments later, when the second holder gives back a connection
that was checked out for 21. -/
def lateSteps : List (Step Simulation.State) :=
  [.act (.acquire none), .act (.elapse 104), .act (.acquire none), .act (.acquire none),
    .act (.elapse 120), .wake 0, .act (.elapse 125), .act (.drop 0), .act (.drop 1)]

/-- The two checkouts that ended count once each, the late drop does not count, and one
checkout is outstanding. -/
theorem fitsCapacity_late : ∃ world,
    ((World.start tightSettings {}).advanceTo 100).follow lateSteps = some world ∧
    world.pool.counters.checkoutTime = 41 ∧ world.pool.outstanding = 5 ∧
    world.pool.now = 125 ∧
    FitsCapacity 100 (((World.start tightSettings {}).advanceTo 100).trail lateSteps []) world := by
  have run : ((((World.start tightSettings ({} : Simulation.State)).advanceTo 100).follow
      lateSteps).map fun world => (world.pool.counters.checkoutTime, world.pool.outstanding,
        world.pool.now)) = some (41, 5, 125) := by decide +kernel
  obtain ⟨world, found, seen⟩ := Option.map_eq_some_iff.1 run
  simp only [Prod.mk.injEq] at seen
  exact ⟨world, found, seen.1, seen.2.1, seen.2.2,
    fitsCapacity_of_leads (Leads.refl.follow found)⟩

end World

end ConnectionPooling
