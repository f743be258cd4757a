/-
# What a wrapper keeps of its connection

A connection passes from wrapper to wrapper, and each of them carries a name for it and the time
since when it is open. `Arrival` is a connection that the data source opened and set up, with the
time at which that was done, and the arrivals of a run are told without a look at any wrapper. The
main statement is that the k-th arrival is named k in every wrapper that was ever around it, and
that no other connection is.

A wrapper may come and go within one step, so that no world between two steps shows whose it was.
`Visits` lists the pools that a step passes through, and `Admits` says what the pool at a later
place of the run keeps of an earlier one. Every wrapper was around its connection in one of these
pools.
-/

import ConnectionPooling.Proofs.LastUse
import ConnectionPooling.Proofs.Opening
import ConnectionPooling.Proofs.Waits

namespace ConnectionPooling

/-- A connection that the data source opened and set up. -/
structure Arrival where
  /-- The connection. -/
  conn : ConnId
  /-- When it was open and set up. -/
  time : Instant
  deriving DecidableEq

namespace Wrapper

/-- The times that a wrapper has on record are in order, and none of them is to come. -/
structure Timely (now : Instant) (wrapper : Wrapper) : Prop where
  createdAt_le : wrapper.createdAt ≤ wrapper.checkoutAt
  checkoutAt_le : wrapper.checkoutAt ≤ wrapper.lastUsedAt
  lastUsedAt_le : wrapper.lastUsedAt ≤ now

theorem Timely.mono {now later : Instant} {wrapper : Wrapper} (timely : wrapper.Timely now)
    (le : now ≤ later) : wrapper.Timely later :=
  ⟨timely.createdAt_le, timely.checkoutAt_le, Nat.le_trans timely.lastUsedAt_le le⟩

theorem Timely.createdAt_le_now {now : Instant} {wrapper : Wrapper} (timely : wrapper.Timely now) :
    wrapper.createdAt ≤ now :=
  calc wrapper.createdAt
      ≤ wrapper.checkoutAt := timely.createdAt_le
    _ ≤ wrapper.lastUsedAt := timely.checkoutAt_le
    _ ≤ now := timely.lastUsedAt_le

/-- The wrapper bears the name and the time of the arrival with `place` others before it, and it
holds no other connection. -/
structure Bears (place : Nat) (arrival : Arrival) (wrapper : Wrapper) : Prop where
  realId : wrapper.realId = place + 1
  createdAt : wrapper.createdAt = arrival.time
  slot : ∀ conn, wrapper.slot = some conn → arrival.conn = conn

/-- A change of a wrapper at the time `now` that leaves it with its name and the time since when
its connection is open. It may lose the connection. -/
structure Ages (now : Instant) (update : Wrapper → Wrapper) : Prop where
  realId : ∀ wrapper, (update wrapper).realId = wrapper.realId
  createdAt : ∀ wrapper, (update wrapper).createdAt = wrapper.createdAt
  slot : ∀ wrapper conn, (update wrapper).slot = some conn → wrapper.slot = some conn
  timely : ∀ wrapper, wrapper.Timely now → (update wrapper).Timely now

theorem ages_spent (now : Instant) : Ages now spent where
  realId _ := rfl
  createdAt _ := rfl
  slot _ _ held := nomatch held
  timely _ timely := ⟨timely.createdAt_le, timely.checkoutAt_le, timely.lastUsedAt_le⟩

theorem ages_checkedOut (code : Fingerprint) (now : Instant) :
    Ages now (·.checkedOut code now) where
  realId _ := rfl
  createdAt _ := rfl
  slot _ _ held := held
  timely _ timely := ⟨timely.createdAt_le_now, Nat.le_refl now, Nat.le_refl now⟩

theorem ages_used (now : Instant) : Ages now fun wrapper => { wrapper with lastUsedAt := now } where
  realId _ := rfl
  createdAt _ := rfl
  slot _ _ held := held
  timely _ timely :=
    ⟨timely.createdAt_le, Nat.le_trans timely.checkoutAt_le timely.lastUsedAt_le, Nat.le_refl now⟩

end Wrapper

variable {σ α : Type}

namespace Pool

/-! ## The register of a pool -/

/-- After these arrivals the pool has given out a name for each of them, and every wrapper bears
the name and the time of one. -/
structure Registers (arrivals : List Arrival) (pool : Pool σ) : Prop where
  count : pool.lastRealId = arrivals.length
  /-- Connections arrive in the order in which they were opened. -/
  rising : (arrivals.map Arrival.conn).Pairwise (· < ·)
  opened : ∀ arrival ∈ arrivals, arrival.conn < pool.env.opened
  borne : ∀ (w : WrapperId) (wrapper : Wrapper), pool.wrappers[w]? = some wrapper →
    wrapper.Timely pool.now ∧
      ∃ place arrival, arrivals[place]? = some arrival ∧ wrapper.Bears place arrival

namespace Registers

variable {arrivals : List Arrival} {pool : Pool σ} (registers : pool.Registers arrivals)

include registers

/-- No connection arrives twice. -/
theorem place_inj {j k : Nat} {first second : Arrival} (hj : arrivals[j]? = some first)
    (hk : arrivals[k]? = some second) (same : first.conn = second.conn) : j = k := by
  have nodup : (arrivals.map Arrival.conn).Nodup := registers.rising.imp Nat.ne_of_lt
  have inside : j < (arrivals.map Arrival.conn).length := by
    rw [List.length_map]
    exact (List.getElem?_eq_some_iff.1 hj).1
  refine (List.getElem?_inj inside nodup).1 ?_
  rw [List.getElem?_map, List.getElem?_map, hj, hk, Option.map_some, Option.map_some, same]

/-- Time may pass while the wrappers stay as they are. -/
theorem frame {after : Pool σ} (wrappers : after.wrappers = pool.wrappers)
    (lastRealId : after.lastRealId = pool.lastRealId)
    (opened : pool.env.opened ≤ after.env.opened) (clock : pool.now ≤ after.now) :
    after.Registers arrivals where
  count := lastRealId.trans registers.count
  rising := registers.rising
  opened arrival listed := Nat.lt_of_lt_of_le (registers.opened arrival listed) opened
  borne w wrapper found := by
    rw [wrappers] at found
    obtain ⟨timely, bears⟩ := registers.borne w wrapper found
    exact ⟨timely.mono clock, bears⟩

theorem alter (w : WrapperId) {update : Wrapper → Wrapper} (ages : Wrapper.Ages pool.now update) :
    (pool.alter w update).Registers arrivals where
  count := registers.count
  rising := registers.rising
  opened := registers.opened
  borne v wrapper found := by
    rw [wrappers_alter] at found
    split at found
    · obtain ⟨old, there, rfl⟩ := Option.map_eq_some_iff.1 found
      obtain ⟨timely, place, arrival, listed, bears⟩ := registers.borne v old there
      refine ⟨ages.timely old timely, place, arrival, listed, ?_⟩
      exact {
        realId := (ages.realId old).trans bears.realId
        createdAt := (ages.createdAt old).trans bears.createdAt
        slot := fun conn held => bears.slot conn (ages.slot old conn held) }
    · exact registers.borne v wrapper found

/-- A connection that moves into a new wrapper takes its name and its times along. -/
theorem renew {w : WrapperId} {old : Wrapper} {conn : ConnId} (holds : pool.Holds w old conn) :
    (pool.renew w old conn).Registers arrivals where
  count := registers.count
  rising := registers.rising
  opened := registers.opened
  borne v wrapper found := by
    rw [wrappers_renew] at found
    split at found
    · cases found
      obtain ⟨timely, place, arrival, listed, bears⟩ := registers.borne w old holds.found
      refine ⟨⟨timely.createdAt_le, timely.checkoutAt_le, timely.lastUsedAt_le⟩,
        place, arrival, listed, bears.realId, bears.createdAt, ?_⟩
      rintro other ⟨⟩
      exact bears.slot conn holds.held
    · exact (registers.alter w (Wrapper.ages_spent _)).borne v wrapper found

/-- A connection that is opened gets the next name, and the time is noted. -/
theorem enrol {env : Environment σ} (opens : pool.env.Opens env) :
    (pool.enrol pool.env.opened env).Registers
      (arrivals ++ [⟨pool.env.opened, env.clock⟩]) where
  count := by
    rw [List.length_append, ← registers.count]
    rfl
  rising := by
    rw [List.map_append, List.pairwise_append]
    refine ⟨registers.rising, List.pairwise_singleton _ _, ?_⟩
    intro early listed late last
    obtain ⟨arrival, arrived, rfl⟩ := List.mem_map.1 listed
    cases List.mem_singleton.1 last
    exact registers.opened arrival arrived
  opened arrival listed := by
    have next : env.opened = pool.env.opened + 1 := opens.opened
    show arrival.conn < env.opened
    rw [next]
    rcases List.mem_append.1 listed with old | new
    · exact Nat.lt_succ_of_lt (registers.opened arrival old)
    · cases List.mem_singleton.1 new
      exact Nat.lt_succ_self _
  borne v wrapper found := by
    have found : (pool.wrappers.push _)[v]? = some wrapper := found
    rw [wrappers_push] at found
    split at found
    · cases found
      refine ⟨⟨Nat.le_refl _, Nat.le_refl _, Nat.le_refl _⟩, arrivals.length, _,
        List.getElem?_concat_length, ?_⟩
      refine ⟨congrArg (· + 1) registers.count, rfl, ?_⟩
      rintro other ⟨⟩
      rfl
    · obtain ⟨timely, place, arrival, listed, bears⟩ := registers.borne v wrapper found
      refine ⟨timely.mono opens.clock, place, arrival, ?_, bears⟩
      rw [List.getElem?_append_left (List.getElem?_eq_some_iff.1 listed).1, listed]

end Registers

/-! ## From pool to pool -/

/-- From `before` to `after` these connections arrived, and each of them was wrapped in a pool that
was `seen`. So was the connection of every wrapper that was made on the way. Old wrappers keep the
name and the time. -/
structure Admits (made : List Arrival) (seen : Pool σ → Prop) (before after : Pool σ) : Prop where
  kept : ∀ (w : WrapperId) (old : Wrapper), before.wrappers[w]? = some old →
    ∃ new, after.wrappers[w]? = some new ∧ new.realId = old.realId ∧ new.createdAt = old.createdAt
  registers : ∀ arrivals, before.Registers arrivals → after.Registers (arrivals ++ made)
  held : ∀ arrival ∈ made, ∃ pool w, seen pool ∧ pool.slot w = some arrival.conn
  shown : ∀ w, before.wrappers.size ≤ w → w < after.wrappers.size →
    ∃ pool conn, seen pool ∧ pool.slot w = some conn

/-- From `before` to `after` these connections arrived, some of them before the pool `mid` and the
others after it. -/
def Splits (made : List Arrival) (seen : Pool σ → Prop) (before mid after : Pool σ) : Prop :=
  ∃ early late, made = early ++ late ∧ Admits early seen before mid ∧ Admits late seen mid after

namespace Admits

variable {made more : List Arrival} {seen : Pool σ → Prop} {before mid after : Pool σ}

theorem trans (first : Admits made seen before mid) (second : Admits more seen mid after) :
    Admits (made ++ more) seen before after where
  kept w old found := by
    obtain ⟨new, there, realId, createdAt⟩ := first.kept w old found
    obtain ⟨newer, here, again, still⟩ := second.kept w new there
    exact ⟨newer, here, again.trans realId, still.trans createdAt⟩
  registers arrivals registers := by
    rw [← List.append_assoc]
    exact second.registers _ (first.registers arrivals registers)
  held arrival listed := by
    rcases List.mem_append.1 listed with early | late
    · exact first.held arrival early
    · exact second.held arrival late
  shown w new inside := by
    by_cases early : w < mid.wrappers.size
    · exact first.shown w new early
    · exact second.shown w (Nat.le_of_not_lt early) inside

/-- What admits nothing does not matter afterwards. -/
theorem to_end (first : Admits made seen before mid) (second : Admits [] seen mid after) :
    Admits made seen before after := by
  have both := first.trans second
  rwa [List.append_nil] at both

theorem mono {seen' : Pool σ → Prop} (admits : Admits made seen before after)
    (wider : ∀ pool, seen pool → seen' pool) : Admits made seen' before after where
  kept := admits.kept
  registers := admits.registers
  held arrival listed := by
    obtain ⟨pool, w, passed, slot⟩ := admits.held arrival listed
    exact ⟨pool, w, wider pool passed, slot⟩
  shown w new inside := by
    obtain ⟨pool, conn, passed, held⟩ := admits.shown w new inside
    exact ⟨pool, conn, wider pool passed, held⟩

end Admits

section

variable {seen : Pool σ → Prop} {pool after : Pool σ}

/-- While the wrappers stay as they are, nothing is admitted, whether time passes or not. -/
theorem admits_of_same (wrappers : after.wrappers = pool.wrappers)
    (lastRealId : after.lastRealId = pool.lastRealId)
    (opened : pool.env.opened ≤ after.env.opened) (clock : pool.now ≤ after.now) :
    Admits [] seen pool after where
  kept w old found := ⟨old, wrappers ▸ found, rfl, rfl⟩
  registers arrivals registers := by
    rw [List.append_nil]
    exact registers.frame wrappers lastRealId opened clock
  held _ listed := nomatch listed
  shown w new inside := absurd (wrappers ▸ inside) (Nat.not_lt.2 new)

theorem admits_of_eq (wrappers : after.wrappers = pool.wrappers)
    (lastRealId : after.lastRealId = pool.lastRealId)
    (opened : after.env.opened = pool.env.opened) (clock : after.now = pool.now) :
    Admits [] seen pool after :=
  admits_of_same wrappers lastRealId (Nat.le_of_eq opened.symm) (Nat.le_of_eq clock.symm)

theorem Admits.refl (pool : Pool σ) : Admits [] seen pool pool :=
  admits_of_eq rfl rfl rfl rfl

theorem admits_grow {P : Entry → Prop} {env : Environment σ} (grows : pool.env.Grows P env) :
    Admits [] seen pool { pool with env := env } :=
  admits_of_same rfl rfl (Nat.le_of_eq grows.opened.symm) grows.clock

theorem admits_alter (w : WrapperId) {update : Wrapper → Wrapper}
    (ages : Wrapper.Ages pool.now update) : Admits [] seen pool (pool.alter w update) where
  kept v old found := by
    rw [wrappers_alter, found]
    split
    · exact ⟨update old, rfl, ages.realId old, ages.createdAt old⟩
    · exact ⟨old, rfl, rfl, rfl⟩
  registers arrivals registers := by
    rw [List.append_nil]
    exact registers.alter w ages
  held _ listed := nomatch listed
  shown v new inside := by
    rw [size_alter] at inside
    exact absurd inside (Nat.not_lt.2 new)

theorem admits_spend (w : WrapperId) {conn : ConnId} {env : Environment σ}
    (shuts : pool.env.Shuts conn env) : Admits [] seen pool (pool.spend w env) :=
  (admits_alter w (Wrapper.ages_spent _)).trans
    (admits_of_same rfl rfl (Nat.le_of_eq shuts.opened.symm) shuts.clock)

/-- The new wrapper of a connection that moves is seen around it when it has moved. -/
theorem Holds.admits_renew {w : WrapperId} {old : Wrapper} {conn : ConnId}
    (holds : pool.Holds w old conn) (passed : seen after)
    (wrappers : after.wrappers = (pool.renew w old conn).wrappers)
    (lastRealId : after.lastRealId = pool.lastRealId) (talks : pool.env.Talks after.env) :
    Admits [] seen pool after where
  kept v before found := by
    have inside := (Array.getElem?_eq_some_iff.1 found).1
    have spent : Admits [] seen pool (pool.alter w Wrapper.spent) :=
      admits_alter w (Wrapper.ages_spent _)
    rw [wrappers, wrappers_renew, if_neg (Nat.ne_of_lt inside)]
    exact spent.kept v before found
  registers arrivals registers := by
    rw [List.append_nil]
    exact (registers.renew holds).frame wrappers lastRealId (Nat.le_of_eq talks.opened.symm)
      talks.clock
  held _ listed := nomatch listed
  shown v new inside := by
    have size : (pool.renew w old conn).wrappers.size = pool.wrappers.size + 1 := by
      simp [renew, wrap, size_alter]
    have slot : after.slot pool.wrappers.size = (pool.renew w old conn).slot pool.wrappers.size :=
      congrArg (·[pool.wrappers.size]?.bind Wrapper.slot) wrappers
    rw [wrappers, size] at inside
    obtain rfl : v = pool.wrappers.size := by omega
    exact ⟨after, conn, passed, by rw [slot, slot_renew, if_pos rfl]⟩

/-- The wrapper of a connection that is opened is seen around it when it has been enrolled. -/
theorem admits_enrol {env : Environment σ} (opens : pool.env.Opens env) {mid : Pool σ}
    (passed : seen mid) (slot : mid.slot pool.wrappers.size = some pool.env.opened) :
    Admits [⟨pool.env.opened, env.clock⟩] seen pool (pool.enrol pool.env.opened env) where
  kept v before found := by
    have inside := (Array.getElem?_eq_some_iff.1 found).1
    refine ⟨before, ?_, rfl, rfl⟩
    show (pool.wrappers.push _)[v]? = some before
    rw [wrappers_push, if_neg (Nat.ne_of_lt inside), found]
  registers arrivals registers := registers.enrol opens
  held arrival listed := by
    cases List.mem_singleton.1 listed
    exact ⟨mid, _, passed, slot⟩
  shown v new inside := by
    have size : (pool.enrol pool.env.opened env).wrappers.size = pool.wrappers.size + 1 :=
      Array.size_push _
    obtain rfl : v = pool.wrappers.size := by omega
    exact ⟨mid, _, passed, slot⟩

end

namespace Splits

variable {made more : List Arrival} {seen : Pool σ → Prop} {first before mid after last : Pool σ}
  (splits : Splits made seen before mid after)

include splits

theorem admits : Admits made seen before after := by
  obtain ⟨early, late, rfl, begun, rest⟩ := splits
  exact begun.trans rest

theorem mono {seen' : Pool σ → Prop} (wider : ∀ pool, seen pool → seen' pool) :
    Splits made seen' before mid after := by
  obtain ⟨early, late, same, begun, rest⟩ := splits
  exact ⟨early, late, same, begun.mono wider, rest.mono wider⟩

/-- What arrived before comes before the pool `mid`. -/
theorem of_admits (admits : Admits more seen first before) :
    Splits (more ++ made) seen first mid after := by
  obtain ⟨early, late, rfl, begun, rest⟩ := splits
  exact ⟨more ++ early, late, (List.append_assoc more early late).symm, admits.trans begun, rest⟩

/-- What arrives later comes after it. -/
theorem to_admits (admits : Admits more seen after last) :
    Splits (made ++ more) seen before mid last := by
  obtain ⟨early, late, rfl, begun, rest⟩ := splits
  exact ⟨early, late ++ more, List.append_assoc early late more, begun, rest.trans admits⟩

end Splits

variable [Driver σ]

/-! ## Searches -/

/-- The connection that a search under the credentials `who` opens, if it does, with the time at
which it is set up. -/
def arrivals (settings : Settings) (who : Credentials) (pool : Pool σ) : List Arrival :=
  if pool.mayOpen settings.policy then
    match (settings.source.connect who).perform pool.env with
    | (.ok conn, env) => [⟨conn, env.clock⟩]
    | (.error _, _) => []
  else []

/-- The arrivals of a search are the connections of which `OpensAt` tells. -/
theorem mem_arrivals {settings : Settings} {who : Credentials} {pool : Pool σ}
    {arrival : Arrival} : arrival ∈ pool.arrivals settings who ↔
      pool.OpensAt settings who arrival.conn arrival.time := by
  unfold arrivals
  constructor
  · intro listed
    split at listed
    · rename_i room
      obtain ⟨idle, room⟩ := mayOpen_iff.1 room
      cases connect : (settings.source.connect who).perform pool.env with
      | mk outcome env =>
        rw [connect] at listed
        cases outcome with
        | error error => cases listed
        | ok conn =>
          cases List.mem_singleton.1 listed
          exact ⟨idle, room, env, connect, rfl⟩
    · cases listed
  · rintro ⟨idle, room, env, connect, clock⟩
    rw [if_pos (mayOpen_iff.2 ⟨idle, room⟩), connect]
    exact List.mem_singleton.2 (congrArg (Arrival.mk arrival.conn) clock.symm)

theorem arrivals_of_not_mayOpen {settings : Settings} {pool : Pool σ} (who : Credentials)
    (not : ¬ (pool.idle = [] ∧ pool.active.length < settings.policy.maxActive)) :
    pool.arrivals settings who = [] :=
  if_neg (mt mayOpen_iff.1 not)

variable {settings : Settings} {seen : Pool σ → Prop}

/-- What a search opens has arrived then. -/
theorem Finds.admits {who : Credentials} {pool after : Pool σ}
    {result : Except PoolError Candidate} (finds : Finds settings who pool result after)
    (passed : seen after) : Admits (pool.arrivals settings who) seen pool after := by
  cases finds with
  | idle idle =>
    rw [arrivals_of_not_mayOpen who (by simp [idle])]
    exact admits_of_eq rfl rfl rfl rfl
  | @opened env idle room connect opens =>
    have made : pool.arrivals settings who = [⟨pool.env.opened, env.clock⟩] := by
      rw [arrivals, if_pos (mayOpen_iff.2 ⟨idle, room⟩), connect]
    have slot : (pool.enrol pool.env.opened env).slot pool.wrappers.size =
        some pool.env.opened := by
      rw [slot_enrol, if_pos rfl]
    rw [made]
    exact (admits_enrol opens passed slot).to_end (admits_grow (Environment.talks_note _ _))
  | refused idle room connect refuses =>
    have made : pool.arrivals settings who = [] := by
      rw [arrivals, if_pos (mayOpen_iff.2 ⟨idle, room⟩), connect]
    rw [made]
    refine admits_of_same rfl rfl ?_ refuses.clock
    rcases refuses.outcome with ⟨same, -⟩ | ⟨mid, opens, shuts⟩
    · exact Nat.le_of_eq same.symm
    · show pool.env.opened ≤ _
      rw [shuts.opened, opens.opened]
      exact Nat.le_succ _
  | noCapacity idle active full =>
    rw [arrivals_of_not_mayOpen who (by simp [full])]
    exact .refl pool
  | mustWait idle active full =>
    rw [arrivals_of_not_mayOpen who fun room => absurd room.2 (Nat.not_lt.2 full)]
    exact .refl pool
  | claimed idle active full overdue holds talks =>
    rw [arrivals_of_not_mayOpen who fun room => absurd room.2 (Nat.not_lt.2 full)]
    exact holds.admits_renew passed rfl rfl talks

omit [Driver σ] in
theorem Checks.admits {pool after : Pool σ} {w : WrapperId} {result : Except Rejection Unit}
    (checks : Checks w pool result after) : Admits [] seen pool after := by
  cases checks with
  | good talks => exact admits_grow talks
  | bad _ _ shuts => exact admits_spend w shuts

/-- A candidate that is rejected has arrived nevertheless, and nothing arrives after that. -/
theorem Owns.admits_reject {who : Credentials} {pool found vetted : Pool σ} {w : WrapperId}
    {rejection : Rejection} (owns : pool.Owns [])
    (search : pool.nextCandidate settings who = (.ok (.ready w), found))
    (vet : found.vet settings.policy w = (.error rejection, vetted)) :
    Admits [] seen found (vetted.countBad.note (.candidateRejected rejection)) :=
  (((owns.search search).owns owns).vet vet).admits.trans (admits_of_eq rfl rfl rfl rfl)

/-- A search is passed when it ends. -/
theorem Owns.splits_search {who : Credentials} {pool found after : Pool σ}
    {result : Except PoolError Candidate} (owns : pool.Owns [])
    (search : pool.nextCandidate settings who = (result, found))
    (passed : seen (pool.nextCandidate settings who).2) {late : List Arrival}
    (rest : Admits late seen found after) :
    Splits (pool.arrivals settings who ++ late) seen pool (pool.nextCandidate settings who).2
      after := by
  rw [search] at passed ⊢
  exact ⟨_, late, rfl, (owns.search search).admits passed, rest⟩

omit [Driver σ] in
theorem admits_handOut (pool : Pool σ) (code : Fingerprint) (started : Instant) (w : WrapperId) :
    Admits [] seen pool (pool.handOut code started w) :=
  (admits_alter w (Wrapper.ages_checkedOut code pool.now)).trans (admits_of_eq rfl rfl rfl rfl)

omit [Driver σ] in
theorem admits_fallAsleep (policy : Policy) (acquisition : Acquisition) (pool : Pool σ) :
    Admits [] seen pool (pool.fallAsleep policy acquisition).2 := by
  unfold fallAsleep
  cases acquisition.waited with
  | true => exact admits_of_eq rfl rfl rfl rfl
  | false => exact admits_of_eq rfl rfl rfl rfl

/-- An acquisition passes the ends of its searches, and what these open arrives one after the
other. -/
theorem Acquires.splits {acquisition : Acquisition} {budget : Nat} {pool after : Pool σ}
    {progress : Progress}
    (acquires : Acquires settings acquisition budget pool progress after) (owns : pool.Owns [])
    (passed : ∀ found ∈ pool.searches settings acquisition budget,
      seen (found.nextCandidate settings acquisition.who).2) :
    ∀ found ∈ pool.searches settings acquisition budget,
      Splits ((pool.searches settings acquisition budget).flatMap
        (arrivals settings acquisition.who)) seen pool
        (found.nextCandidate settings acquisition.who).2 after := by
  induction acquires with
  | @failed _ budget _ _ _ search =>
    rw [searches_of_end budget search rfl] at passed ⊢
    refine List.forall_mem_singleton.2 ?_
    exact owns.splits_search search (passed _ List.mem_cons_self) (.refl _)
  | @asleep _ budget _ _ search =>
    rw [searches_of_end budget search rfl] at passed ⊢
    refine List.forall_mem_singleton.2 ?_
    exact owns.splits_search search (passed _ List.mem_cons_self) (admits_fallAsleep _ _ _)
  | @granted _ budget _ _ _ _ search vet =>
    rw [searches_of_good budget search vet] at passed ⊢
    have checks := ((owns.search search).owns owns).vet vet
    refine List.forall_mem_singleton.2 ?_
    exact owns.splits_search search (passed _ List.mem_cons_self)
      (checks.admits.trans (admits_handOut _ _ _ _))
  | gaveUp search vet =>
    rw [searches_of_one_too_many search vet] at passed ⊢
    refine List.forall_mem_singleton.2 ?_
    exact owns.splits_search search (passed _ List.mem_cons_self)
      ((owns.admits_reject search vet).trans (admits_grow (Environment.talks_note _ _)))
  | @again acquisition budget pool found vetted after w rejection _ search vet _ ih =>
    rw [searches_of_bad budget search vet] at passed ⊢
    obtain ⟨first, others⟩ := List.forall_mem_cons.1 passed
    have rejected : Admits [] seen found _ := owns.admits_reject search vet
    have later := ih (owns.reject search vet).1 others
    have all : Admits _ seen _ after := (later _ (mem_searches_self _ _ _ _)).admits
    rw [List.flatMap_cons]
    refine List.forall_mem_cons.2 ⟨?_, fun next listed => ?_⟩
    · exact owns.splits_search search first (rejected.trans all)
    · -- What the first search opened comes before all that is passed later.
      have begun := (owns.splits_search search first rejected).admits
      rw [List.append_nil] at begun
      exact (later next listed).of_admits begun

theorem Owns.admits_acquire {pool : Pool σ} (owns : pool.Owns []) (acquisition : Acquisition)
    (passed : ∀ found ∈ pool.lookups settings acquisition,
      seen (found.nextCandidate settings acquisition.who).2) :
    Admits ((pool.lookups settings acquisition).flatMap (arrivals settings acquisition.who)) seen
        pool (pool.acquire settings acquisition).2 ∧
      ∀ found ∈ pool.lookups settings acquisition,
        Splits ((pool.lookups settings acquisition).flatMap (arrivals settings acquisition.who))
          seen pool (found.nextCandidate settings acquisition.who).2
          (pool.acquire settings acquisition).2 := by
  rcases lookups_cases settings acquisition pool with ⟨none, refused⟩ | ⟨searched, acquires⟩
  · rw [none, refused]
    exact ⟨.refl pool, by simp⟩
  · rw [searched] at passed ⊢
    have splits := acquires.splits owns passed
    exact ⟨(splits pool (mem_searches_self _ _ _ _)).admits, splits⟩

/-! ## Everything else -/

omit [Driver σ] in
theorem Returns.admits {policy : Policy} {w : WrapperId} {pool after : Pool σ}
    (returns : Returns policy w pool after) (passed : seen after) : Admits [] seen pool after := by
  cases returns with
  | closed _ shuts => exact (admits_spend w shuts).trans (admits_of_eq rfl rfl rfl rfl)
  | kept _ holds talks => exact holds.admits_renew passed rfl rfl talks

theorem Owns.admits_release {pool : Pool σ} (owns : pool.Owns []) {policy : Policy}
    {w : WrapperId} (passed : seen (pool.release policy w)) :
    Admits [] seen pool (pool.release policy w) := by
  have taken : Admits [] seen pool { pool with active := pool.active.erase w } :=
    admits_of_eq rfl rfl rfl rfl
  rcases owns.release_cases policy w with ⟨-, refused⟩ | ⟨-, returns⟩
  · rw [refused]
    exact admits_of_eq rfl rfl rfl rfl
  · exact taken.trans (returns.admits passed)

omit [Driver σ] in
theorem admits_withConnection (pool : Pool σ) (w : WrapperId) {work : ConnId → Exchange σ α}
    (own : ∀ conn, Exchange.Within (Entry.ByHolder conn) (work conn)) :
    Admits [] seen pool ((pool.withConnection w work).2.touch w) := by
  unfold withConnection
  cases pool.reach w with
  | none => exact admits_alter w (Wrapper.ages_used pool.now)
  | some conn =>
    have spoken : Admits [] seen pool { pool with env := ((work conn).perform pool.env).2 } :=
      admits_grow (own conn pool.env)
    exact spoken.trans (admits_alter w (Wrapper.ages_used _))

theorem admits_forceClose (pool : Pool σ) (w : WrapperId) :
    Admits [] seen pool (pool.forceClose w) := by
  have grows := (pool.forceClose_frame w).1
  have spent : Admits [] seen pool (pool.alter w Wrapper.spent) :=
    admits_alter w (Wrapper.ages_spent _)
  unfold forceClose dispose invalidate at grows ⊢
  cases slot : pool.wrappers[w]?.bind Wrapper.slot with
  | none => exact spent
  | some conn =>
    rw [slot] at grows
    exact spent.trans (admits_of_same rfl rfl (Nat.le_of_eq grows.opened.symm) grows.clock)

theorem admits_foldl_forceClose (wrappers : List WrapperId) (pool : Pool σ) :
    Admits [] seen pool (wrappers.foldl forceClose pool) := by
  induction wrappers generalizing pool with
  | nil => exact .refl pool
  | cons w rest ih => exact (pool.admits_forceClose w).trans (ih (pool.forceClose w))

theorem admits_forceCloseAll (pool : Pool σ) (source : DataSource) :
    Admits [] seen pool (pool.forceCloseAll source) := by
  have taken : Admits [] seen pool
      { pool with expected := source.fingerprint, active := [], idle := [] } :=
    admits_of_eq rfl rfl rfl rfl
  have closed := taken.trans (admits_foldl_forceClose (pool.active ++ pool.idle) _)
  exact closed.trans (admits_grow (Environment.talks_note _ _))

end Pool

namespace World

variable [Driver σ] {step : Step σ} {world : World σ}

/-! ## Steps -/

/-- What arrives in a step, in this order. -/
def arrivals (step : Step σ) (world : World σ) : List Arrival :=
  match world.asks step with
  | none => []
  | some who => (world.searches step).flatMap (Pool.arrivals world.settings who)

/-- A pool that a step passes through. -/
inductive Visits (step : Step σ) (world : World σ) : Pool σ → Prop
  /-- A search for a candidate has ended. -/
  | found {who : Credentials} {pool : Pool σ} (asks : world.asks step = some who)
      (searched : pool ∈ world.searches step) :
      Visits step world (pool.nextCandidate world.settings who).2
  /-- A connection was taken back. -/
  | returned {w : WrapperId} (returned : step.returns.bind world.checkout = some w) :
      Visits step world (world.pool.release world.settings.policy w)
  /-- The step has ended. -/
  | ended : Visits step world (world.take step).pool

theorem arrivals_of_quiet (quiet : world.asks step = none) : world.arrivals step = [] := by
  rw [arrivals, quiet]

theorem arrivals_of_asks {who : Credentials} (asks : world.asks step = some who) :
    world.arrivals step = (world.searches step).flatMap (Pool.arrivals world.settings who) := by
  rw [arrivals, asks]

section

variable {seen : Pool σ → Prop}

theorem Ends.admits {pool after : Pool σ} (ends : Ends world pool after) :
    Pool.Admits [] seen pool after := by
  cases ends with
  | reached same =>
    rw [same]
    exact .refl pool
  | abandoned _ ended =>
    rw [ended]
    exact pool.admits_forceCloseAll _

/-- Where nobody asks for a connection, none arrives. -/
theorem Operates.admits {pool : Pool σ} (operates : Operates step world pool)
    (orderly : world.Orderly) (quiet : world.asks step = Option.none)
    (passed : ∀ w, step.returns.bind world.checkout = some w →
      seen (world.pool.release world.settings.policy w)) :
    Pool.Admits [] seen world.pool pool := by
  cases operates with
  | none => exact .refl _
  | begun begins =>
    subst begins
    cases quiet
  | woken wakes found =>
    subst wakes
    simp [World.asks, found] at quiet
  | used _ _ own => exact world.pool.admits_withConnection _ own
  | returned returns out =>
    exact orderly.owns.admits_release (passed _ (Option.bind_eq_some_iff.2 ⟨_, returns, out⟩))
  | emptied => exact world.pool.admits_forceCloseAll _
  | shut =>
    have closed : Pool.Admits [] seen world.pool { world.pool with closed := true } :=
      Pool.admits_of_eq rfl rfl rfl rfl
    exact (closed.trans (Pool.admits_forceCloseAll _ _)).trans
      (Pool.admits_grow (Environment.talks_note _ _))
  | aside grows => exact Pool.admits_grow grows

end

theorem Orderly.admits_quiet (orderly : world.Orderly) (quiet : world.asks step = none) :
    Pool.Admits [] (Visits step world) world.pool (world.take step).pool := by
  obtain ⟨pool, operates, ends⟩ := orderly.operates step
  exact (operates.admits orderly quiet fun _ => Visits.returned).trans ends.admits

/-- A step in which somebody asks for a connection passes the ends of its searches. -/
theorem Orderly.admits_asks (orderly : world.Orderly) {who : Credentials}
    (asks : world.asks step = some who) :
    Pool.Admits (world.arrivals step) (Visits step world) world.pool (world.take step).pool ∧
      ∀ pool ∈ world.searches step, Pool.Splits (world.arrivals step) (Visits step world)
        world.pool (pool.nextCandidate world.settings who).2 (world.take step).pool := by
  obtain ⟨slept, acquisition, rfl, searches, -, ends⟩ := orderly.ends_acquire asks
  have owns : (waitedFor slept world.pool).Owns [] := orderly.owns.count _
  have waited : Pool.Admits [] (Visits step world) world.pool (waitedFor slept world.pool) :=
    Pool.admits_of_eq rfl rfl rfl rfl
  have visited : ∀ found ∈ (waitedFor slept world.pool).lookups world.settings acquisition,
      Visits step world (found.nextCandidate world.settings acquisition.who).2 :=
    fun found listed => .found asks (searches ▸ listed)
  obtain ⟨acquired, splits⟩ := owns.admits_acquire acquisition visited
  rw [← searches, ← arrivals_of_asks asks] at acquired splits
  refine ⟨(waited.trans acquired).to_end ends.admits, fun pool searched => ?_⟩
  have passed := ((splits pool searched).of_admits waited).to_admits ends.admits
  rwa [List.append_nil, List.nil_append] at passed

/-- A step admits what arrives in it. -/
theorem Sound.admits (sound : world.Sound) (step : Step σ) :
    Pool.Admits (world.arrivals step) (Visits step world) world.pool (world.take step).pool := by
  cases asks : world.asks step with
  | none =>
    rw [arrivals_of_quiet asks]
    exact sound.toOrderly.admits_quiet asks
  | some who => exact (sound.toOrderly.admits_asks asks).1

/-- Of what arrives in a step, some comes before a pool that the step visits, and the rest after
it. -/
theorem Sound.splits (sound : world.Sound) {pool : Pool σ} (visits : Visits step world pool) :
    Pool.Splits (world.arrivals step) (Visits step world) world.pool pool
      (world.take step).pool := by
  have orderly := sound.toOrderly
  cases visits with
  | found asks searched => exact (orderly.admits_asks asks).2 _ searched
  | returned returned =>
    obtain ⟨h, returns, -⟩ := Option.bind_eq_some_iff.1 returned
    have released := orderly.owns.admits_release (Visits.returned returned)
    rw [arrivals_of_quiet (asks_of_returns returns)]
    exact ⟨[], [], rfl, released, (orderly.ends_release returned).admits⟩
  | ended => exact ⟨_, [], (List.append_nil _).symm, sound.admits step, .refl _⟩

/-! ## Runs -/

/-- A run has passed through the pool. -/
def Seen (past : List (World σ × Step σ)) (pool : Pool σ) : Prop :=
  ∃ visit ∈ past, Visits visit.2 visit.1 pool

/-- In one of the pools that a run has passed through, the wrapper was around the connection. -/
def Wrapped (past : List (World σ × Step σ)) (w : WrapperId) (conn : ConnId) : Prop :=
  ∃ pool, Seen past pool ∧ pool.slot w = some conn

theorem seen_cons (visit : World σ × Step σ) {past : List (World σ × Step σ)} {pool : Pool σ}
    (seen : Seen past pool) : Seen (visit :: past) pool := by
  obtain ⟨earlier, listed, visits⟩ := seen
  exact ⟨earlier, List.mem_cons_of_mem visit listed, visits⟩

theorem Visits.seen {pool : Pool σ} (visits : Visits step world pool)
    (past : List (World σ × Step σ)) : Seen ((world, step) :: past) pool :=
  ⟨(world, step), List.mem_cons_self, visits⟩

section

variable {first last : World σ} {past : List (World σ × Step σ)} (leads : first.Leads past last)
  (sound : first.Sound)

include leads sound

/-- A run admits what arrives in its steps. -/
theorem Leads.admits : Pool.Admits (gather arrivals past) (Seen past) first.pool last.pool := by
  induction leads with
  | refl => exact .refl _
  | @step past mid earlier step _ ih =>
    have here := (earlier.sound sound).admits step
    exact (ih.mono fun _ => seen_cons _).trans (here.mono fun _ visits => visits.seen past)

/-- Of what has arrived, some came before a pool that the run has passed through, and the rest
after it. -/
theorem Leads.splits {pool : Pool σ} (seen : Seen past pool) :
    Pool.Splits (gather arrivals past) (Seen past) first.pool pool last.pool := by
  induction leads with
  | refl =>
    obtain ⟨visit, listed, -⟩ := seen
    cases listed
  | @step past mid earlier step _ ih =>
    obtain ⟨visit, listed, visits⟩ := seen
    rw [gather_cons]
    rcases List.mem_cons.1 listed with rfl | old
    · have before := (earlier.admits sound).mono fun _ => seen_cons (mid, step)
      have splits := ((earlier.sound sound).splits visits).mono fun _ visits => visits.seen past
      exact splits.of_admits before
    · have here := ((earlier.sound sound).admits step).mono fun _ visits => visits.seen past
      exact ((ih ⟨visit, old, visits⟩).mono fun _ => seen_cons (mid, step)).to_admits here

/-- A handle stands for the same wrapper as long as it is known. -/
theorem Leads.found {h : HandleId} {handle : Handle} (found : first.handles[h]? = some handle) :
    ∃ later, last.handles[h]? = some later ∧ later.wrapper = handle.wrapper := by
  induction leads with
  | refl => exact ⟨handle, found, rfl⟩
  | step earlier step _ ih =>
    obtain ⟨mid, there, same⟩ := ih
    obtain ⟨later, here, still⟩ := ((earlier.sound sound).passes step).found there
    exact ⟨later, here, still.trans same⟩

/-- A handle tells the same name as long as it is known. -/
theorem Leads.realId_eq {h : HandleId} (old : h < first.handles.size) :
    last.realId h = first.realId h := by
  have found : first.handles[h]? = some first.handles[h] := Array.getElem?_eq_getElem old
  obtain ⟨handle, there, same⟩ := leads.found sound found
  have inside := (sound.handles.busy found).2
  obtain ⟨wrapper, here, realId, -⟩ :=
    (leads.admits sound).kept _ _ (Array.getElem?_eq_getElem inside)
  simp only [World.realId, found, there, same, Pool.realId, here,
    Array.getElem?_eq_getElem inside, Option.map_some, Option.getD_some, realId]

end

omit [Driver σ] in
theorem registers_start (settings : Settings) (driver : σ) :
    (World.start settings driver).pool.Registers [] := by
  constructor <;> simp [World.start]

section

variable {settings : Settings} {driver : σ} {past : List (World σ × Step σ)}
  (leads : (World.start settings driver).Leads past world)

include leads

theorem Leads.registers : world.pool.Registers (gather arrivals past) :=
  (leads.admits (sound_start settings driver)).registers [] (registers_start settings driver)

/-- No wrapper comes and goes without a connection. -/
theorem Leads.exists_wrapped {w : WrapperId} (inside : w < world.pool.wrappers.size) :
    ∃ conn, Wrapped past w conn := by
  obtain ⟨pool, conn, seen, held⟩ :=
    (leads.admits (sound_start settings driver)).shown w (Nat.zero_le w) inside
  exact ⟨conn, pool, seen, held⟩

/-- Among the connections that were ever wrapped are those that are held. -/
theorem Leads.wrapped_of_slot {w : WrapperId} {conn : ConnId}
    (held : world.pool.slot w = some conn) : Wrapped past w conn := by
  cases leads with
  | refl => simp [World.start, Pool.slot] at held
  | @step earlier mid _ step _ => exact ⟨_, Visits.ended.seen earlier, held⟩

/-- Whatever a wrapper was ever around has arrived, and the wrapper bears its name and its time
since then. -/
theorem Leads.exists_arrival {w : WrapperId} {conn : ConnId} (wrapped : Wrapped past w conn) :
    ∃ place arrival wrapper, (gather arrivals past)[place]? = some arrival ∧
      arrival.conn = conn ∧ world.pool.wrappers[w]? = some wrapper ∧
      wrapper.realId = place + 1 ∧ wrapper.createdAt = arrival.time := by
  obtain ⟨pool, seen, held⟩ := wrapped
  obtain ⟨early, late, same, begun, rest⟩ := leads.splits (sound_start settings driver) seen
  have registers : pool.Registers early := begun.registers [] (registers_start settings driver)
  obtain ⟨wrapper, found, slot⟩ := Option.bind_eq_some_iff.1 held
  obtain ⟨-, place, arrival, listed, bears⟩ := registers.borne w wrapper found
  obtain ⟨new, there, realId, createdAt⟩ := rest.kept w wrapper found
  refine ⟨place, arrival, new, ?_, bears.slot conn slot, there, realId.trans bears.realId,
    createdAt.trans bears.createdAt⟩
  rw [same, List.getElem?_append_left (List.getElem?_eq_some_iff.1 listed).1, listed]

/-- A wrapper bears the name of an arrival exactly if it was around that connection. -/
theorem Leads.realId_iff {w : WrapperId} {conn : ConnId} (wrapped : Wrapped past w conn)
    {place : Nat} {arrival : Arrival} (listed : (gather arrivals past)[place]? = some arrival) :
    world.pool.realId w = place + 1 ↔ conn = arrival.conn := by
  obtain ⟨own, arrived, wrapper, there, rfl, found, realId, -⟩ := leads.exists_arrival wrapped
  have named : world.pool.realId w = own + 1 := by
    rw [Pool.realId, found, ← realId]
    rfl
  rw [named, Nat.succ_inj]
  constructor
  · rintro rfl
    rw [there] at listed
    rw [Option.some.inj listed]
  · exact leads.registers.place_inj there listed

end

/-- Every wrapper names the connection that it was ever around, and tells since when it is open. -/
structure Identified (past : List (World σ × Step σ)) (world : World σ) : Prop where
  /-- Connections arrive in the order in which they were opened, and none arrives twice. -/
  rising : ((gather arrivals past).map Arrival.conn).Pairwise (· < ·)
  /-- As many names were given out as connections arrived. -/
  count : world.pool.lastRealId = (gather arrivals past).length
  /-- Every wrapper was around one connection, and around one only. -/
  around : ∀ w < world.pool.wrappers.size, ∃! conn, Wrapped past w conn
  /-- The connections that were wrapped are those that arrived. -/
  arrived : ∀ conn, (∃ w, Wrapped past w conn) ↔ ∃ arrival ∈ gather arrivals past,
    arrival.conn = conn
  /-- A wrapper that holds a connection is around that one. -/
  present : ∀ w conn, world.pool.slot w = some conn → Wrapped past w conn
  /-- A connection that the driver opened and that did not arrive was closed, once. -/
  astray : ∀ conn < world.pool.env.opened, (∀ arrival ∈ gather arrivals past, arrival.conn ≠ conn) →
    world.pool.env.closes conn = 1
  /-- Each wrapper that was ever around an arrival bears its number, counted from one, and the time
  at which it was open and set up. -/
  named : ∀ (place : Nat) (arrival : Arrival), (gather arrivals past)[place]? = some arrival →
    ∀ w, Wrapped past w arrival.conn → ∃ wrapper, world.pool.wrappers[w]? = some wrapper ∧
      wrapper.realId = place + 1 ∧ wrapper.createdAt = arrival.time
  /-- Wrappers of different connections bear different names. -/
  apart : ∀ v w conn other, Wrapped past v conn → Wrapped past w other → conn ≠ other →
    world.pool.realId v ≠ world.pool.realId w
  /-- What a wrapper has on record happened in this order, and nothing of it is to come. -/
  timely : ∀ (w : WrapperId) (wrapper : Wrapper), world.pool.wrappers[w]? = some wrapper →
    wrapper.Timely world.pool.now
  /-- A handle, be it of use or not, tells the name of its connection and how long ago that one was
  opened. -/
  handle : ∀ (h : HandleId) (handle : Handle), world.handles[h]? = some handle →
    ∃ place arrival, (gather arrivals past)[place]? = some arrival ∧
      Wrapped past handle.wrapper arrival.conn ∧ world.realId h = place + 1 ∧
      arrival.time ≤ world.pool.now ∧ world.age h = world.pool.now - arrival.time
  /-- However the run goes on, the name stands for the same connection, in old wrappers and in
  new ones. -/
  lasting : ∀ (more : List (World σ × Step σ)) (later : World σ), world.Leads more later →
    ∀ (place : Nat) (arrival : Arrival), (gather arrivals past)[place]? = some arrival →
      ∀ w conn, Wrapped (more ++ past) w conn →
        (later.pool.realId w = place + 1 ↔ conn = arrival.conn)
  /-- However the run goes on, a handle tells the same name. -/
  steady : ∀ (more : List (World σ × Step σ)) (later : World σ), world.Leads more later →
    ∀ h < world.handles.size, later.realId h = world.realId h

/-- In every run, the wrappers name their connections. -/
theorem identified_of_leads {settings : Settings} {driver : σ} {past : List (World σ × Step σ)}
    (leads : (World.start settings driver).Leads past world) : Identified past world := by
  have start := sound_start settings driver
  have sound := leads.sound start
  have registers := leads.registers
  have unique {w : WrapperId} {conn other : ConnId} (first : Wrapped past w conn)
      (second : Wrapped past w other) : conn = other := by
    obtain ⟨place, arrival, -, listed, rfl, -⟩ := leads.exists_arrival second
    exact (leads.realId_iff first listed).1 ((leads.realId_iff second listed).2 rfl)
  constructor
  case rising => exact registers.rising
  case count => exact registers.count
  case around =>
    intro w inside
    obtain ⟨conn, wrapped⟩ := leads.exists_wrapped inside
    exact ⟨conn, wrapped, fun other again => unique again wrapped⟩
  case arrived =>
    intro conn
    constructor
    · rintro ⟨w, wrapped⟩
      obtain ⟨place, arrival, -, listed, same, -⟩ := leads.exists_arrival wrapped
      exact ⟨arrival, List.mem_of_getElem? listed, same⟩
    · rintro ⟨arrival, listed, rfl⟩
      obtain ⟨pool, w, seen, held⟩ := (leads.admits start).held arrival listed
      exact ⟨w, pool, seen, held⟩
  case present => exact fun w conn held => leads.wrapped_of_slot held
  case astray =>
    intro conn opened strange
    apply sound.owns.accounts.closes_lost opened
    rintro ⟨w, held⟩
    obtain ⟨place, arrival, -, listed, same, -⟩ :=
      leads.exists_arrival (leads.wrapped_of_slot held)
    exact strange arrival (List.mem_of_getElem? listed) same
  case named =>
    intro place arrival listed w wrapped
    obtain ⟨own, arrived, wrapper, there, same, found, realId, createdAt⟩ :=
      leads.exists_arrival wrapped
    obtain rfl := registers.place_inj there listed same
    rw [listed] at there
    cases there
    exact ⟨wrapper, found, realId, createdAt⟩
  case apart =>
    intro v w conn other first second different same
    obtain ⟨place, arrival, -, listed, rfl, -⟩ := leads.exists_arrival second
    have named := (leads.realId_iff second listed).2 rfl
    exact different ((leads.realId_iff first listed).1 (same.trans named))
  case timely => exact fun w wrapper found => (registers.borne w wrapper found).1
  case handle =>
    intro h handle found
    obtain ⟨conn, wrapped⟩ := leads.exists_wrapped (sound.handles.busy found).2
    obtain ⟨place, arrival, wrapper, listed, rfl, there, realId, createdAt⟩ :=
      leads.exists_arrival wrapped
    have timely := (registers.borne _ wrapper there).1
    refine ⟨place, arrival, listed, wrapped, ?_, ?_, ?_⟩
    · simp only [World.realId, found, Pool.realId, there, Option.map_some, Option.getD_some,
        realId]
    · rw [← createdAt]
      exact timely.createdAt_le_now
    · simp only [World.age, found, Pool.age, Pool.since, there, Option.map_some, Option.getD_some,
        createdAt]
  case lasting =>
    intro more later rest place arrival listed w conn wrapped
    refine (leads.append rest).realId_iff wrapped ?_
    rw [gather_append, List.getElem?_append_left (List.getElem?_eq_some_iff.1 listed).1, listed]
  case steady => exact fun more later rest h old => rest.realId_eq sound old

/-- A driver that takes its time to open a connection and to set it up. -/
def slowDriver : Simulation.State where
  template := { latencies := [(.connect, 2), (.setIsolation, 1)] }

/-- The first connection that the driver opens cannot be set up, the second one can. It is given
back, handed out again in another wrapper, and claimed from its holder, who goes on to use the
handle. Meanwhile a third connection is opened. -/
def wanderingSteps : List (Step Simulation.State) :=
  let plant (faults : List (Simulation.Operation × Simulation.Fault)) : Step Simulation.State :=
    .act (.disturb fun driver => { driver with template.faults := faults })
  [plant [(.setIsolation, ⟨.transaction "refused", none⟩)], .act (.acquire none), plant [],
    .act (.acquire none), .act (.elapse 8), .act (.drop 0), .act (.acquire none),
    .act (.acquire none), .act (.elapse 20), .act (.acquire none), .act (.elapse 30),
    .act (.request 1 .commit)]

/-- Of the three connections that the driver opened, the first one was closed and the others
arrived. The first handle is gone and the second one is stale, and they tell the same of their
connection as the valid fourth one. -/
theorem identified_wandering :
    ∃ world, (World.start isolatedSettings slowDriver).follow wanderingSteps = some world ∧
      gather arrivals ((World.start isolatedSettings slowDriver).trail wanderingSteps []) =
        [⟨1, 6⟩, ⟨2, 11⟩] ∧
      world.pool.env.opened = 3 ∧ world.pool.env.closes 0 = 1 ∧ world.pool.now = 30 ∧
      [0, 1, 2, 3].map world.isValid = [false, false, true, true] ∧
      [0, 1, 2, 3].map world.realId = [1, 1, 2, 1] ∧
      [0, 1, 2, 3].map world.age = [24, 24, 19, 24] ∧
      Identified ((World.start isolatedSettings slowDriver).trail wanderingSteps []) world := by
  have arrived : gather arrivals
      ((World.start isolatedSettings slowDriver).trail wanderingSteps []) =
      [⟨1, 6⟩, ⟨2, 11⟩] := by decide +kernel
  have run : ((World.start isolatedSettings slowDriver).follow wanderingSteps).map
      (fun world => ((world.pool.env.opened, world.pool.env.closes 0, world.pool.now),
        [0, 1, 2, 3].map world.isValid, [0, 1, 2, 3].map world.realId,
        [0, 1, 2, 3].map world.age)) =
      some ((3, 1, 30), [false, false, true, true], [1, 1, 2, 1], [24, 24, 19, 24]) := by
    decide +kernel
  obtain ⟨world, found, seen⟩ := Option.map_eq_some_iff.1 run
  simp only [Prod.mk.injEq] at seen
  obtain ⟨⟨opened, closed, now⟩, valid, names, ages⟩ := seen
  exact ⟨world, found, arrived, opened, closed, now, valid, names, ages,
    identified_of_leads (Leads.refl.follow found)⟩

end World

end ConnectionPooling
