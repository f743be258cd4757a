/-
# When a connection was last used

The pool pings a connection that was not used for a while. A connection is used when it is
opened, when it is handed out, and whenever its holder works with it. What the pool asks of a
connection on its own behalf is no use, and neither is what somebody tries to do with a
connection that was taken away from him.

`UsedAt` reads the uses off a run, without looking at what the pool has recorded. The main
statement is that the record of every connection that is held is the time of its latest use,
through however many wrappers the connection has gone.
-/

import ConnectionPooling.Proofs.Calls
import Mathlib.Order.Bounds.Defs

namespace ConnectionPooling

variable {σ α : Type}

namespace Pool

/-- When the connection of a wrapper was last used, as the pool has recorded it. -/
def lastUsedAt (pool : Pool σ) (w : WrapperId) : Instant :=
  (pool.wrappers[w]?.map Wrapper.lastUsedAt).getD 0

/-- From `before` to `after` no connection was used. Whoever holds one has it with the last use
that was recorded before. -/
def Recalls (before after : Pool σ) : Prop :=
  ∀ v conn, after.slot v = some conn →
    ∃ u, before.slot u = some conn ∧ after.lastUsedAt v = before.lastUsedAt u

theorem Recalls.refl (pool : Pool σ) : pool.Recalls pool :=
  fun v _ held => ⟨v, held, rfl⟩

theorem Recalls.trans {before mid after : Pool σ} (first : before.Recalls mid)
    (second : mid.Recalls after) : before.Recalls after := by
  intro v conn held
  obtain ⟨u, there, same⟩ := second v conn held
  obtain ⟨t, here, still⟩ := first u conn there
  exact ⟨t, here, same.trans still⟩

theorem lastUsedAt_spend (pool : Pool σ) (w v : WrapperId) (env : Environment σ) :
    (pool.spend w env).lastUsedAt v = pool.lastUsedAt v :=
  congrArg (Option.getD · 0) (pool.map_wrappers_alter w v fun _ => rfl)

theorem recalls_spend (pool : Pool σ) (w : WrapperId) (env : Environment σ) :
    pool.Recalls (pool.spend w env) := by
  intro v conn held
  rw [slot_spend] at held
  split at held
  · cases held
  · exact ⟨v, held, pool.lastUsedAt_spend w v env⟩

/-- A connection that moves into a new wrapper takes its last use along. -/
theorem Holds.recalls_renew {pool : Pool σ} {w : WrapperId} {old : Wrapper} {conn : ConnId}
    (holds : pool.Holds w old conn) : pool.Recalls (pool.renew w old conn) := by
  intro v other held
  have found := pool.wrappers_renew w v old conn
  rw [slot_renew] at held
  split at held
  · rename_i new
    cases held
    rw [if_pos new] at found
    refine ⟨w, holds.slot, ?_⟩
    rw [lastUsedAt, found, lastUsedAt, holds.found]
    rfl
  · rename_i different
    rw [if_neg different] at found
    have same : (pool.renew w old conn).lastUsedAt v = (pool.spend w pool.env).lastUsedAt v := by
      rw [lastUsedAt, found]
      rfl
    rw [same]
    exact pool.recalls_spend w pool.env v other held

theorem Returns.recalls {policy : Policy} {w : WrapperId} {pool after : Pool σ}
    (returns : Returns policy w pool after) : pool.Recalls after := by
  cases returns with
  | @closed env => exact pool.recalls_spend w env
  | kept _ holds => exact holds.recalls_renew

theorem Empties.recalls {before after : Pool σ} (empties : before.Empties after) (pool : Pool σ) :
    pool.Recalls after :=
  fun v conn held => absurd held (empties.slot_ne v conn)

/-- From `before` to `after` the connections that are `marked` were used, and no others. The last
use of these is recorded as now. -/
def Marks (marked : ConnId → Prop) (before after : Pool σ) : Prop :=
  ∀ v conn, after.slot v = some conn →
    (marked conn ∧ after.lastUsedAt v = after.now) ∨
      (¬ marked conn ∧ ∃ u, before.slot u = some conn ∧ after.lastUsedAt v = before.lastUsedAt u)

theorem Recalls.marks {marked : ConnId → Prop} {before after : Pool σ}
    (recalls : before.Recalls after) (none : ∀ conn, ¬ marked conn) :
    Marks marked before after :=
  fun v conn held => .inr ⟨none conn, recalls v conn held⟩

theorem Recalls.trans_marks {marked : ConnId → Prop} {before mid after : Pool σ}
    (recalls : before.Recalls mid) (marks : Marks marked mid after) :
    Marks marked before after := by
  intro v conn held
  refine (marks v conn held).imp_right ?_
  rintro ⟨unmarked, u, there, same⟩
  obtain ⟨t, here, still⟩ := recalls u conn there
  exact ⟨unmarked, t, here, same.trans still⟩

theorem Marks.congr {marked marked' : ConnId → Prop} {before after : Pool σ}
    (marks : Marks marked before after) (same : ∀ conn, marked conn ↔ marked' conn) :
    Marks marked' before after := by
  rwa [← funext fun conn => propext (same conn)]

/-- To put a new time on a wrapper is to mark its connection. -/
theorem Coherent.marks_alter {pool : Pool σ} (coherent : pool.Coherent) (w : WrapperId)
    {update : Wrapper → Wrapper} (keeps : KeepsHolding update)
    (stamps : ∀ wrapper, (update wrapper).lastUsedAt = pool.now) :
    Marks (fun conn => pool.slot w = some conn) pool (pool.alter w update) := by
  intro v conn held
  rw [keeps.slot_alter] at held
  by_cases same : w = v
  · subst same
    refine .inl ⟨held, ?_⟩
    rw [lastUsedAt, wrappers_alter, if_pos rfl,
      Array.getElem?_eq_getElem (coherent.lt_size_of_slot held)]
    exact stamps _
  · refine .inr ⟨fun marked => same (coherent.slot_inj marked held), v, held, ?_⟩
    rw [lastUsedAt, wrappers_alter, if_neg same]
    rfl

variable [Driver σ]

/-- A search under the credentials `who` opens the connection `conn`, which is open and set up at
the time `t`. -/
structure OpensAt (settings : Settings) (who : Credentials) (pool : Pool σ) (conn : ConnId)
    (t : Instant) : Prop where
  idle : pool.idle = []
  room : pool.active.length < settings.policy.maxActive
  opened : ∃ env, (settings.source.connect who).perform pool.env = (.ok conn, env) ∧
    env.clock = t

namespace OpensAt

variable {settings : Settings} {who : Credentials} {pool : Pool σ} {conn : ConnId} {t : Instant}

theorem conn_eq (opens : pool.OpensAt settings who conn t) : conn = pool.env.opened := by
  obtain ⟨env, connected, -⟩ := opens.opened
  rcases settings.source.connect_cases who pool.env with
    ⟨mid, connect, -⟩ | ⟨error, mid, connect, -⟩
  · rw [connect] at connected
    cases connected
    rfl
  · rw [connect] at connected
    cases connected

theorem unique (opens : pool.OpensAt settings who conn t) {other : ConnId} {s : Instant}
    (again : pool.OpensAt settings who other s) : t = s := by
  obtain ⟨env, connected, rfl⟩ := opens.opened
  obtain ⟨env', connected', rfl⟩ := again.opened
  rw [connected] at connected'
  cases connected'
  rfl

/-- The search yields the connection, and that is when it ends. -/
theorem exists_search (opens : pool.OpensAt settings who conn t) :
    ∃ w found, pool.nextCandidate settings who = (.ok (.ready w), found) ∧ found.now = t := by
  obtain ⟨env, connected, clock⟩ := opens.opened
  have search : pool.nextCandidate settings who = pool.openFresh settings.source who := by
    unfold nextCandidate
    rw [opens.idle]
    exact if_pos opens.room
  unfold openFresh at search
  rw [connected] at search
  exact ⟨_, _, search, clock⟩

end OpensAt

namespace Finds

variable {settings : Settings} {who : Credentials} {pool after : Pool σ}
  {result : Except PoolError Candidate}

/-- After a search, the connections are those of before with their last use, but for one that was
opened. -/
theorem recalls (finds : Finds settings who pool result after) {v : WrapperId} {conn : ConnId}
    (held : after.slot v = some conn) :
    (∃ u, pool.slot u = some conn ∧ after.lastUsedAt v = pool.lastUsedAt u) ∨
      (inHand result = [v] ∧ pool.OpensAt settings who conn (after.lastUsedAt v)) := by
  cases finds with
  | idle => exact .inl ⟨v, held, rfl⟩
  | refused => exact .inl ⟨v, held, rfl⟩
  | noCapacity => exact .inl ⟨v, held, rfl⟩
  | mustWait => exact .inl ⟨v, held, rfl⟩
  | claimed _ _ _ _ holds => exact .inl (holds.recalls_renew v conn held)
  | @opened env idle room connect =>
    have found : (pool.enrol pool.env.opened env).wrappers[v]? = _ := wrappers_push _ _ _
    have held : (pool.enrol pool.env.opened env).slot v = some conn := held
    rw [slot_enrol] at held
    split at held
    · rename_i new
      cases held
      rw [if_pos new] at found
      refine .inr ⟨by rw [new]; rfl, idle, room, env, connect, ?_⟩
      show _ = (pool.enrol pool.env.opened env).lastUsedAt v
      rw [lastUsedAt, found]
      rfl
    · rename_i old
      rw [if_neg old] at found
      refine .inl ⟨v, held, ?_⟩
      show (pool.enrol pool.env.opened env).lastUsedAt v = _
      rw [lastUsedAt, found]
      rfl

theorem recalls_of_end (finds : Finds settings who pool result after)
    (none : inHand result = []) : pool.Recalls after := by
  intro v conn held
  rcases finds.recalls held with old | ⟨hand, -⟩
  · exact old
  · rw [none] at hand
    cases hand

end Finds

/-- Of a candidate that is rejected nothing is left. -/
theorem Owns.recalls_reject {settings : Settings} {who : Credentials}
    {pool found vetted : Pool σ} {w : WrapperId} {rejection : Rejection} (owns : pool.Owns [])
    (search : pool.nextCandidate settings who = (.ok (.ready w), found))
    (vet : found.vet settings.policy w = (.error rejection, vetted)) :
    pool.Recalls (vetted.countBad.note (.candidateRejected rejection)) := by
  have finds := owns.search search
  have checks := (finds.owns owns).vet vet
  intro v conn held
  cases checks with
  | @bad env said =>
    have left : (found.spend w env).slot v = some conn := held
    rw [slot_spend] at left
    split at left
    · cases left
    · rename_i different
      have same := found.lastUsedAt_spend w v env
      rcases finds.recalls left with ⟨u, there, still⟩ | ⟨hand, -⟩
      · exact ⟨u, there, same.trans still⟩
      · exact absurd (List.singleton_inj.1 hand) different

/-- Nothing is used before an acquisition looks for a candidate, however many it has rejected by
then. -/
theorem Acquires.recalls_searches {settings : Settings} {acquisition : Acquisition}
    {budget : Nat} {pool after : Pool σ} {progress : Progress}
    (acquires : Acquires settings acquisition budget pool progress after)
    (owns : pool.Owns []) :
    ∀ found ∈ pool.searches settings acquisition budget, pool.Recalls found := by
  have here (pool : Pool σ) : ∀ found ∈ [pool], pool.Recalls found :=
    List.forall_mem_singleton.2 (.refl pool)
  induction acquires with
  | @failed _ budget _ _ _ search =>
    rw [searches_of_end budget search rfl]
    exact here _
  | @asleep _ budget _ _ search =>
    rw [searches_of_end budget search rfl]
    exact here _
  | @granted _ budget _ _ _ _ search vet =>
    rw [searches_of_good budget search vet]
    exact here _
  | gaveUp search vet =>
    rw [searches_of_one_too_many search vet]
    exact here _
  | @again _ budget _ _ _ _ _ _ _ search vet _ ih =>
    rw [searches_of_bad budget search vet]
    refine List.forall_mem_cons.2 ⟨.refl _, fun found listed => ?_⟩
    exact (owns.recalls_reject search vet).trans (ih (owns.reject search vet).1 found listed)

/-- An acquisition uses the connection that it gets, and no other. -/
theorem Acquires.marks {settings : Settings} {acquisition : Acquisition} {budget : Nat}
    {pool after : Pool σ} {progress : Progress}
    (acquires : Acquires settings acquisition budget pool progress after)
    (owns : pool.Owns []) :
    Marks (fun conn => ∃ w ∈ progress.grant, after.slot w = some conn) pool after := by
  have nothing {progress : Progress} {after : Pool σ} (none : progress.grant = []) :
      ∀ conn, ¬ ∃ w ∈ progress.grant, after.slot w = some conn := by
    simp [none]
  induction acquires with
  | failed search =>
    exact ((owns.search search).recalls_of_end rfl).marks (nothing rfl)
  | @asleep acquisition _ _ found search =>
    have recalls := (owns.search search).recalls_of_end rfl
    have fell : found.Recalls (found.fallAsleep settings.policy acquisition).2 := by
      unfold fallAsleep
      cases acquisition.waited with
      | true => exact .refl found
      | false => exact .refl found
    exact (recalls.trans fell).marks (nothing rfl)
  | @granted acquisition _ pool found vetted w search vet =>
    have finds := owns.search search
    have checks := (finds.owns owns).vet vet
    have coherent := (checks.owns_good (finds.owns owns)).toCoherent
    have stamped := coherent.marks_alter w (keepsHolding_checkedOut
      (settings.source.fingerprintFor acquisition.who) vetted.now) fun _ => rfl
    intro v conn held
    rw [slot_handOut] at held
    rcases stamped v conn (by rwa [(keepsHolding_checkedOut _ _).slot_alter]) with
      ⟨marked, now⟩ | ⟨unmarked, u, there, same⟩
    · refine .inl ⟨⟨w, List.mem_singleton_self w, ?_⟩, now⟩
      rwa [slot_handOut]
    · refine .inr ⟨?_, ?_⟩
      · rintro ⟨x, granted, out⟩
        rw [List.mem_singleton.1 granted, slot_handOut] at out
        exact unmarked out
      · -- A connection that was opened in the search would be the one that is handed out.
        cases checks with
        | good =>
          rcases finds.recalls there with ⟨t, here, still⟩ | ⟨hand, -⟩
          · exact ⟨t, here, same.trans still⟩
          · exact absurd (List.singleton_inj.1 hand ▸ there) unmarked
  | gaveUp search vet => exact (owns.recalls_reject search vet).marks (nothing rfl)
  | again search vet _ ih =>
    exact (owns.recalls_reject search vet).trans_marks (ih (owns.reject search vet).1)

theorem Owns.recalls_lookups {pool found : Pool σ} (owns : pool.Owns []) {settings : Settings}
    {acquisition : Acquisition} (listed : found ∈ pool.lookups settings acquisition) :
    pool.Recalls found := by
  obtain ⟨searched, acquires⟩ := acquires_of_mem_lookups listed
  exact acquires.recalls_searches owns found searched

theorem Owns.marks_acquire {pool : Pool σ} (owns : pool.Owns []) (settings : Settings)
    (acquisition : Acquisition) :
    Marks (fun conn => ∃ w ∈ (pool.acquire settings acquisition).1.grant,
      (pool.acquire settings acquisition).2.slot w = some conn) pool
      (pool.acquire settings acquisition).2 := by
  rcases acquire_cases settings acquisition pool with ⟨-, refused⟩ | ⟨-, acquires⟩
  · rw [refused]
    exact (Recalls.refl pool).marks (by simp [Progress.grant])
  · exact acquires.marks owns

/-- Where a search opened a connection, the acquisition goes on after that. -/
theorem Acquires.opensAt_le {settings : Settings} {acquisition : Acquisition} {budget : Nat}
    {pool after : Pool σ} {progress : Progress}
    (acquires : Acquires settings acquisition budget pool progress after)
    (owns : pool.Owns []) {conn : ConnId} {t : Instant}
    (opens : pool.OpensAt settings acquisition.who conn t) : t ≤ after.now := by
  obtain ⟨w, found, opened, rfl⟩ := opens.exists_search
  have hand := (owns.search opened).owns owns
  cases acquires with
  | failed search | asleep search =>
    rw [opened] at search
    cases search
  | granted search vet =>
    rw [opened] at search
    cases search
    exact (hand.vet vet).thins.clock
  | gaveUp search vet =>
    rw [opened] at search
    cases search
    exact (hand.vet vet).thins.clock
  | again search vet rest =>
    have left := (owns.reject search vet).1
    rw [opened] at search
    cases search
    exact Nat.le_trans (hand.vet vet).thins.clock (rest.checkouts left).clock

theorem Owns.opensAt_le {pool found : Pool σ} (owns : pool.Owns []) {settings : Settings}
    {acquisition : Acquisition} (listed : found ∈ pool.lookups settings acquisition)
    {conn : ConnId} {t : Instant} (opens : found.OpensAt settings acquisition.who conn t) :
    t ≤ (pool.acquire settings acquisition).2.now := by
  obtain ⟨listed, acquires⟩ := acquires_of_mem_lookups listed
  obtain ⟨-, owned, again, more, same, rest⟩ := acquires.goes_on owns found listed
  rw [← same] at opens
  exact rest.opensAt_le owned opens

/-! ## Everything else -/

/-- To take a connection back is not to use it. -/
theorem Owns.recalls_release {pool : Pool σ} (owns : pool.Owns []) (policy : Policy)
    (w : WrapperId) : pool.Recalls (pool.release policy w) := by
  rcases owns.release_cases policy w with ⟨-, refused⟩ | ⟨-, returns⟩
  · rw [refused]
    exact .refl pool
  · have recalls := returns.recalls
    exact recalls

omit [Driver σ] in
/-- Whoever works with a connection that it can reach uses it. -/
theorem Coherent.marks_withConnection {pool : Pool σ} (coherent : pool.Coherent) (w : WrapperId)
    {work : ConnId → Exchange σ α}
    (own : ∀ conn, Exchange.Within (Entry.ByHolder conn) (work conn)) :
    Marks (fun conn => pool.reach w = some conn) pool ((pool.withConnection w work).2.touch w) := by
  have reached (conn : ConnId) : pool.slot w = some conn ↔ pool.reach w = some conn :=
    ⟨coherent.reach_of_slot, slot_of_reach⟩
  refine Marks.congr ?_ reached
  unfold withConnection
  cases pool.reach w with
  | none => exact coherent.marks_alter w (keepsHolding_used pool.now) fun _ => rfl
  | some conn =>
    have spoken : Coherent { pool with env := ((work conn).perform pool.env).2 } :=
      coherent.talk ((own conn pool.env).mono fun _ said => said.isTalk)
    have marks := spoken.marks_alter w (keepsHolding_used _) fun _ => rfl
    exact marks

end Pool

namespace World

variable [Driver σ]

/-! ## Steps -/

/-- In a step somebody uses the connection: it is handed out, or its holder works with it. To give
it back is not to work with it. -/
inductive UsedIn (step : Step σ) (world : World σ) (conn : ConnId) : Prop
  | handedOut {w : WrapperId} (granted : world.progress step = some (.granted w))
      (slot : (world.take step).pool.slot w = some conn)
  | worked {h : HandleId} (speaks : step.speaker = some h) (goesOn : step.returns = none)
      (reach : world.reach h = some conn)

variable {step : Step σ} {world : World σ}

omit [Driver σ] in
/-- Who works with a connection asks for none. -/
theorem asks_of_speaker {h : HandleId} (speaks : step.speaker = some h) :
    world.asks step = none := by
  cases step with
  | wake place => cases speaks
  | act action =>
    cases action with
    | acquire who => cases speaks
    | _ => rfl

/-- Where nobody speaks and no connection is handed out, none is used. -/
theorem not_usedIn (quiet : world.asks step = none)
    (silent : step.speaker = none ∨ ∃ h, step.returns = some h) (conn : ConnId) :
    ¬ UsedIn step world conn := by
  rintro (⟨granted, -⟩ | ⟨speaks, goesOn, -⟩)
  · rw [progress_of_quiet quiet] at granted
    cases granted
  · rcases silent with none | ⟨h, returns⟩
    · rw [none] at speaks
      cases speaks
    · rw [returns] at goesOn
      cases goesOn

/-- In a step in which a call works, the connection that it gets is the one that is used. -/
theorem usedIn_iff_of_asks {who : Credentials} (asks : world.asks step = some who)
    {progress : Progress} (reached : world.progress step = some progress) (conn : ConnId) :
    UsedIn step world conn ↔ ∃ w ∈ progress.grant, (world.take step).pool.slot w = some conn := by
  constructor
  · rintro (⟨granted, slot⟩ | ⟨speaks, -, -⟩)
    · rw [reached] at granted
      cases granted
      exact ⟨_, List.mem_cons_self, slot⟩
    · rw [asks_of_speaker speaks] at asks
      cases asks
  · rintro ⟨w, granted, slot⟩
    cases progress with
    | granted v =>
      cases List.mem_singleton.1 granted
      exact .handedOut reached slot
    | failed error => cases granted
    | asleep again => cases granted

theorem Orderly.recalls_giveBack (orderly : world.Orderly) (h : HandleId) (stage : Stage) :
    world.pool.Recalls (world.giveBack h stage).2.pool := by
  unfold World.giveBack
  cases world.handles[h]? with
  | none => exact .refl _
  | some handle =>
    dsimp only
    split
    · exact orderly.owns.recalls_release _ _
    · exact .refl _

omit [Driver σ] in
/-- A holder uses the connection that it can reach. -/
theorem Orderly.marks_withConnection (orderly : world.Orderly) (h : HandleId)
    {work : ConnId → Exchange σ α}
    (own : ∀ conn, Exchange.Within (Entry.ByHolder conn) (work conn)) :
    Pool.Marks (fun conn => world.reach h = some conn) world.pool
      (world.withConnection h work).2.pool := by
  unfold World.withConnection
  cases found : world.handles[h]? with
  | none =>
    refine (Pool.Recalls.refl _).marks fun conn => ?_
    simp [World.reach, checkout, found]
  | some handle =>
    dsimp only
    by_cases held : handle.stage = .held
    · rw [if_pos held]
      apply (orderly.owns.toCoherent.marks_withConnection handle.wrapper own).congr
      intro conn
      simp [World.reach, checkout, found, held]
    · rw [if_neg held]
      refine (Pool.Recalls.refl _).marks fun conn => ?_
      simp [World.reach, checkout, found, held]

/-- Who speaks without giving its connection back uses it, and nobody uses another one. -/
theorem usedIn_iff_of_speaker {h : HandleId} (speaks : step.speaker = some h)
    (goesOn : step.returns = none) (conn : ConnId) :
    UsedIn step world conn ↔ world.reach h = some conn := by
  constructor
  · rintro (⟨granted, -⟩ | ⟨speaks', -, reach⟩)
    · rw [progress_of_quiet (asks_of_speaker speaks)] at granted
      cases granted
    · rw [speaks] at speaks'
      cases speaks'
      exact reach
  · exact .worked speaks goesOn

/-- A step in which nobody speaks or asks for a connection uses none. -/
theorem Operates.recalls {pool : Pool σ} (operates : Operates step world pool)
    (orderly : world.Orderly) (quiet : world.asks step = Option.none)
    (silent : step.speaker = Option.none) : world.pool.Recalls pool := by
  cases operates with
  | none => exact .refl _
  | begun begins =>
    subst begins
    cases quiet
  | woken wakes found =>
    subst wakes
    simp [World.asks, found] at quiet
  | used speaks =>
    rw [silent] at speaks
    cases speaks
  | returned => exact orderly.owns.recalls_release _ _
  | emptied => exact (orderly.owns.forceCloseAll _).recalls _
  | shut =>
    have closed : Pool.Owns [] { world.pool with closed := true } := orderly.owns.relist (.refl _)
    exact ((closed.forceCloseAll world.settings.source).note .poolClosed).recalls _
  | aside => exact .refl _

theorem Orderly.marks_request (orderly : world.Orderly) (h : HandleId) (request : Request) :
    Pool.Marks (UsedIn (.act (.request h request)) world) world.pool
      (world.request h request).2.2.pool := by
  have asked (goesOn : Step.returns (.act (.request h request) : Step σ) = none) :
      Pool.Marks (UsedIn (.act (.request h request)) world) world.pool
        (world.withConnection h (Exchange.call .holder · request)).2.pool :=
    (orderly.marks_withConnection h fun conn => Exchange.within_call (.call request)).congr
      fun conn => (usedIn_iff_of_speaker rfl goesOn conn).symm
  cases request with
  | close => exact (orderly.recalls_giveBack h .closed).marks (not_usedIn rfl (.inr ⟨h, rfl⟩))
  | isClosed =>
    unfold World.request
    dsimp only
    split
    · -- A handle that was given back reaches nothing.
      rename_i gone
      refine (Pool.Recalls.refl _).marks fun conn used => ?_
      obtain ⟨w, out, -⟩ := reach_eq_some.1 ((usedIn_iff_of_speaker rfl rfl conn).1 used)
      obtain ⟨handle, found, held, -⟩ := checkout_eq_some.1 out
      simp [found, held] at gone
    · exact asked rfl
  | _ => exact asked rfl

/-- In a step those connections are marked that are used in it. -/
theorem Sound.marks (sound : world.Sound) (step : Step σ) :
    Pool.Marks (UsedIn step world) world.pool (world.take step).pool := by
  have orderly := sound.toOrderly
  cases asks : world.asks step with
  | some who =>
    obtain ⟨slept, acquisition, -, -, reached, ends⟩ := orderly.ends_acquire asks
    have owns : (waitedFor slept world.pool).Owns [] := orderly.owns.count _
    cases ends with
    | abandoned owned ended =>
      intro v conn held
      rw [ended] at held
      exact absurd held ((owned.forceCloseAll _).slot_ne v conn)
    | reached same =>
      have marks := owns.marks_acquire world.settings acquisition
      rw [← same] at marks
      exact marks.congr fun conn => (usedIn_iff_of_asks asks reached conn).symm
  | none =>
    cases speaks : step.speaker with
    | none =>
      obtain ⟨pool, operates, ends⟩ := orderly.operates step
      have before := operates.recalls orderly asks speaks
      refine Pool.Recalls.marks ?_ (not_usedIn asks (.inl speaks))
      cases ends with
      | reached same => exact same ▸ before
      | abandoned owns ended => exact ended ▸ (owns.forceCloseAll _).recalls _
    | some h =>
      cases step with
      | wake place => cases speaks
      | act action =>
        cases action with
        | request g request => exact orderly.marks_request g request
        | converse g dialogue =>
          exact (orderly.marks_withConnection g fun _ => dialogue.hold_within .call).congr
            fun conn => (usedIn_iff_of_speaker rfl rfl conn).symm
        | _ => cases speaks

/-! ## Runs -/

/-- The connection was used at this time in the past. -/
inductive UsedAt (past : List (World σ × Step σ)) (conn : ConnId) : Instant → Prop
  /-- It was opened then, and set up. -/
  | opened {mid : World σ} {step : Step σ} {who : Credentials} {pool : Pool σ} {t : Instant}
      (passed : (mid, step) ∈ past) (asks : mid.asks step = some who)
      (searched : pool ∈ mid.searches step) (opens : pool.OpensAt mid.settings who conn t) :
      UsedAt past conn t
  /-- It was handed out then, or its holder had worked with it. -/
  | used {mid : World σ} {step : Step σ} (passed : (mid, step) ∈ past)
      (used : UsedIn step mid conn) : UsedAt past conn (mid.take step).pool.now

theorem UsedAt.mono {past later : List (World σ × Step σ)} {conn : ConnId} {t : Instant}
    (used : UsedAt past conn t) (longer : past ⊆ later) : UsedAt later conn t := by
  cases used with
  | opened passed asks searched opens => exact .opened (longer passed) asks searched opens
  | used passed used => exact .used (longer passed) used

/-- A connection that is opened in a step is a new one, and it is open when the step ends. -/
theorem Sound.opensAt_le (sound : world.Sound) {who : Credentials}
    (asks : world.asks step = some who) {pool : Pool σ} (searched : pool ∈ world.searches step)
    {conn : ConnId} {t : Instant} (opens : pool.OpensAt world.settings who conn t) :
    world.pool.env.opened ≤ conn ∧ t ≤ (world.take step).pool.now := by
  constructor
  · rw [opens.conn_eq]
    exact (sound.searches_cases step pool searched).1.extends.opened
  · obtain ⟨slept, acquisition, rfl, searches, -, ends⟩ := sound.toOrderly.ends_acquire asks
    have owns : (waitedFor slept world.pool).Owns [] := sound.owns.count _
    rw [searches] at searched
    exact Nat.le_trans (owns.opensAt_le searched opens) ends.thins.clock

/-- All uses lie in the past. -/
theorem Leads.usedAt_le {first last : World σ} {past : List (World σ × Step σ)}
    (leads : first.Leads past last) (sound : first.Sound) {conn : ConnId} {t : Instant}
    (used : UsedAt past conn t) : t ≤ last.pool.now := by
  induction leads with
  | refl => cases used with | opened passed | used passed => cases passed
  | @step past mid earlier step allowed ih =>
    have before := earlier.sound sound
    have clock : mid.pool.now ≤ (mid.take step).pool.now := (before.turn step).extends.clock
    cases used with
    | opened passed asks searched opens =>
      rcases List.mem_cons.1 passed with same | old
      · cases same
        exact (before.opensAt_le asks searched opens).2
      · exact Nat.le_trans (ih (.opened old asks searched opens)) clock
    | used passed used =>
      rcases List.mem_cons.1 passed with same | old
      · cases same
        exact Nat.le_refl _
      · exact Nat.le_trans (ih (.used old used)) clock

/-- Every connection that is held has the time of its latest use on record. -/
theorem Leads.isGreatest_lastUsedAt {settings : Settings} {driver : σ}
    {past : List (World σ × Step σ)} {world : World σ}
    (leads : (World.start settings driver).Leads past world) {w : WrapperId} {conn : ConnId}
    (held : world.pool.slot w = some conn) :
    IsGreatest { t | UsedAt past conn t } (world.pool.lastUsedAt w) := by
  have start := sound_start settings driver
  induction leads generalizing w with
  | refl => simp [World.start, Pool.slot] at held
  | @step past mid earlier step allowed ih =>
    have before := earlier.sound start
    rcases before.marks step w conn held with ⟨used, now⟩ | ⟨unused, u, there, same⟩
    · rw [now]
      exact ⟨.used List.mem_cons_self used,
        fun t used => (earlier.step step allowed).usedAt_le start used⟩
    · rw [same]
      obtain ⟨earlierUse, latest⟩ := ih there
      refine ⟨earlierUse.mono (List.subset_cons_self _ _), ?_⟩
      rintro t (⟨passed, asks, searched, opens⟩ | ⟨passed, used⟩)
      · rcases List.mem_cons.1 passed with now | old
        · -- What is opened in the step is not held before.
          cases now
          have new := (before.opensAt_le asks searched opens).1
          exact absurd (before.owns.accounts.held_lt ⟨u, there⟩) (Nat.not_lt.2 new)
        · exact latest (.opened old asks searched opens)
      · rcases List.mem_cons.1 passed with now | old
        · cases now
          exact absurd used unused
        · exact latest (.used old used)

end World

end ConnectionPooling
