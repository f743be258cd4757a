/-
# The gate for connections

Whatever is to be handed out and whatever comes back from a valid handle is checked. The pool asks
whether the connection is closed, and it pings the connection if pings are enabled and the
connection was not used for longer than the policy allows. `Gates` says what the driver is asked
then, one request after the other, when the check passes, and what is left of a connection that
fails it.

The age that decides about the ping is that of the latest use as `UsedAt` reads it off the run.
A connection that fails is closed once, whatever the driver answers to that, and its wrapper never
gets into a list again.
-/

import ConnectionPooling.Proofs.LastUse
import ConnectionPooling.Proofs.Decision

namespace ConnectionPooling

/-! ## The requests of a check -/

/-- The entry is a request that the driver answered with an error. -/
def Entry.isFailure : Entry → Bool
  | .connect _ (.error _) => true
  | .call _ _ _ (.error _) => true
  | _ => false

/-- What the driver is asked when a connection is pinged, with the result that this comes to; the
latest request comes first. -/
inductive Pings (conn : ConnId) (query : String) : Except ConnectionError Unit → List Entry → Prop
  /-- The query fails. -/
  | failed (error : ConnectionError) :
      Pings conn query (.error error) [.call .pool conn (.probe query) (.error error)]
  /-- The query is answered, and what it may have begun is undone. -/
  | answered {result : Except ConnectionError Unit} {undone : List Entry}
      (undoes : Undoes conn result undone) :
      Pings conn query result (undone ++ [.call .pool conn (.probe query) (.ok ())])

/-- What the driver is asked when a connection is checked, with the result that this comes to; the
latest request comes first. There is a query if the connection is to be pinged. -/
inductive Examination (conn : ConnId) (query : Option String) :
    Except ConnectionError Unit → List Entry → Prop
  /-- The connection does not say whether it is closed. -/
  | unknown (error : ConnectionError) :
      Examination conn query (.error error) [.call .pool conn .isClosed (.error error)]
  /-- It says that it is. -/
  | closed : Examination conn query (.error .closed) [.call .pool conn .isClosed (.ok true)]
  /-- It says that it is not, and nothing more is asked. -/
  | spared (none : query = none) :
      Examination conn query (.ok ()) [.call .pool conn .isClosed (.ok false)]
  /-- It says that it is not, and is pinged. -/
  | pinged {text : String} {result : Except ConnectionError Unit} {asked : List Entry}
      (some : query = some text) (pings : Pings conn text result asked) :
      Examination conn query result (asked ++ [.call .pool conn .isClosed (.ok false)])

namespace Examination

variable {conn : ConnId} {query : Option String} {result : Except ConnectionError Unit}
  {asked : List Entry}

/-- A check asks first whether the connection is closed. -/
theorem exists_isClosed (examination : Examination conn query result asked) :
    ∃ answer, asked.getLast? = some (.call .pool conn .isClosed answer) := by
  cases examination with
  | unknown error => exact ⟨_, rfl⟩
  | closed => exact ⟨_, rfl⟩
  | spared => exact ⟨_, rfl⟩
  | pinged => exact ⟨_, List.getLast?_concat⟩

/-- The query is run exactly if there is one and the connection says that it is not closed. -/
theorem probes_iff (examination : Examination conn query result asked) (text : String) :
    (∃ answer, .call .pool conn (.probe text) answer ∈ asked) ↔
      query = some text ∧ .call .pool conn .isClosed (.ok false) ∈ asked := by
  cases examination with
  | unknown => simp
  | closed => simp
  | spared none => simp [none]
  | pinged some pings =>
    cases pings with
    | failed => simp [some, eq_comm]
    | answered undoes =>
      cases undoes with
      | unknown => simp [some, eq_comm]
      | automatic => simp [some, eq_comm]
      | rolledBack result => simp [some, eq_comm]

/-- A check passes exactly if the connection says that it is not closed and nothing that is asked
fails. -/
theorem passes_iff (examination : Examination conn query result asked) :
    result = .ok () ↔ .call .pool conn .isClosed (.ok false) ∈ asked ∧
      ∀ entry ∈ asked, entry.isFailure = false := by
  cases examination with
  | unknown => simp [Entry.isFailure]
  | closed => simp
  | spared => simp [Entry.isFailure]
  | pinged _ pings =>
    cases pings with
    | failed => simp [Entry.isFailure]
    | answered undoes =>
      cases undoes with
      | unknown => simp [Entry.isFailure]
      | automatic => simp [Entry.isFailure]
      | rolledBack result => cases result <;> simp [Entry.isFailure]

end Examination

namespace Exchange

variable {σ : Type} [Driver σ]

theorem exists_pings (realId : Nat) (query : String) (conn : ConnId) (env : Environment σ) :
    ∃ asked, Pings conn query ((ping realId query conn).perform env).1 asked ∧
      env.Hears asked ((ping realId query conn).perform env).2 := by
  unfold ping
  rw [perform_bind_ok (perform_note _ env), perform_bind_ok (perform_attempt _ _)]
  have first := hears_ask conn (.probe query) (env.write (.event (.pinging realId query)))
  cases run : (ask conn (.probe query)).perform (env.write (.event (.pinging realId query))) with
  | mk outcome mid =>
    rw [run] at first
    cases outcome with
    | error error => exact ⟨_, .failed error, first⟩
    | ok _ =>
      obtain ⟨undone, undoes, rest⟩ := exists_undoes conn mid
      dsimp only
      rw [perform_bind]
      cases back : (rollbackIfNeeded conn).perform mid with
      | mk result after =>
        rw [back] at undoes rest
        cases result with
        | error error => exact ⟨_, .answered undoes, first.trans rest⟩
        | ok _ => exact ⟨_, .answered undoes, (first.trans rest).event (.pingPassed realId)⟩

theorem exists_examination (realId : Nat) (query : Option String) (conn : ConnId)
    (env : Environment σ) :
    ∃ asked, Examination conn query ((checkAlive realId query conn).perform env).1 asked ∧
      env.Hears asked ((checkAlive realId query conn).perform env).2 := by
  have first := hears_ask conn .isClosed env
  unfold checkAlive
  rw [perform_bind]
  cases run : (ask conn .isClosed).perform env with
  | mk outcome mid =>
    rw [run] at first
    cases outcome with
    | error error => exact ⟨_, .unknown error, first⟩
    | ok closed =>
      cases closed with
      | true => exact ⟨_, .closed, first⟩
      | false =>
        cases query with
        | none => exact ⟨_, .spared rfl, first⟩
        | some text =>
          obtain ⟨asked, pings, rest⟩ := exists_pings realId text conn mid
          exact ⟨_, .pinged rfl pings, first.trans rest⟩

end Exchange

/-- The query that a connection is pinged with if it was not used for so long. -/
def Policy.pingAfter (unused : Duration) (policy : Policy) : Option String :=
  if policy.pingEnabled = true ∧ policy.pingNotUsedFor < unused then some policy.pingQuery
  else none

theorem Policy.pingAfter_eq_some {unused : Duration} {policy : Policy} :
    policy.pingAfter unused = some policy.pingQuery ↔
      policy.pingEnabled = true ∧ policy.pingNotUsedFor < unused := by
  unfold pingAfter
  split
  · simp_all
  · simp_all

variable {σ : Type}

/-- A connection that is not held although it was closed, was closed once. -/
theorem Environment.Accounts.closes_eq_one {held : ConnId → Prop} {env : Environment σ}
    (accounts : env.Accounts held) {conn : ConnId} (closed : 1 ≤ env.closes conn) :
    env.closes conn = 1 ∧ ¬ held conn := by
  have free : ¬ held conn := by
    intro isHeld
    rw [accounts.closes_held isHeld] at closed
    exact absurd closed (Nat.not_succ_le_zero 0)
  refine ⟨accounts.closes_lost ?_ free, free⟩
  by_contra unopened
  rw [accounts.closes_unopened (Nat.le_of_not_lt unopened)] at closed
  exact absurd closed (Nat.not_succ_le_zero 0)

namespace Pool

/-! ## The check -/

variable [Driver σ]

/-- How the pool checks the connection `conn` of the wrapper `w`, which was last used at the time
`used`. The requests to the driver come to `outcome`. -/
structure Gates (policy : Policy) (w : WrapperId) (conn : ConnId) (used : Instant)
    (outcome : Except ConnectionError Unit) (asked : List Entry) (pool : Pool σ) : Prop where
  /-- These are the requests, one by one. -/
  examined : Examination conn (policy.pingAfter (pool.now - used)) outcome asked
  /-- Whether the connection is closed is asked in any case, and first. -/
  asks : ∃ answer, asked.getLast? = some (.call .pool conn .isClosed answer)
  /-- The ping query is run exactly if pings are enabled, the connection says that it is not
  closed, and it was not used for longer than the policy allows. -/
  probes_iff : (∃ answer, .call .pool conn (.probe policy.pingQuery) answer ∈ asked) ↔
    policy.pingEnabled = true ∧ .call .pool conn .isClosed (.ok false) ∈ asked ∧
      policy.pingNotUsedFor < pool.now - used
  /-- The check passes exactly if the connection says that it is not closed and nothing that is
  asked fails. -/
  passes_iff : (pool.check policy w).1 = .ok () ↔
    .call .pool conn .isClosed (.ok false) ∈ asked ∧ ∀ entry ∈ asked, entry.isFailure = false
  /-- If it passes, the driver is asked nothing else, and the wrapper is what it was. -/
  passed : outcome = .ok () → pool.env.Hears asked (pool.check policy w).2.env ∧
    (pool.check policy w).2.wrappers = pool.wrappers
  /-- If it fails, the connection is closed as well, which counts as done whatever the driver
  answers, and the wrapper has lost it. -/
  failed : ∀ cause, outcome = .error cause →
    (pool.check policy w).1 = .error ⟨pool.realId w, cause⟩ ∧
    (∃ answer, pool.env.Hears (.call .pool conn .close answer :: asked)
      (pool.check policy w).2.env) ∧
    (pool.check policy w).2.isValid w = false ∧ (pool.check policy w).2.slot w = none ∧
    (pool.check policy w).2.env.closes conn = 1

namespace Holds

variable {pool : Pool σ} {w : WrapperId} {wrapper : Wrapper} {conn : ConnId}
  (holds : pool.Holds w wrapper conn) {policy : Policy} {env : Environment σ}

include holds

theorem check_of_ok
    (run : (Exchange.checkAlive (pool.realId w) (pool.pingQuery policy w) conn).perform pool.env =
      (.ok (), env)) : pool.check policy w = (.ok (), { pool with env := env }) := by
  unfold Pool.check
  dsimp only
  rw [holds.withConnection, run]

theorem check_of_error {cause : ConnectionError}
    (run : (Exchange.checkAlive (pool.realId w) (pool.pingQuery policy w) conn).perform pool.env =
      (.error cause, env)) :
    ∃ after answer, pool.check policy w = (.error ⟨pool.realId w, cause⟩, pool.spend w after) ∧
      env.Hears [.call .pool conn .close answer] after ∧ env.Shuts conn after := by
  have closes := Exchange.hears_orComplain (Exchange.hears_ask conn .close env)
    (.badCloseFailed (pool.realId w))
  have shuts := (Exchange.ends_close conn).orComplain (.badCloseFailed (pool.realId w)) env
  refine ⟨_, _, ?_, closes.event (.foundBad (pool.realId w) cause),
    shuts.talks (Environment.talks_note _ _)⟩
  unfold Pool.check
  dsimp only
  rw [holds.withConnection, run]
  dsimp only
  rw [(holds.talk env).dispose]
  rfl

end Holds

/-- The check of any wrapper that holds a connection. -/
theorem Coherent.exists_gates {pool : Pool σ} (coherent : pool.Coherent) {w : WrapperId}
    {wrapper : Wrapper} {conn : ConnId} (holds : pool.Holds w wrapper conn) (policy : Policy) :
    ∃ outcome asked, pool.Gates policy w conn (pool.lastUsedAt w) outcome asked := by
  have query : pool.pingQuery policy w = policy.pingAfter (pool.now - pool.lastUsedAt w) := rfl
  obtain ⟨asked, examination, hears⟩ :=
    Exchange.exists_examination (pool.realId w) (pool.pingQuery policy w) conn pool.env
  have talks := Exchange.checkAlive_talks (pool.realId w) (pool.pingQuery policy w) conn pool.env
  cases run : (Exchange.checkAlive (pool.realId w) (pool.pingQuery policy w) conn).perform
      pool.env with
  | mk outcome env =>
    rw [run] at hears examination talks
    rw [query] at examination
    have probes : (∃ answer, .call .pool conn (.probe policy.pingQuery) answer ∈ asked) ↔
        policy.pingEnabled = true ∧ .call .pool conn .isClosed (.ok false) ∈ asked ∧
          policy.pingNotUsedFor < pool.now - pool.lastUsedAt w := by
      rw [examination.probes_iff, Policy.pingAfter_eq_some, and_assoc, and_comm (a := _ < _)]
    cases outcome with
    | ok _ =>
      have check := holds.check_of_ok run
      refine ⟨_, asked, examination, examination.exists_isClosed, probes, ?_, ?_, ?_⟩
      · rw [check, ← examination.passes_iff]
        simp
      · rw [check]
        exact fun _ => ⟨hears, rfl⟩
      · rintro cause ⟨⟩
    | error cause =>
      obtain ⟨after, answer, check, closes, shuts⟩ := holds.check_of_error run
      refine ⟨_, asked, examination, examination.exists_isClosed, probes, ?_, ?_, ?_⟩
      · rw [check, ← examination.passes_iff]
        simp
      · rintro ⟨⟩
      · rintro other ⟨⟩
        rw [check]
        have invalid : (pool.spend w after).isValid w = false := by
          rw [← Bool.not_eq_true, isValid_spend]
          exact fun valid => valid.2 rfl
        have lost : (pool.spend w after).slot w = none := by rw [slot_spend, if_pos rfl]
        refine ⟨rfl, ⟨answer, hears.trans closes⟩, invalid, lost, ?_⟩
        have once := (Environment.Shuts.of_talks talks shuts).closes conn
        rw [if_pos rfl, coherent.accounts.closes_held ⟨w, holds.slot⟩] at once
        exact once

/-! ## What follows a check -/

/-- From `before` to `after` the journal went on, and no wrapper that existed got a connection. -/
structure Succeeds (before after : Pool σ) : Prop where
  journal : before.env.Extends (fun _ => True) after.env
  size : before.wrappers.size ≤ after.wrappers.size
  old : ∀ w conn, w < before.wrappers.size → after.slot w = some conn →
    before.slot w = some conn

omit [Driver σ] in
theorem Succeeds.refl (pool : Pool σ) : pool.Succeeds pool :=
  ⟨.refl _ _, Nat.le_refl _, fun _ _ _ => id⟩

omit [Driver σ] in
theorem Succeeds.trans {before mid after : Pool σ} (first : before.Succeeds mid)
    (second : mid.Succeeds after) : before.Succeeds after where
  journal := first.journal.trans second.journal
  size := Nat.le_trans first.size second.size
  old w conn exist held := first.old w conn exist
    (second.old w conn (Nat.lt_of_lt_of_le exist first.size) held)

omit [Driver σ] in
theorem Succeeds.note {before after : Pool σ} (succeeds : before.Succeeds after)
    (event : Event) : before.Succeeds (after.note event) where
  journal :=
    have logged := Environment.grows_write (Entry.IsEvent.isOwn (.event event)) after.env
    succeeds.journal.trans ((logged.extends fun _ own => own.opens).mono fun _ _ => trivial)
  size := succeeds.size
  old := succeeds.old

omit [Driver σ] in
theorem Succeeds.count {before after : Pool σ} (succeeds : before.Succeeds after)
    (update : Counters → Counters) : before.Succeeds (after.count update) :=
  ⟨succeeds.journal, succeeds.size, succeeds.old⟩

theorem Moves.succeeds {errand : Errand σ} {before after : Pool σ}
    (moves : Moves errand before after) : before.Succeeds after where
  journal := moves.extends.mono fun _ _ => trivial
  size := moves.size_le
  old _ _ exist held := moves.slot_old exist held

omit [Driver σ] in
theorem Drains.succeeds {source : DataSource} {before after : Pool σ}
    (drains : before.Drains source after) : before.Succeeds after where
  journal := drains.goesOn.mono fun _ _ => trivial
  size := drains.size
  old w conn _ held := absurd held (drains.slot_ne w conn)

omit [Driver σ] in
theorem succeeds_ask {conn : ConnId} {work : Exchange σ α}
    (own : Exchange.Within (Entry.ByPool conn) work) (pool : Pool σ) :
    pool.Succeeds { pool with env := (work.perform pool.env).2 } where
  journal := ((own pool.env).extends fun _ said => said.isOwn.opens).mono fun _ _ => trivial
  size := Nat.le_refl _
  old _ _ _ := id

omit [Driver σ] in
theorem Holds.succeeds_dispose {pool : Pool σ} {w : WrapperId} {wrapper : Wrapper}
    {conn : ConnId} (holds : pool.Holds w wrapper conn) {ending : ConnId → Exchange σ Unit}
    (own : Exchange.Within (Entry.ByPool conn) (ending conn))
    (complaint : ConnectionError → Event) : pool.Succeeds (pool.dispose w ending complaint) := by
  have complains : Exchange.Within (Entry.ByPool conn) ((ending conn).orComplain complaint) :=
    own.orComplain fun _ => .event _
  have said := pool.succeeds_ask complains
  rw [holds.dispose]
  refine ⟨said.journal, Nat.le_of_eq (size_alter pool w _).symm, fun v other _ held => ?_⟩
  rw [slot_spend] at held
  split at held
  · cases held
  · exact held

/-- After the check of a candidate, what it may have begun is undone, or the connection is
closed. -/
theorem Owns.succeeds_vet {pool : Pool σ} {w : WrapperId} (owns : pool.Owns [w])
    (policy : Policy) : (pool.check policy w).2.Succeeds (pool.vet policy w).2 := by
  obtain ⟨wrapper, conn, holds⟩ := owns.exists_holds_hand
  have checks := check_checks policy holds
  unfold Pool.vet
  dsimp only
  cases run : pool.check policy w with
  | mk outcome mid =>
    rw [run] at checks
    cases checks with
    | bad => exact .refl _
    | @good env talks =>
      have own : Exchange.Within (Entry.ByPool conn)
          (Exchange.rollbackIfNeeded conn : Exchange σ Unit) :=
        Exchange.within_rollbackIfNeeded (.call _) (.call _)
      have asked := succeeds_ask own { pool with env := env }
      dsimp only
      rw [(holds.talk env).withConnection]
      cases back : (Exchange.rollbackIfNeeded conn).perform env with
      | mk outcome later =>
        rw [back] at asked
        cases outcome with
        | ok _ => exact asked
        | error cause =>
          exact asked.trans
            ((holds.talk later).succeeds_dispose (Exchange.within_ask conn .close) _)

theorem Acquires.succeeds {settings : Settings} {acquisition : Acquisition} {budget : Nat}
    {pool after : Pool σ} {progress : Progress}
    (acquires : Acquires settings acquisition budget pool progress after) (owns : pool.Owns []) :
    pool.Succeeds after := by
  let errand : Errand σ :=
    { settings := settings
      who := some acquisition.who
      searched := pool.searches settings acquisition budget }
  have moves : Moves errand pool after := (acquires.moves owns rfl fun _ => id).1
  exact moves.succeeds

/-- An acquisition goes on from the check of its first candidate. -/
theorem Acquires.succeeds_check {settings : Settings} {acquisition : Acquisition} {budget : Nat}
    {pool after found : Pool σ} {progress : Progress} {w : WrapperId}
    (acquires : Acquires settings acquisition budget pool progress after) (owns : pool.Owns [])
    (search : pool.nextCandidate settings acquisition.who = (.ok (.ready w), found)) :
    (found.check settings.policy w).2.Succeeds after := by
  have vetted := ((owns.search search).owns owns).succeeds_vet settings.policy
  cases acquires with
  | failed other | asleep other =>
    rw [search] at other
    cases other
  | @granted _ _ _ _ passed _ other vet =>
    rw [search] at other
    cases other
    rw [vet] at vetted
    refine vetted.trans ⟨.refl _ _, Nat.le_of_eq (size_alter passed w _).symm, ?_⟩
    intro v conn _ held
    rwa [slot_handOut] at held
  | gaveUp other vet =>
    rw [search] at other
    cases other
    rw [vet] at vetted
    exact ((vetted.count _).note _).note _
  | again other vet rest =>
    have left := (owns.reject other vet).1
    rw [search] at other
    cases other
    rw [vet] at vetted
    exact ((vetted.count _).note _).trans (rest.succeeds left)

theorem Owns.succeeds_check {pool : Pool σ} (owns : pool.Owns []) {settings : Settings}
    {acquisition : Acquisition} {found searched : Pool σ} {w : WrapperId}
    (listed : searched ∈ pool.lookups settings acquisition)
    (search : searched.nextCandidate settings acquisition.who = (.ok (.ready w), found)) :
    (found.check settings.policy w).2.Succeeds (pool.acquire settings acquisition).2 := by
  obtain ⟨listed, acquires⟩ := acquires_of_mem_lookups listed
  obtain ⟨-, owned, again, more, same, rest⟩ := acquires.goes_on owns searched listed
  rw [← same] at search
  exact rest.succeeds_check owned search

theorem Holds.succeeds_putAway {pool : Pool σ} {w : WrapperId} {wrapper : Wrapper}
    {conn : ConnId} (holds : pool.Holds w wrapper conn) (inHand : w ∉ pool.idle ++ pool.active)
    (settings : Settings) : pool.Succeeds (pool.putAway settings.policy w) := by
  have moves : Moves ({ settings := settings } : Errand σ) pool _ :=
    holds.moves_putAway inHand settings.policy
  exact moves.succeeds

/-- What comes back from a valid handle is checked, and then refused or put away. -/
theorem Owns.succeeds_release {pool : Pool σ} (owns : pool.Owns []) (settings : Settings)
    {w : WrapperId} (busy : w ∉ pool.idle) (valid : pool.isValid w = true) :
    (Pool.check settings.policy w { pool with active := pool.active.erase w }).2.Succeeds
      (pool.release settings.policy w) := by
  obtain ⟨wrapper, conn, found⟩ := owns.exists_holds valid
  have holds : Holds { pool with active := pool.active.erase w } w wrapper conn :=
    ⟨found.found, found.valid, found.held⟩
  have inHand : w ∉ pool.idle ++ pool.active.erase w := by
    have nodup := owns.nodup
    rw [List.append_nil] at nodup
    rw [List.mem_append, not_or]
    exact ⟨busy, nodup.of_append_right.not_mem_erase⟩
  have checks := check_checks settings.policy holds
  unfold Pool.release
  dsimp only
  rw [if_pos holds.isValid]
  cases run : Pool.check settings.policy w { pool with active := pool.active.erase w } with
  | mk outcome mid =>
    rw [run] at checks
    cases checks with
    | bad => exact ((Succeeds.refl _).count _).note _
    | @good env talks =>
      have still : ∀ counters, Holds
          { pool with active := pool.active.erase w, env := env, counters := counters }
          w wrapper conn := fun _ => ⟨holds.found, holds.valid, holds.held⟩
      let checkedOut :=
        Pool.checkoutTime { pool with active := pool.active.erase w, env := env } w
      have tallied := Succeeds.count (.refl { pool with active := pool.active.erase w, env := env })
        fun c => { c with checkoutTime := c.checkoutTime + checkedOut }
      exact tallied.trans ((still _).succeeds_putAway inHand settings)

end Pool

namespace World

variable [Driver σ] {step : Step σ} {world : World σ}

theorem Ends.succeeds {pool after : Pool σ} (ends : Ends world pool after) :
    pool.Succeeds after := by
  cases ends with
  | reached same => exact same ▸ .refl _
  | abandoned owns ended => exact ended ▸ (owns.drains _).succeeds

theorem Turn.succeeds {after : World σ} (turn : Turn step world after) :
    world.pool.Succeeds after.pool where
  journal := turn.extends.mono fun _ _ => trivial
  size := turn.size_le
  old _ _ exist held := turn.slot_old exist held

theorem Leads.succeeds {first last : World σ} {past : List (World σ × Step σ)}
    (leads : first.Leads past last) (sound : first.Sound) : first.pool.Succeeds last.pool := by
  induction leads with
  | refl => exact .refl _
  | step earlier step _ ih => exact ih.trans ((earlier.sound sound).turn step).succeeds

/-- The pool has closed the connection `conn` once, and the wrapper `w` is in no list. -/
structure Discarded (w : WrapperId) (conn : ConnId) (world : World σ) : Prop where
  invalid : world.pool.isValid w = false
  unlisted : w ∉ world.pool.idle ++ world.pool.active
  closed : world.pool.env.closes conn = 1

omit [Driver σ] in
theorem Sound.discarded (sound : world.Sound) {before : Pool σ}
    (succeeds : before.Succeeds world.pool) {w : WrapperId} {conn : ConnId}
    (exist : w < before.wrappers.size) (lost : before.slot w = none)
    (closed : before.env.closes conn = 1) : Discarded w conn world := by
  have invalid : world.pool.isValid w = false := by
    refine Bool.eq_false_iff.2 fun valid => ?_
    obtain ⟨other, held⟩ := (sound.owns.toCoherent.isValid_iff_slot w).1 valid
    rw [succeeds.old w other exist held] at lost
    cases lost
  refine ⟨invalid, fun listed => ?_, ?_⟩
  · rw [(sound.owns.isValid_iff w).2 (by rwa [List.append_nil])] at invalid
    cases invalid
  · have least := succeeds.journal.closes_le conn
    rw [closed] at least
    exact (sound.owns.accounts.closes_eq_one least).1

/-- What a check that is made in a step comes to. -/
structure Heeds (step : Step σ) (world : World σ) (w : WrapperId) (conn : ConnId)
    (checked : Except Rejection Unit × Pool σ) : Prop where
  /-- The step goes on with what the check has left: its requests are in the journal for good. -/
  journal : checked.2.env.Extends (fun _ => True) (world.take step).pool.env
  /-- If it fails, then the wrapper is not in any list from the end of the step on, so that it is
  neither handed out nor idle, and the connection remains closed once. -/
  barred : checked.1 ≠ .ok () → ∀ past later, (world.take step).Leads past later →
    Discarded w conn later

theorem Sound.heeds (sound : world.Sound) (allowed : world.allows step = true) {pool : Pool σ}
    {policy : Policy} {w : WrapperId} {wrapper : Wrapper} {conn : ConnId} {used : Instant}
    {outcome : Except ConnectionError Unit} {asked : List Entry}
    (holds : pool.Holds w wrapper conn) (gates : pool.Gates policy w conn used outcome asked)
    (succeeds : (pool.check policy w).2.Succeeds (world.take step).pool) :
    Heeds step world w conn (pool.check policy w) where
  journal := succeeds.journal
  barred bad past later leads := by
    have after := sound.take allowed
    have exist := Nat.lt_of_lt_of_le (Pool.lt_size_of_isValid holds.isValid)
      (Pool.check_checks policy holds).draws.size
    cases outcome with
    | ok _ => exact absurd (gates.passes_iff.2 (gates.examined.passes_iff.1 rfl)) bad
    | error cause =>
      obtain ⟨-, -, -, lost, closed⟩ := gates.failed cause rfl
      exact (leads.sound after).discarded (succeeds.trans (leads.succeeds after)) exist lost closed

/-- Every connection is checked before it is handed out and when it comes back, at the age of its
latest use. -/
structure Gated (past : List (World σ × Step σ)) (world : World σ) : Prop where
  /-- Every candidate that an acquisition finds is checked. If the search opened the connection,
  that is its latest use. -/
  candidate : ∀ step who pool w found, world.allows step = true → world.asks step = some who →
    pool ∈ world.searches step →
    pool.nextCandidate world.settings who = (.ok (.ready w), found) →
    ∃ conn used outcome asked, found.slot w = some conn ∧
      IsGreatest { t | UsedAt past conn t ∨ pool.OpensAt world.settings who conn t } used ∧
      found.Gates world.settings.policy w conn used outcome asked ∧
      Heeds step world w conn (found.check world.settings.policy w)
  /-- Every connection is checked that a valid handle gives back, after it has left the
  checkouts. -/
  returned : ∀ step h, world.allows step = true → step.returns = some h →
    world.isValid h = true →
    ∃ w conn used outcome asked, world.checkout h = some w ∧ world.pool.slot w = some conn ∧
      IsGreatest { t | UsedAt past conn t } used ∧
      Pool.Gates world.settings.policy w conn used outcome asked
        { world.pool with active := world.pool.active.erase w } ∧
      Heeds step world w conn (Pool.check world.settings.policy w
        { world.pool with active := world.pool.active.erase w })

/-- The latest use of a candidate lies in the past, unless the search opened it. -/
theorem Leads.isGreatest_candidate {settings : Settings} {driver : σ}
    {past : List (World σ × Step σ)} (leads : (World.start settings driver).Leads past world)
    {who : Credentials} (asks : world.asks step = some who) {pool found : Pool σ}
    (searched : pool ∈ world.searches step) {w : WrapperId} {conn : ConnId}
    (search : pool.nextCandidate world.settings who = (.ok (.ready w), found))
    (held : found.slot w = some conn) :
    IsGreatest { t | UsedAt past conn t ∨ pool.OpensAt world.settings who conn t }
      (found.lastUsedAt w) := by
  have start := sound_start settings driver
  have sound := leads.sound start
  obtain ⟨slept, acquisition, rfl, searches, -, -⟩ := sound.toOrderly.ends_acquire asks
  have owns : (waitedFor slept world.pool).Owns [] := sound.owns.count _
  have listed := searches ▸ searched
  have owned := (owns.searched listed).2.1
  rcases (owned.search search).recalls held with ⟨u, there, same⟩ | ⟨-, opens⟩
  · obtain ⟨t, here, still⟩ := owns.recalls_lookups listed u conn there
    have latest := leads.isGreatest_lastUsedAt (w := t) here
    rw [same, still]
    refine ⟨.inl latest.1, ?_⟩
    rintro s (used | opens)
    · exact latest.2 used
    · -- What the search opens is not held before.
      have new := opens.conn_eq
      exact absurd (owned.accounts.held_lt ⟨u, there⟩) (new ▸ Nat.lt_irrefl _)
  · refine ⟨.inr opens, ?_⟩
    rintro s (used | again)
    · obtain ⟨v, after, opened, now⟩ := opens.exists_search
      have early := leads.usedAt_le start used
      have first := (owns.searched listed).1.clock
      have second := ((owned.search opened).thins owned).clock
      exact Nat.le_trans early (Nat.le_trans first (now ▸ second))
    · exact Nat.le_of_eq (again.unique opens)

/-- In every run, whatever is handed out or given back goes through the gate. -/
theorem gated_of_leads {settings : Settings} {driver : σ} {past : List (World σ × Step σ)}
    (leads : (World.start settings driver).Leads past world) : Gated past world := by
  have start := sound_start settings driver
  have sound := leads.sound start
  constructor
  case candidate =>
    intro step who pool w found allowed asks searched search
    obtain ⟨slept, acquisition, rfl, searches, -, ends⟩ := sound.toOrderly.ends_acquire asks
    have owns : (waitedFor slept world.pool).Owns [] := sound.owns.count _
    have listed := searches ▸ searched
    have owned := (owns.searched listed).2.1
    have hand := (owned.search search).owns owned
    obtain ⟨wrapper, conn, holds⟩ := hand.exists_holds_hand
    obtain ⟨outcome, asked, gates⟩ := hand.toCoherent.exists_gates holds world.settings.policy
    exact ⟨conn, _, outcome, asked, holds.slot,
      leads.isGreatest_candidate asks searched search holds.slot, gates,
      sound.heeds allowed holds gates ((owns.succeeds_check listed search).trans ends.succeeds)⟩
  case returned =>
    intro step h allowed returns valid
    obtain ⟨conn, reach⟩ := (sound.isValid_iff_reach h).1 valid
    obtain ⟨w, out, reached⟩ := reach_eq_some.1 reach
    have slot := Pool.slot_of_reach reached
    have isValid := (sound.owns.toCoherent.isValid_iff_slot w).2 ⟨conn, slot⟩
    have busy := sound.toOrderly.busy_of_checkout out
    have ends := sound.toOrderly.ends_release (Option.bind_eq_some_iff.2 ⟨h, returns, out⟩)
    obtain ⟨wrapper, other, found⟩ := sound.owns.toCoherent.exists_holds isValid
    obtain rfl : other = conn := Option.some.inj (found.slot.symm.trans slot)
    have holds : Pool.Holds { world.pool with active := world.pool.active.erase w } w wrapper
        other := ⟨found.found, found.valid, found.held⟩
    have coherent : Pool.Coherent { world.pool with active := world.pool.active.erase w } :=
      sound.owns.toCoherent.relist _ _ _ _ _
    obtain ⟨outcome, asked, gates⟩ := coherent.exists_gates holds world.settings.policy
    exact ⟨w, other, _, outcome, asked, out, slot, leads.isGreatest_lastUsedAt slot, gates,
      sound.heeds allowed holds gates
        ((sound.owns.succeeds_release world.settings busy isValid).trans ends.succeeds)⟩

/-- Connections that were not used for more than two moments are pinged. -/
def pingingSettings : Settings where
  source := tightSettings.source
  policy :=
    { tightSettings.policy with pingEnabled := true, pingQuery := "SELECT 1", pingNotUsedFor := 2 }

/-- A caller works with its connection, gives it back two moments later, and another moment passes
before somebody asks for one again. -/
def pingingSteps : List (Step Simulation.State) :=
  [.act (.acquire none), .act (.elapse 3), .act (.request 0 (.execute "DELETE")),
    .act (.elapse 5), .act (.drop 0), .act (.elapse 6)]

/-- The connection was not pinged when it came back, and it is pinged before it is handed out
again: beside two questions, there are the ping and the question what it may have begun. -/
theorem gated_pinging : ∃ world, (World.start pingingSettings {}).follow pingingSteps = some world ∧
    world.pool.idle = [1] ∧ world.pool.lastUsedAt 1 = 3 ∧ world.pool.env.requests.length = 6 ∧
    (world.take (.act (.acquire none))).pool.env.requests.length = 10 ∧
    Gated ((World.start pingingSettings {}).trail pingingSteps []) world := by
  have run : ((World.start pingingSettings ({} : Simulation.State)).follow pingingSteps).map
      (fun world => (world.pool.idle, world.pool.lastUsedAt 1, world.pool.env.requests.length,
        (world.take (.act (.acquire none))).pool.env.requests.length)) =
      some ([1], 3, 6, 10) := by decide +kernel
  obtain ⟨world, found, seen⟩ := Option.map_eq_some_iff.1 run
  simp only [Prod.mk.injEq] at seen
  exact ⟨world, found, seen.1, seen.2.1, seen.2.2.1, seen.2.2.2,
    gated_of_leads (Leads.refl.follow found)⟩

end World

end ConnectionPooling
