/-
# What the pool decides about a connection that comes back

A connection that is given back is refused, found bad, kept, or closed. `Verdict` names the
four, and `Decides` says of each when it is reached, what the driver is asked on the way, and
what changes. There is exactly one verdict for every connection and everything that the
driver may answer.

The requests are told one by one, up to those of the check: these are only known to be
questions that do not end the connection. Whatever the driver answers to the last of them, the
close, makes no difference.
-/

import ConnectionPooling.Proofs.Calls

namespace ConnectionPooling

/-! ## Requests to the driver -/

namespace Entry

/-- The entry is a request to the driver, and not a line in the log. -/
def isRequest : Entry → Bool
  | .event _ => false
  | _ => true

/-- The entry is a request of the pool to the connection `conn` that does not end it. -/
inductive Examines (conn : ConnId) : Entry → Prop
  | ask {request : Request} (goesOn : request ≠ .close)
      (result : Except ConnectionError request.Reply) :
      Examines conn (.call .pool conn request result)

end Entry

/-- What the driver is asked when an open transaction is undone, with the result that this
comes to; the latest request comes first. -/
inductive Undoes (conn : ConnId) : Except ConnectionError Unit → List Entry → Prop
  /-- The connection does not say whether it commits every statement by itself. -/
  | unknown (error : ConnectionError) :
      Undoes conn (.error error) [.call .pool conn .autoCommit (.error error)]
  /-- It does so, and nothing is left to be done. -/
  | automatic : Undoes conn (.ok ()) [.call .pool conn .autoCommit (.ok true)]
  /-- It does not, and is rolled back. -/
  | rolledBack (result : Except ConnectionError Unit) :
      Undoes conn result
        [.call .pool conn .rollback result, .call .pool conn .autoCommit (.ok false)]

variable {σ : Type}

namespace Environment

/-- All that the driver was asked, the latest first. -/
def requests (env : Environment σ) : List Entry :=
  env.entries.filter Entry.isRequest

/-- From `before` to `after` the driver got these requests and no others, the latest of which
comes first. -/
def Hears (asked : List Entry) (before after : Environment σ) : Prop :=
  after.requests = asked ++ before.requests

theorem Hears.trans {first second : List Entry} {before mid after : Environment σ}
    (early : before.Hears first mid) (late : mid.Hears second after) :
    before.Hears (second ++ first) after := by
  unfold Hears at early late ⊢
  rw [late, early, List.append_assoc]

/-- The driver does not hear of a line in the log. -/
theorem hears_event (event : Event) (env : Environment σ) :
    env.Hears [] (env.write (.event event)) := rfl

theorem Hears.event {asked : List Entry} {before after : Environment σ}
    (hears : before.Hears asked after) (event : Event) :
    before.Hears asked (after.write (.event event)) :=
  hears.trans (hears_event event after)

/-- Of what was written, the driver heard the requests. -/
theorem Grows.hears {P : Entry → Prop} {before after : Environment σ}
    (grows : before.Grows P after) :
    ∃ asked, before.Hears asked after ∧ ∀ entry ∈ asked, P entry ∧ entry.isRequest = true := by
  obtain ⟨added, journal, all⟩ := grows.journal
  refine ⟨(added.map Record.entry).filter Entry.isRequest, ?_, ?_⟩
  · unfold Hears requests entries
    rw [journal, List.map_append, List.filter_append]
  · intro entry listed
    obtain ⟨written, request⟩ := List.mem_filter.1 listed
    obtain ⟨record, mem, rfl⟩ := List.mem_map.1 written
    exact ⟨all record mem, request⟩

end Environment

namespace Exchange

/-- To complain is not to ask. -/
theorem hears_orComplain {work : Exchange σ Unit} {asked : List Entry} {env : Environment σ}
    (hears : env.Hears asked (work.perform env).2) (complaint : ConnectionError → Event) :
    env.Hears asked ((work.orComplain complaint).perform env).2 := by
  show env.Hears asked (((attempt work) >>= _).perform env).2
  rw [perform_bind_ok (perform_attempt work env)]
  cases (work.perform env).1 with
  | ok _ => exact hears
  | error error => exact hears.event (complaint error)

variable [Driver σ]

theorem hears_ask (conn : ConnId) (request : Request) (env : Environment σ) :
    env.Hears [.call .pool conn request ((ask conn request).perform env).1]
      ((ask conn request).perform env).2 := rfl

theorem exists_undoes (conn : ConnId) (env : Environment σ) :
    ∃ asked, Undoes conn ((rollbackIfNeeded conn).perform env).1 asked ∧
      env.Hears asked ((rollbackIfNeeded conn).perform env).2 := by
  have first := hears_ask conn .autoCommit env
  unfold rollbackIfNeeded
  rw [perform_bind]
  cases run : (ask conn .autoCommit).perform env with
  | mk outcome mid =>
    rw [run] at first
    cases outcome with
    | error error => exact ⟨_, .unknown error, first⟩
    | ok mode =>
      cases mode with
      | true => exact ⟨_, .automatic, first⟩
      | false => exact ⟨_, .rolledBack _, first.trans (hears_ask conn .rollback mid)⟩

/-- Shutting down undoes an open transaction, if it can, and closes. -/
theorem exists_hears_shutDown (conn : ConnId) (env : Environment σ) :
    ∃ (result : Except ConnectionError Unit) (undone : List Entry)
      (answer : Except ConnectionError Unit), Undoes conn result undone ∧
      env.Hears (.call .pool conn .close answer :: undone)
        ((shutDown conn).perform env).2 := by
  obtain ⟨undone, undoes, first⟩ := exists_undoes conn env
  unfold shutDown
  rw [perform_bind_ok (perform_attempt _ env)]
  cases undo : (rollbackIfNeeded conn).perform env with
  | mk rolledBack mid =>
    rw [undo] at undoes first
    have second := first.trans (hears_ask conn .close mid)
    rw [perform_bind_ok (perform_attempt _ mid)]
    cases shut : (ask conn .close).perform mid with
    | mk closed after =>
      rw [shut] at second
      refine ⟨rolledBack, undone, closed, undoes, ?_⟩
      -- Which of the two errors is reported makes no difference to the driver.
      cases rolledBack with
      | error error => exact second
      | ok _ => cases closed <;> exact second

end Exchange

/-! ## The verdict -/

/-- What the pool does with a connection that is given back. -/
inductive Verdict
  /-- It has lost the connection before, and there is nothing to be done. -/
  | refused
  /-- It closes the connection because the check failed. -/
  | bad
  /-- It makes the connection idle. -/
  | kept
  /-- It closes the connection although the check passed. -/
  | closed
  deriving DecidableEq

namespace Pool

/-- There is room for one more idle connection, and the wrapper `w` was checked out under the
credentials that are the defaults today. -/
structure Welcomes (settings : Settings) (w : WrapperId) (pool : Pool σ) : Prop where
  room : pool.idle.length < settings.policy.maxIdle
  code : pool.fingerprint w = some settings.source.fingerprint

variable [Driver σ]

/-- The totals after a connection came back good: its checkout time was taken after the
check. -/
def afterStay (policy : Policy) (w : WrapperId) (pool : Pool σ) : Counters :=
  { pool.counters with
    checkoutTime := pool.counters.checkoutTime + (pool.check policy w).2.checkoutTime w }

/-- How the pool that takes back the wrapper `w` gets to a verdict and to the pool `after`. In
all requests the latest comes first. -/
inductive Decides (settings : Settings) (w : WrapperId) (pool after : Pool σ) : Verdict → Prop
  /-- The wrapper has lost its connection before. The driver is asked nothing, and one more
  bad connection is counted. -/
  | refused (invalid : pool.isValid w = false) (hears : pool.env.Hears [] after.env)
      (driver : after.env.driver = pool.env.driver)
      (wrappers : after.wrappers = pool.wrappers) (idle : after.idle = pool.idle)
      (counters : after.counters =
        { pool.counters with badConnections := pool.counters.badConnections + 1 }) :
      Decides settings w pool after .refused
  /-- The check fails. The connection is closed, and one more bad connection is counted, but
  no checkout time. -/
  | bad {wrapper : Wrapper} {conn : ConnId} {rejection : Rejection} {examined : List Entry}
      {answer : Except ConnectionError Unit} (holds : pool.Holds w wrapper conn)
      (fails : (pool.check settings.policy w).1 = .error rejection)
      (examines : ∀ entry ∈ examined, entry.Examines conn)
      (hears : pool.env.Hears (.call .pool conn .close answer :: examined) after.env)
      (shuts : pool.env.Shuts conn after.env) (lost : after.slot w = none)
      (idle : after.idle = pool.idle)
      (counters : after.counters =
        { pool.counters with badConnections := pool.counters.badConnections + 1 }) :
      Decides settings w pool after .bad
  /-- The check passes, the connection is welcome, and it holds no open transaction any more.
  It becomes idle as the last one, in the next wrapper, and nothing is closed. -/
  | kept {wrapper : Wrapper} {conn : ConnId} {examined undone : List Entry}
      (holds : pool.Holds w wrapper conn) (passes : (pool.check settings.policy w).1 = .ok ())
      (examines : ∀ entry ∈ examined, entry.Examines conn)
      (welcomes : pool.Welcomes settings w) (undoes : Undoes conn (.ok ()) undone)
      (hears : pool.env.Hears (undone ++ examined) after.env)
      (talks : pool.env.Talks after.env) (lost : after.slot w = none)
      (idle : after.idle = pool.idle ++ [pool.wrappers.size])
      (renewed : after.wrappers[pool.wrappers.size]? =
        some { wrapper with valid := true, slot := some conn, fingerprint := none })
      (counters : after.counters = pool.afterStay settings.policy w) :
      Decides settings w pool after .kept
  /-- The check passes, but the connection is not welcome, or it cannot be freed of its
  transaction. It is closed after one more try to do that. -/
  | closed {wrapper : Wrapper} {conn : ConnId} {examined before undone : List Entry}
      {result answer : Except ConnectionError Unit} (holds : pool.Holds w wrapper conn)
      (passes : (pool.check settings.policy w).1 = .ok ())
      (examines : ∀ entry ∈ examined, entry.Examines conn)
      (reason : ¬ pool.Welcomes settings w ∧ before = [] ∨
        pool.Welcomes settings w ∧ ∃ error, Undoes conn (.error error) before)
      (undoes : Undoes conn result undone)
      (hears : pool.env.Hears (.call .pool conn .close answer :: undone ++ before ++ examined)
        after.env)
      (shuts : pool.env.Shuts conn after.env) (lost : after.slot w = none)
      (idle : after.idle = pool.idle)
      (counters : after.counters = pool.afterStay settings.policy w) :
      Decides settings w pool after .closed

/-- No two verdicts go together. -/
theorem Decides.unique {settings : Settings} {w : WrapperId} {pool after : Pool σ}
    {first second : Verdict} (decides : Decides settings w pool after first)
    (again : Decides settings w pool after second) : first = second := by
  have valid_of_holds {wrapper : Wrapper} {conn : ConnId} (holds : pool.Holds w wrapper conn)
      (invalid : pool.isValid w = false) : False := by
    rw [holds.isValid] at invalid
    cases invalid
  have passes_of_fails {rejection : Rejection}
      (fails : (pool.check settings.policy w).1 = .error rejection)
      (passes : (pool.check settings.policy w).1 = .ok ()) : False := by
    rw [fails] at passes
    cases passes
  have longer (idle : after.idle = pool.idle)
      (joined : after.idle = pool.idle ++ [pool.wrappers.size]) : False := by
    rw [idle] at joined
    simp at joined
  cases decides with
  | refused invalid =>
    cases again with
    | refused => rfl
    | bad holds | kept holds | closed holds => exact (valid_of_holds holds invalid).elim
  | bad holds fails =>
    cases again with
    | refused invalid => exact (valid_of_holds holds invalid).elim
    | bad => rfl
    | kept _ passes | closed _ passes => exact (passes_of_fails fails passes).elim
  | kept holds passes _ _ _ _ _ _ joined =>
    cases again with
    | refused invalid => exact (valid_of_holds holds invalid).elim
    | bad _ fails => exact (passes_of_fails fails passes).elim
    | kept => rfl
    | closed _ _ _ _ _ _ _ _ idle => exact (longer idle joined).elim
  | closed holds passes _ _ _ _ _ _ idle =>
    cases again with
    | refused invalid => exact (valid_of_holds holds invalid).elim
    | bad _ fails => exact (passes_of_fails fails passes).elim
    | kept _ _ _ _ _ _ _ _ joined => exact (longer idle joined).elim
    | closed => rfl

/-! ## Getting to a verdict -/

variable {pool : Pool σ} {w : WrapperId} {wrapper : Wrapper} {conn : ConnId}

/-- What a check of the wrapper `w`, which holds the connection `conn`, comes to, and what the
driver is asked in it. -/
inductive Examined (w : WrapperId) (conn : ConnId) (pool : Pool σ) :
    Except Rejection Unit → Pool σ → Prop
  | passed {examined : List Entry} {env : Environment σ}
      (examines : ∀ entry ∈ examined, entry.Examines conn)
      (hears : pool.env.Hears examined env) (talks : pool.env.Talks env) :
      Examined w conn pool (.ok ()) { pool with env := env }
  | failed {examined : List Entry} {answer : Except ConnectionError Unit} {env : Environment σ}
      (rejection : Rejection) (examines : ∀ entry ∈ examined, entry.Examines conn)
      (hears : pool.env.Hears (.call .pool conn .close answer :: examined) env)
      (shuts : pool.env.Shuts conn env) :
      Examined w conn pool (.error rejection) (pool.spend w env)

theorem Holds.examined (holds : pool.Holds w wrapper conn) (policy : Policy) :
    Examined w conn pool (pool.check policy w).1 (pool.check policy w).2 := by
  have talks := Exchange.checkAlive_talks (pool.realId w) (pool.pingQuery policy w) conn pool.env
  have asks : Exchange.Within (fun entry => entry.isRequest = true → entry.Examines conn)
      (Exchange.checkAlive (pool.realId w) (pool.pingQuery policy w) conn : Exchange σ Unit) :=
    Exchange.within_checkAlive (fun event request => by cases request)
      fun _ goesOn result _ => .ask goesOn result
  obtain ⟨examined, hears, all⟩ := (asks pool.env).hears
  have examines : ∀ entry ∈ examined, entry.Examines conn :=
    fun entry listed => (all entry listed).1 (all entry listed).2
  unfold check
  dsimp only
  rw [holds.withConnection]
  cases run : (Exchange.checkAlive (pool.realId w) (pool.pingQuery policy w) conn).perform
      pool.env with
  | mk outcome env =>
    rw [run] at talks hears
    cases outcome with
    | ok _ => exact .passed examines hears talks
    | error cause =>
      dsimp only
      rw [(holds.talk env).dispose]
      have closes := Exchange.hears_orComplain (Exchange.hears_ask conn .close env)
        (.badCloseFailed (pool.realId w))
      have shuts := (Exchange.ends_close conn).orComplain (.badCloseFailed (pool.realId w)) env
      exact .failed _ examines ((hears.trans closes).event _)
        (.of_talks talks (shuts.talks (Environment.talks_note _ _)))

/-- What becomes of a good connection that is put away, and what the driver is asked then. -/
inductive Stores (policy : Policy) (w : WrapperId) (conn : ConnId) (pool : Pool σ) :
    Pool σ → Prop
  | kept {old : Wrapper} {undone : List Entry} {env : Environment σ}
      (reusable : pool.isReusable policy w = true) (holds : pool.Holds w old conn)
      (undoes : Undoes conn (.ok ()) undone) (hears : pool.env.Hears undone env)
      (talks : pool.env.Talks env) :
      Stores policy w conn pool
        { pool.renew w old conn with
          idle := pool.idle ++ [pool.wrappers.size]
          env := env }
  | closed {before undone : List Entry} {result answer : Except ConnectionError Unit}
      {env : Environment σ}
      (reason : pool.isReusable policy w = false ∧ before = [] ∨
        pool.isReusable policy w = true ∧ ∃ error, Undoes conn (.error error) before)
      (undoes : Undoes conn result undone)
      (hears : pool.env.Hears (.call .pool conn .close answer :: undone ++ before) env)
      (shuts : pool.env.Shuts conn env) :
      Stores policy w conn pool (pool.spend w env)

/-- To retire a connection is to shut it down. -/
theorem Holds.exists_retire (holds : pool.Holds w wrapper conn) :
    ∃ (result : Except ConnectionError Unit) (undone : List Entry)
      (answer : Except ConnectionError Unit) (env : Environment σ),
      Undoes conn result undone ∧
      pool.env.Hears (.call .pool conn .close answer :: undone) env ∧
      pool.env.Shuts conn env ∧ pool.retire w = pool.spend w env := by
  obtain ⟨result, undone, answer, undoes, hears⟩ :=
    Exchange.exists_hears_shutDown conn pool.env
  have shuts := (Exchange.ends_shutDown conn).orComplain
    (.returnCloseFailed (pool.realId w)) pool.env
  have asked := Exchange.hears_orComplain hears (.returnCloseFailed (pool.realId w))
  refine ⟨result, undone, answer, _, undoes, asked.event _,
    shuts.talks (Environment.talks_note (.returnClosed (pool.realId w)) _), ?_⟩
  unfold Pool.retire
  dsimp only
  rw [holds.dispose]
  rfl

theorem Holds.stores (holds : pool.Holds w wrapper conn) (policy : Policy) :
    Stores policy w conn pool (pool.putAway policy w) := by
  unfold Pool.putAway
  by_cases reusable : pool.isReusable policy w = true
  · rw [if_pos reusable, holds.withConnection]
    have talks := Exchange.rollbackIfNeeded_talks conn pool.env
    obtain ⟨asked, undoes, hears⟩ := Exchange.exists_undoes conn pool.env
    cases run : (Exchange.rollbackIfNeeded conn).perform pool.env with
    | mk outcome env =>
      rw [run] at talks undoes hears
      cases outcome with
      | ok _ =>
        have moved := (holds.talk env).rewrap
        dsimp only
        unfold Pool.makeIdle
        dsimp only
        rw [moved]
        exact .kept reusable holds undoes (hears.event _)
          (talks.trans (Environment.talks_note _ env))
      | error error =>
        have said := Environment.talks_note (.returnRollbackFailed (pool.realId w) error) env
        have noted := holds.talk (env.write (.event (.returnRollbackFailed (pool.realId w) error)))
        obtain ⟨result, undone, answer, after, again, closes, shuts, retired⟩ :=
          noted.exists_retire
        have closed : Stores policy w conn pool (pool.spend w after) :=
          .closed (.inr ⟨reusable, error, undoes⟩) again ((hears.event _).trans closes)
            (.of_talks (talks.trans said) shuts)
        exact retired.symm.subst (motive := Stores policy w conn pool) closed
  · rw [if_neg reusable]
    obtain ⟨result, undone, answer, env, undoes, hears, shuts, retired⟩ := holds.exists_retire
    have asked : pool.env.Hears (.call .pool conn .close answer :: undone ++ []) env := by
      rw [List.append_nil]
      exact hears
    rw [retired]
    exact .closed (.inl ⟨Bool.eq_false_iff.2 reusable, rfl⟩) undoes asked shuts

omit [Driver σ] in
theorem isReusable_iff {settings : Settings}
    (expected : pool.expected = settings.source.fingerprint) :
    pool.isReusable settings.policy w = true ↔ pool.Welcomes settings w := by
  unfold isReusable
  rw [Bool.and_eq_true, decide_eq_true_eq, beq_iff_eq, expected]
  exact ⟨fun both => ⟨both.1, both.2⟩, fun welcomes => ⟨welcomes.room, welcomes.code⟩⟩

/-- A good connection that is put away, after its checkout has ended, is kept or closed. -/
theorem Stores.exists_decides {settings : Settings} {active : List WrapperId}
    {env : Environment σ} {counters : Counters} {examined : List Entry} {after : Pool σ}
    (stores : Stores settings.policy w conn
      { pool with active := active, env := env, counters := counters } after)
    (holds : pool.Holds w wrapper conn) (passes : (pool.check settings.policy w).1 = .ok ())
    (examines : ∀ entry ∈ examined, entry.Examines conn)
    (hears : pool.env.Hears examined env) (talks : pool.env.Talks env)
    (counted : counters = pool.afterStay settings.policy w)
    (expected : pool.expected = settings.source.fingerprint) :
    ∃ verdict, Decides settings w pool after verdict := by
  have exist := lt_size_of_isValid holds.isValid
  have welcomes := isReusable_iff (w := w) expected
  cases stores with
  | @kept old undone later reusable held undoes asked spoke =>
    obtain rfl : wrapper = old := Option.some.inj (holds.found.symm.trans held.found)
    refine ⟨_, .kept holds passes examines (welcomes.1 reusable) undoes (hears.trans asked)
      (talks.trans spoke) ?_ rfl ?_ counted⟩
    · refine (slot_renew _ w w wrapper conn).trans ?_
      rw [if_neg (Nat.ne_of_lt exist), slot_spend, if_pos rfl]
    · exact (wrappers_renew _ w _ wrapper conn).trans (if_pos rfl)
  | @closed before undone result answer later reason undoes asked shuts =>
    have why : ¬ pool.Welcomes settings w ∧ before = [] ∨
        pool.Welcomes settings w ∧ ∃ error, Undoes conn (.error error) before := by
      rw [← welcomes, Bool.not_eq_true]
      exact reason
    refine ⟨_, .closed holds passes examines why undoes (hears.trans asked)
      (.of_talks talks shuts) ?_ rfl counted⟩
    exact (slot_spend _ w w later).trans (if_pos rfl)

/-- Whatever is given back and whatever the driver answers, the pool gets to a verdict. -/
theorem Owns.exists_decides (owns : pool.Owns []) {settings : Settings}
    (expected : pool.expected = settings.source.fingerprint) (w : WrapperId) :
    ∃ verdict, Decides settings w pool (pool.release settings.policy w) verdict := by
  cases valid : pool.isValid w with
  | false =>
    rcases owns.release_cases settings.policy w with ⟨-, refused⟩ | ⟨other, -⟩
    · rw [refused]
      exact ⟨_, .refused valid (Environment.hears_event _ pool.env) rfl rfl rfl rfl⟩
    · rw [valid] at other
      cases other
  | true =>
    obtain ⟨wrapper, conn, holds⟩ := owns.exists_holds valid
    have stillValid : Pool.isValid { pool with active := pool.active.erase w } w = true := valid
    have checks := holds.examined settings.policy
    unfold Pool.release
    dsimp only
    rw [if_pos stillValid, check_relist settings.policy w (pool.active.erase w) pool]
    cases run : pool.check settings.policy w with
    | mk outcome checked =>
      rw [run] at checks
      have first : (pool.check settings.policy w).1 = outcome := congrArg Prod.fst run
      cases checks with
      | @failed _ _ env rejection examines hears shuts =>
        refine ⟨_, .bad holds first examines (hears.event _)
          (shuts.talks (Environment.talks_note _ _)) ?_ rfl rfl⟩
        exact (pool.slot_spend w w env).trans (if_pos rfl)
      | @passed examined env examines hears talks =>
        have ended : Holds
            { pool with
              active := pool.active.erase w
              env := env
              counters := pool.afterStay settings.policy w } w wrapper conn :=
          ⟨holds.found, holds.valid, holds.held⟩
        have stored := (ended.stores settings.policy).exists_decides holds first examines hears
          talks rfl expected
        rw [afterStay, run] at stored
        exact stored

end Pool

namespace World

variable [Driver σ] {step : Step σ} {world : World σ} {h : HandleId} {w : WrapperId}

/-- The step in which a handle is given back leaves the pool that has taken its connection
back, unless nobody can reach that pool any more. -/
theorem pool_take_of_returns (returns : step.returns = some h)
    (out : world.checkout h = some w) :
    (world.take step).pool = world.pool.release world.settings.policy w ∨
      ((world.take step).isAbandoned = true ∧ (world.take step).pool =
        (world.pool.release world.settings.policy w).forceCloseAll world.settings.source) := by
  unfold Step.returns at returns
  split at returns
  · cases returns
    exact .inl (giveBack_of_checkout out .closed)
  · cases returns
    have ended := (world.giveBack h .dropped).2.tearDown_pool
    have settings : (world.giveBack h .dropped).2.settings = world.settings := by
      obtain ⟨handle, found, held, -⟩ := checkout_eq_some.1 out
      unfold World.giveBack
      rw [found]
      dsimp only
      rw [if_pos held]
    rwa [giveBack_of_checkout out, settings] at ended
  · cases returns

/-- How the pool takes back the connection of the handle `h`, which has the wrapper `w`, in the
step `step`. -/
structure TakesBack (step : Step σ) (world : World σ) (h : HandleId) (w : WrapperId) : Prop where
  /-- Closing the handle succeeds, whatever the driver answers. -/
  answer : (world.request h .close).1 = .ok ()
  /-- The wrapper leaves the checkouts, and all others keep their places. -/
  active : (world.pool.release world.settings.policy w).active = world.pool.active.erase w
  gone : w ∉ (world.pool.release world.settings.policy w).active
  /-- There is exactly one verdict. -/
  decided : ∃! verdict, world.pool.Decides world.settings w
    (world.pool.release world.settings.policy w) verdict
  /-- This is the pool that the step leaves, unless nobody can reach it any more: then all
  connections are closed that are left. -/
  after : (world.take step).pool = world.pool.release world.settings.policy w ∨
    ((world.take step).isAbandoned = true ∧ (world.take step).pool =
      (world.pool.release world.settings.policy w).forceCloseAll world.settings.source)

/-- Whenever a handle is given back that was not given back before, the pool takes back its
connection in this way. -/
theorem takesBack_of_reachable {settings : Settings} {driver : σ}
    (reachable : Reachable settings driver world) (returns : step.returns = some h)
    (out : world.checkout h = some w) : TakesBack step world h w := by
  have orderly := reachable.sound.toOrderly
  have busy := orderly.busy_of_checkout out
  have releases := (orderly.owns.release world.settings.policy busy).2
  constructor
  case answer => rfl
  case active => exact releases.active
  case gone =>
    rw [releases.active]
    exact orderly.owns.nodup.of_append_left.of_append_right.not_mem_erase
  case decided =>
    obtain ⟨verdict, decides⟩ := orderly.owns.exists_decides reachable.tended.expected w
    exact ⟨verdict, decides, fun other again => again.unique decides⟩
  case after => exact pool_take_of_returns returns out

/-- When the third caller of the example has claimed the connection of the first one, the
handle of the first is refused, and the connection of the second is kept. -/
theorem takesBack_claimed : ∃ world : World Simulation.State,
    (World.start tightSettings {}).follow (claimSteps.take 6) = some world ∧
    world.checkout 0 = some 0 ∧ world.checkout 1 = some 1 ∧
    (world.pool.release world.settings.policy 0).idle = [] ∧
    (world.pool.release world.settings.policy 0).counters.badConnections = 1 ∧
    (world.pool.release world.settings.policy 1).idle = [3] ∧
    (world.pool.release world.settings.policy 1).counters.badConnections = 0 ∧
    TakesBack (.act (.request 0 .close)) world 0 0 ∧
    TakesBack (.act (.drop 1)) world 1 1 := by
  have run : ((World.start tightSettings ({} : Simulation.State)).follow
      (claimSteps.take 6)).map (fun world =>
        (world.checkout 0, world.checkout 1, (world.pool.release world.settings.policy 0).idle,
          (world.pool.release world.settings.policy 0).counters.badConnections,
          (world.pool.release world.settings.policy 1).idle,
          (world.pool.release world.settings.policy 1).counters.badConnections)) =
      some (some 0, some 1, [], 1, [3], 0) := by decide +kernel
  obtain ⟨world, found, seen⟩ := Option.map_eq_some_iff.1 run
  simp only [Prod.mk.injEq] at seen
  obtain ⟨first, second, refused, bad, kept, good⟩ := seen
  have reachable := Reachable.start.follow found
  exact ⟨world, found, first, second, refused, bad, kept, good,
    takesBack_of_reachable reachable rfl first, takesBack_of_reachable reachable rfl second⟩

end World

end ConnectionPooling
