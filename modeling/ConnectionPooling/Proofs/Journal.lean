/-
# What exchanges leave in the journal

The journal is only ever added to, and it is the one place where every request to
the driver can be found again. This module counts in it: which connections were
opened, how often the pool closed each of them, and how often a connection was
asked for.

Most exchanges neither open a connection nor close one for the pool; they only
talk. `Grows` says what such an exchange may write, `Shuts` that the pool closed
exactly one connection exactly once, and `Opens` that a new one was made. What a
driver answers is left open throughout.

`Accounts` is the balance of the journal: a connection that was opened is held and
not closed, or closed once. Each of the relations above moves it in one way.
-/

import ConnectionPooling.Pool.Return

namespace ConnectionPooling

namespace Entry

/-- The entry says that the given connection was opened. -/
def opens (conn : ConnId) : Entry → Bool
  | .connect _ (.ok opened) => opened == conn
  | _ => false

/-- The entry is a close of the given connection that the pool asked for. A close
by the holder of a connection does not count. -/
def closes (conn : ConnId) : Entry → Bool
  | .call .pool closed .close _ => closed == conn
  | _ => false

/-- The entry is a try to open a connection, successful or not. -/
def connects : Entry → Bool
  | .connect .. => true
  | _ => false

/-- The entry neither opens a connection nor closes one for the pool. -/
structure IsTalk (entry : Entry) : Prop where
  opens : ∀ conn, entry.opens conn = false
  closes : ∀ conn, entry.closes conn = false
  connects : entry.connects = false

theorem isTalk_event (event : Event) : IsTalk (.event event) :=
  ⟨fun _ => rfl, fun _ => rfl, rfl⟩

/-- The holder of a connection may ask anything of it, closing included. -/
theorem isTalk_holder (conn : ConnId) (request : Request)
    (result : Except ConnectionError request.Reply) :
    IsTalk (.call .holder conn request result) :=
  ⟨fun _ => rfl, fun _ => rfl, rfl⟩

/-- The pool may ask anything of a connection except to close. -/
theorem isTalk_pool (conn : ConnId) {request : Request} (h : request ≠ .close)
    (result : Except ConnectionError request.Reply) :
    IsTalk (.call .pool conn request result) := by
  refine ⟨fun _ => rfl, fun other => ?_, rfl⟩
  cases request <;> first | rfl | exact absurd rfl h

end Entry

variable {σ α β : Type}

namespace Environment

/-- Whether the driver ever opened a connection under the given number. -/
def hasOpened (env : Environment σ) (conn : ConnId) : Bool :=
  env.journal.any fun record => record.entry.opens conn

/-- How often the pool asked to close a connection. -/
def closes (env : Environment σ) (conn : ConnId) : Nat :=
  env.journal.countP fun record => record.entry.closes conn

/-- How often a connection was asked for. -/
def connects (env : Environment σ) : Nat :=
  env.journal.countP fun record => record.entry.connects

/-- From `before` to `after` no connection was opened, the clock did not run
backwards, and every entry that was added to the journal satisfies `P`. -/
structure Grows (P : Entry → Prop) (before after : Environment σ) : Prop where
  opened : after.opened = before.opened
  clock : before.clock ≤ after.clock
  journal : ∃ added, after.journal = added ++ before.journal ∧
    ∀ record ∈ added, P record.entry

theorem Grows.refl (P : Entry → Prop) (env : Environment σ) : env.Grows P env :=
  ⟨rfl, Nat.le_refl _, [], rfl, by simp⟩

theorem Grows.trans {P : Entry → Prop} {before mid after : Environment σ}
    (first : before.Grows P mid) (second : mid.Grows P after) : before.Grows P after := by
  obtain ⟨early, hearly, allEarly⟩ := first.journal
  obtain ⟨late, hlate, allLate⟩ := second.journal
  refine ⟨second.opened.trans first.opened, Nat.le_trans first.clock second.clock,
    late ++ early, by rw [hlate, hearly, List.append_assoc], ?_⟩
  intro record hrecord
  rcases List.mem_append.1 hrecord with h | h
  · exact allLate record h
  · exact allEarly record h

/-- An entry that satisfies `P` may be written. -/
theorem grows_write {P : Entry → Prop} {entry : Entry} (h : P entry) (env : Environment σ) :
    env.Grows P (env.write entry) :=
  ⟨rfl, Nat.le_refl _, [⟨env.clock, entry⟩], rfl, by simpa using h⟩

/-- From `before` to `after` there was talk only. -/
abbrev Talks (before after : Environment σ) : Prop :=
  before.Grows Entry.IsTalk after

theorem Talks.closes {before after : Environment σ} (talks : before.Talks after)
    (conn : ConnId) : after.closes conn = before.closes conn := by
  obtain ⟨added, hadded, all⟩ := talks.journal
  have none : added.countP (fun record => record.entry.closes conn) = 0 :=
    List.countP_eq_zero.2 fun record hr => by simp [(all record hr).closes conn]
  simp only [Environment.closes, hadded, List.countP_append, none, Nat.zero_add]

theorem Talks.connects {before after : Environment σ} (talks : before.Talks after) :
    after.connects = before.connects := by
  obtain ⟨added, hadded, all⟩ := talks.journal
  have none : added.countP (fun record => record.entry.connects) = 0 :=
    List.countP_eq_zero.2 fun record hr => by simp [(all record hr).connects]
  simp only [Environment.connects, hadded, List.countP_append, none, Nat.zero_add]

theorem Talks.hasOpened {before after : Environment σ} (talks : before.Talks after)
    (conn : ConnId) : after.hasOpened conn = before.hasOpened conn := by
  obtain ⟨added, hadded, all⟩ := talks.journal
  have none : added.any (fun record => record.entry.opens conn) = false :=
    List.any_eq_false.2 fun record hr => by simp [(all record hr).opens conn]
  simp only [Environment.hasOpened, hadded, List.any_append, none, Bool.false_or]

theorem talks_note (event : Event) (env : Environment σ) :
    env.Talks (env.write (.event event)) :=
  grows_write (Entry.isTalk_event event) env

/-- Time may pass. -/
theorem talks_elapse (target : Instant) (env : Environment σ) :
    env.Talks { env with clock := max env.clock target } :=
  ⟨rfl, Nat.le_max_left _ _, [], rfl, by simp⟩

/-- The driver may change from outside. -/
theorem talks_disturb (driver : σ) (env : Environment σ) :
    env.Talks { env with driver := driver } :=
  ⟨rfl, Nat.le_refl _, [], rfl, by simp⟩

/-- From `before` to `after` the pool closed the connection `conn` once. Beyond
that there was talk only. -/
structure Shuts (conn : ConnId) (before after : Environment σ) : Prop where
  opened : after.opened = before.opened
  clock : before.clock ≤ after.clock
  hasOpened : ∀ other, after.hasOpened other = before.hasOpened other
  connects : after.connects = before.connects
  closes : ∀ other,
    after.closes other = before.closes other + if other = conn then 1 else 0

theorem Shuts.of_talks {conn : ConnId} {before mid after : Environment σ}
    (talks : before.Talks mid) (shuts : mid.Shuts conn after) : before.Shuts conn after where
  opened := shuts.opened.trans talks.opened
  clock := Nat.le_trans talks.clock shuts.clock
  hasOpened other := (shuts.hasOpened other).trans (talks.hasOpened other)
  connects := shuts.connects.trans talks.connects
  closes other := by rw [shuts.closes, talks.closes]

theorem Shuts.talks {conn : ConnId} {before mid after : Environment σ}
    (shuts : before.Shuts conn mid) (talks : mid.Talks after) : before.Shuts conn after where
  opened := talks.opened.trans shuts.opened
  clock := Nat.le_trans shuts.clock talks.clock
  hasOpened other := (talks.hasOpened other).trans (shuts.hasOpened other)
  connects := talks.connects.trans shuts.connects
  closes other := by rw [talks.closes, shuts.closes]

/-- From `before` to `after` one connection was opened, under the next number,
and the pool closed none. -/
structure Opens (before after : Environment σ) : Prop where
  opened : after.opened = before.opened + 1
  clock : before.clock ≤ after.clock
  hasOpened : ∀ conn,
    after.hasOpened conn = (before.hasOpened conn || before.opened == conn)
  connects : after.connects = before.connects + 1
  closes : ∀ conn, after.closes conn = before.closes conn

theorem Opens.talks {before mid after : Environment σ} (opens : before.Opens mid)
    (talks : mid.Talks after) : before.Opens after where
  opened := talks.opened.trans opens.opened
  clock := Nat.le_trans opens.clock talks.clock
  hasOpened conn := (talks.hasOpened conn).trans (opens.hasOpened conn)
  connects := talks.connects.trans opens.connects
  closes conn := (talks.closes conn).trans (opens.closes conn)

/-- From `before` to `after` opening a connection failed. Either the driver made
none, or it made one that could not be configured and the pool closed that one
again, once. -/
structure Refuses (before after : Environment σ) : Prop where
  clock : before.clock ≤ after.clock
  connects : after.connects = before.connects + 1
  outcome :
    (after.opened = before.opened ∧
      (∀ conn, after.hasOpened conn = before.hasOpened conn) ∧
      ∀ conn, after.closes conn = before.closes conn) ∨
    ∃ mid, before.Opens mid ∧ mid.Shuts before.opened after

/-! ## The journal's account of every connection -/

/-- The journal agrees with which connections are held: these were opened and not
closed, and every other connection that was opened was closed once. -/
structure Accounts (held : ConnId → Prop) (env : Environment σ) : Prop where
  /-- Every connection that is held was opened. -/
  held_lt : ∀ {conn}, held conn → conn < env.opened
  /-- The journal knows the connections that were opened. -/
  hasOpened_iff : ∀ conn, env.hasOpened conn = true ↔ conn < env.opened
  /-- A connection that is held was not closed. -/
  closes_held : ∀ {conn}, held conn → env.closes conn = 0
  /-- A connection that was opened and is not held was closed once. -/
  closes_lost : ∀ {conn}, conn < env.opened → ¬ held conn → env.closes conn = 1
  /-- A connection that was not opened was not closed. -/
  closes_unopened : ∀ {conn}, env.opened ≤ conn → env.closes conn = 0

namespace Accounts

variable {held held' : ConnId → Prop} {before after : Environment σ}

theorem congr (accounts : before.Accounts held) (h : ∀ conn, held' conn ↔ held conn) :
    before.Accounts held' := by
  have same : held' = held := funext fun conn => propext (h conn)
  rwa [same]

/-- What opens and closes nothing leaves the account as it is. -/
theorem frame (accounts : before.Accounts held) (opened : after.opened = before.opened)
    (hasOpened : ∀ conn, after.hasOpened conn = before.hasOpened conn)
    (closes : ∀ conn, after.closes conn = before.closes conn) : after.Accounts held where
  held_lt h := by rw [opened]; exact accounts.held_lt h
  hasOpened_iff conn := by rw [hasOpened, opened]; exact accounts.hasOpened_iff conn
  closes_held h := by rw [closes]; exact accounts.closes_held h
  closes_lost h lost := by rw [closes]; exact accounts.closes_lost (opened ▸ h) lost
  closes_unopened h := by rw [closes]; exact accounts.closes_unopened (opened ▸ h)

theorem talk (accounts : before.Accounts held) (talks : before.Talks after) :
    after.Accounts held :=
  accounts.frame talks.opened talks.hasOpened talks.closes

/-- A connection that was opened is held. -/
theorem opens (accounts : before.Accounts held) (opens : before.Opens after) :
    after.Accounts fun conn => held conn ∨ conn = before.opened where
  held_lt {conn} h := by
    rw [opens.opened]
    rcases h with h | rfl
    · exact Nat.lt_succ_of_lt (accounts.held_lt h)
    · exact Nat.lt_succ_self _
  hasOpened_iff conn := by
    rw [opens.hasOpened, opens.opened, Bool.or_eq_true, accounts.hasOpened_iff, beq_iff_eq]
    lia
  closes_held {conn} h := by
    rw [opens.closes]
    rcases h with h | rfl
    · exact accounts.closes_held h
    · exact accounts.closes_unopened (Nat.le_refl _)
  closes_lost {conn} h lost := by
    obtain ⟨free, old⟩ := not_or.1 lost
    rw [opens.opened] at h
    rw [opens.closes]
    exact accounts.closes_lost (by lia) free
  closes_unopened {conn} h := by
    rw [opens.opened] at h
    rw [opens.closes]
    exact accounts.closes_unopened (by lia)

/-- A connection that was held is closed and not held any more. -/
theorem shuts (accounts : before.Accounts held) {conn : ConnId} (isHeld : held conn)
    (shuts : before.Shuts conn after) :
    after.Accounts fun other => held other ∧ other ≠ conn where
  held_lt h := by rw [shuts.opened]; exact accounts.held_lt h.1
  hasOpened_iff other := by rw [shuts.hasOpened, shuts.opened]; exact accounts.hasOpened_iff other
  closes_held h := by rw [shuts.closes, if_neg h.2, accounts.closes_held h.1]
  closes_lost {other} h lost := by
    rw [shuts.closes]
    by_cases same : other = conn
    · rw [if_pos same, same, accounts.closes_held isHeld]
    · rw [if_neg same, accounts.closes_lost (shuts.opened ▸ h) fun held => lost ⟨held, same⟩]
  closes_unopened {other} h := by
    rw [shuts.opened] at h
    have different : other ≠ conn := by
      rintro rfl
      exact absurd (accounts.held_lt isHeld) (Nat.not_lt.2 h)
    rw [shuts.closes, if_neg different, accounts.closes_unopened h]

/-- A connection that was opened in vain was closed again, so that nobody holds it. -/
theorem refuses (accounts : before.Accounts held) (refuses : before.Refuses after) :
    after.Accounts held := by
  rcases refuses.outcome with ⟨opened, hasOpened, closes⟩ | ⟨mid, opens, shuts⟩
  · exact accounts.frame opened hasOpened closes
  · apply ((accounts.opens opens).shuts (.inr rfl) shuts).congr
    intro conn
    constructor
    · intro h
      exact ⟨.inl h, Nat.ne_of_lt (accounts.held_lt h)⟩
    · rintro ⟨h, different⟩
      exact h.resolve_right different

end Accounts

end Environment

namespace Exchange

/-! ## Performing a composed exchange -/

theorem perform_throw (error : ConnectionError) (env : Environment σ) :
    (throw error : Exchange σ α).perform env = (.error error, env) := rfl

theorem perform_note (event : Event) (env : Environment σ) :
    (note event).perform env = (.ok (), env.write (.event event)) := rfl

theorem perform_attempt (work : Exchange σ α) (env : Environment σ) :
    (attempt work).perform env = (.ok (work.perform env).1, (work.perform env).2) := rfl

/-- The second part of a composed exchange is performed where the first one ends,
and not at all if that failed. -/
theorem perform_bind (work : Exchange σ α) (next : α → Exchange σ β) (env : Environment σ) :
    (work >>= next).perform env =
      match work.perform env with
      | (.ok value, mid) => (next value).perform mid
      | (.error error, mid) => (.error error, mid) := by
  show ExceptT.bind work next env = _
  unfold ExceptT.bind ExceptT.bindCont ExceptT.mk perform
  simp only [bind, StateT.bind]
  rcases work env with ⟨outcome | value, mid⟩ <;> rfl

theorem perform_bind_ok {work : Exchange σ α} {next : α → Exchange σ β} {value : α}
    {env mid : Environment σ} (h : work.perform env = (.ok value, mid)) :
    (work >>= next).perform env = (next value).perform mid := by
  rw [perform_bind, h]

/-- Complaining is done instead of failing. -/
theorem exists_perform_orComplain (work : Exchange σ Unit)
    (complaint : ConnectionError → Event) (env : Environment σ) :
    ∃ after, (work.orComplain complaint).perform env = (.ok (), after) := by
  show ∃ after, (attempt work >>= _).perform env = (.ok (), after)
  rw [perform_bind_ok (perform_attempt work env)]
  cases (work.perform env).1 with
  | ok _ => exact ⟨_, rfl⟩
  | error error => exact ⟨_, rfl⟩

/-! ## Exchanges that only talk, and exchanges that close a connection -/

/-- Wherever the exchange is performed, it opens nothing and writes only entries
that satisfy `P`. -/
def Within (P : Entry → Prop) (work : Exchange σ α) : Prop :=
  ∀ env : Environment σ, env.Grows P (work.perform env).2

variable {P : Entry → Prop}

theorem within_pure (value : α) : Within P (pure value : Exchange σ α) :=
  fun env => .refl P env

theorem within_throw (error : ConnectionError) : Within P (throw error : Exchange σ α) :=
  fun env => .refl P env

theorem within_note {event : Event} (h : P (.event event)) :
    Within P (note event : Exchange σ Unit) :=
  fun env => Environment.grows_write h env

theorem Within.attempt {work : Exchange σ α} (h : Within P work) :
    Within P (attempt work) :=
  fun env => h env

theorem Within.bind {work : Exchange σ α} {next : α → Exchange σ β} (first : Within P work)
    (second : ∀ value, Within P (next value)) : Within P (work >>= next) := by
  intro env
  have start := first env
  rw [perform_bind]
  cases run : work.perform env with
  | mk outcome mid =>
    rw [run] at start
    cases outcome with
    | error error => exact start
    | ok value => exact start.trans (second value mid)

theorem Within.orComplain {work : Exchange σ Unit} {complaint : ConnectionError → Event}
    (h : Within P work) (complain : ∀ error, P (.event (complaint error))) :
    Within P (work.orComplain complaint) := by
  apply h.attempt.bind
  intro outcome
  cases outcome with
  | ok _ => exact within_pure ()
  | error error => exact within_note (complain error)

/-- Wherever the exchange is performed, the pool closes the connection once. -/
def Ends (conn : ConnId) (work : Exchange σ α) : Prop :=
  ∀ env : Environment σ, env.Shuts conn (work.perform env).2

theorem Ends.attempt {conn : ConnId} {work : Exchange σ α} (h : Ends conn work) :
    Ends conn (attempt work) :=
  fun env => h env

/-- What is said after a close does not close again. -/
theorem Ends.bind {conn : ConnId} {work : Exchange σ α} {next : α → Exchange σ β}
    (first : Ends conn work) (second : ∀ value, Within Entry.IsTalk (next value)) :
    Ends conn (work >>= next) := by
  intro env
  have start := first env
  rw [perform_bind]
  cases run : work.perform env with
  | mk outcome mid =>
    rw [run] at start
    cases outcome with
    | error error => exact start
    | ok value => exact start.talks (second value mid)

/-- What is said before a close must not stop the close from being made. -/
theorem Ends.of_talk {conn : ConnId} {work : Exchange σ α} {next : α → Exchange σ β}
    (first : Within Entry.IsTalk work) (succeeds : ∀ env, ∃ value mid,
      work.perform env = (.ok value, mid))
    (second : ∀ value, Ends conn (next value)) : Ends conn (work >>= next) := by
  intro env
  have start := first env
  obtain ⟨value, mid, h⟩ := succeeds env
  rw [h] at start
  rw [perform_bind_ok h]
  exact .of_talks start (second value mid)

theorem Ends.orComplain {conn : ConnId} {work : Exchange σ Unit} (h : Ends conn work)
    (complaint : ConnectionError → Event) : Ends conn (work.orComplain complaint) := by
  apply h.attempt.bind
  intro outcome
  cases outcome with
  | ok _ => exact within_pure ()
  | error error => exact within_note (Entry.isTalk_event _)

variable [Driver σ]

theorem within_call {party : Party} {conn : ConnId} {request : Request}
    (h : ∀ result, P (.call party conn request result)) :
    Within P (call party conn request : Exchange σ request.Reply) :=
  fun _ => ⟨rfl, Nat.le_add_right _ _, [_], rfl, by simpa using h _⟩

/-- Undoing a transaction asks for the auto-commit mode and may roll back. -/
theorem within_rollbackIfNeeded {conn : ConnId}
    (mode : ∀ result, P (.call .pool conn .autoCommit result))
    (back : ∀ result, P (.call .pool conn .rollback result)) :
    Within P (rollbackIfNeeded conn : Exchange σ Unit) := by
  apply (within_call mode).bind
  intro autoCommit
  cases autoCommit with
  | true => exact within_pure ()
  | false => exact within_call back

theorem rollbackIfNeeded_talks (conn : ConnId) (env : Environment σ) :
    env.Talks ((rollbackIfNeeded conn).perform env).2 :=
  within_rollbackIfNeeded (Entry.isTalk_pool conn (by decide))
    (Entry.isTalk_pool conn (by decide)) env

/-- A ping logs, probes, and may undo a transaction. -/
theorem within_ping {realId : Nat} {query : String} {conn : ConnId}
    (log : ∀ event, P (.event event))
    (probe : ∀ result, P (.call .pool conn (.probe query) result))
    (mode : ∀ result, P (.call .pool conn .autoCommit result))
    (back : ∀ result, P (.call .pool conn .rollback result)) :
    Within P (ping realId query conn : Exchange σ Unit) := by
  apply (within_note (log _)).bind
  intro _
  apply (within_call probe).attempt.bind
  intro outcome
  cases outcome with
  | error error => exact (within_note (log _)).bind fun _ => within_throw error
  | ok _ =>
    exact (within_rollbackIfNeeded mode back).bind fun _ => within_note (log _)

/-- A check asks for everything but the end of a connection. -/
theorem within_checkAlive {realId : Nat} {query : Option String} {conn : ConnId}
    (log : ∀ event, P (.event event))
    (say : ∀ request, request ≠ .close → ∀ result, P (.call .pool conn request result)) :
    Within P (checkAlive realId query conn : Exchange σ Unit) := by
  apply (within_call (say .isClosed (by decide))).bind
  intro isClosed
  cases isClosed with
  | true => exact within_throw _
  | false =>
    cases query with
    | none => exact within_pure ()
    | some query =>
      exact within_ping log (say _ (by simp)) (say _ (by decide)) (say _ (by decide))

theorem checkAlive_talks (realId : Nat) (query : Option String) (conn : ConnId)
    (env : Environment σ) : env.Talks ((checkAlive realId query conn).perform env).2 :=
  within_checkAlive Entry.isTalk_event (fun _ => Entry.isTalk_pool conn) env

theorem ends_close (conn : ConnId) : Ends conn (ask conn .close : Exchange σ Unit) := by
  intro env
  refine ⟨rfl, Nat.le_add_right _ _, fun _ => rfl, rfl, fun other => ?_⟩
  by_cases h : other = conn
  · subst h
    simp [Environment.closes, perform, ask, call, Environment.write, Entry.closes]
  · have h' : conn ≠ other := Ne.symm h
    simp [Environment.closes, perform, ask, call, Environment.write, Entry.closes, h, h']

/-- Shutting down closes once, whether or not the rollback before it fails. -/
theorem ends_shutDown (conn : ConnId) : Ends conn (shutDown conn : Exchange σ Unit) := by
  have undo : Within Entry.IsTalk (Exchange.attempt (rollbackIfNeeded conn) : Exchange σ _) :=
    fun env => rollbackIfNeeded_talks conn env
  apply Ends.of_talk undo fun env => ⟨_, _, perform_attempt _ env⟩
  intro rolledBack
  apply (ends_close conn).attempt.bind
  intro closed
  cases rolledBack with
  | error error => exact within_throw error
  | ok _ =>
    cases closed with
    | error error => exact within_throw error
    | ok _ => exact within_pure ()

end Exchange

namespace DataSource

open Exchange

variable [Driver σ]

/-- Configuring a connection only talks to it. -/
theorem within_configure {P : Entry → Prop} (source : DataSource) {conn : ConnId}
    (say : ∀ request, request ≠ .close → ∀ result, P (.call .pool conn request result)) :
    Within P (source.configure conn : Exchange σ Unit) := by
  have timeout : Within P (source.applyNetworkTimeout conn : Exchange σ Unit) := by
    unfold applyNetworkTimeout
    cases source.networkTimeout with
    | none => exact within_pure ()
    | some timeout => exact within_call (say _ (by simp))
  have mode : Within P (source.applyAutoCommit conn : Exchange σ Unit) := by
    unfold applyAutoCommit
    cases source.autoCommit with
    | none => exact within_pure ()
    | some wanted =>
      apply (within_call (say .autoCommit (by decide))).bind
      intro current
      by_cases same : current = wanted
      · rw [if_pos same]
        exact within_pure ()
      · rw [if_neg same]
        exact within_call (say _ (by simp))
  have level : Within P (source.applyIsolation conn : Exchange σ Unit) := by
    unfold applyIsolation
    cases source.isolation with
    | none => exact within_pure ()
    | some level => exact within_call (say _ (by simp))
  exact timeout.bind fun _ => mode.bind fun _ => level

/-- Asking the driver for a connection either makes the next one or none. -/
theorem perform_connect (request : ConnectRequest) (env : Environment σ) :
    (∃ after, (Exchange.connect request).perform env = (.ok env.opened, after) ∧
      env.Opens after) ∨
    ∃ error after, (Exchange.connect request).perform env = (.error error, after) ∧
      env.Refuses after := by
  unfold Exchange.connect perform
  dsimp only
  rcases (Driver.connect env.driver env.opened request).outcome with error | _
  · right
    refine ⟨error, _, rfl, Nat.le_add_right _ _, ?_, .inl ⟨rfl, fun conn => ?_, fun conn => ?_⟩⟩
    · simp [Environment.connects, Environment.write, Entry.connects]
    · simp [Environment.hasOpened, Environment.write, Entry.opens]
    · simp [Environment.closes, Environment.write, Entry.closes]
  · left
    refine ⟨_, rfl, rfl, Nat.le_add_right _ _, fun conn => ?_, ?_, fun conn => ?_⟩
    · simp [Environment.hasOpened, Environment.write, Entry.opens, Bool.or_comm]
    · simp [Environment.connects, Environment.write, Entry.connects]
    · simp [Environment.closes, Environment.write, Entry.closes]

/-- Opening is all or nothing: it yields the next connection, which the pool has
not closed, or it fails and leaves no connection open. -/
theorem connect_cases (source : DataSource) (who : Credentials) (env : Environment σ) :
    (∃ after, (source.connect who).perform env = (.ok env.opened, after) ∧ env.Opens after) ∨
    ∃ error after, (source.connect who).perform env = (.error error, after) ∧
      env.Refuses after := by
  unfold connect
  rw [perform_bind]
  rcases perform_connect ⟨source.url, who, source.properties⟩ env with
    ⟨mid, made, opens⟩ | ⟨error, after, failed, refuses⟩
  · rw [made]
    dsimp only
    rw [perform_bind, perform_attempt]
    have talks := source.within_configure (fun _ => Entry.isTalk_pool env.opened) mid
    cases configured : (source.configure env.opened).perform mid with
    | mk outcome ready =>
      rw [configured] at talks
      cases outcome with
      | ok _ => exact .inl ⟨ready, rfl, opens.talks talks⟩
      | error error =>
        right
        have opened := (opens.talks talks).talks
          (Environment.talks_note (.configureFailed source.url error) ready)
        have ends := (ends_close (σ := σ) env.opened).orComplain
          (.unconfiguredCloseFailed source.url)
          (ready.write (.event (.configureFailed source.url error)))
        obtain ⟨after, closed⟩ := exists_perform_orComplain
          (Exchange.ask env.opened .close) (.unconfiguredCloseFailed source.url)
          (ready.write (.event (.configureFailed source.url error)))
        rw [closed] at ends
        refine ⟨error, after, ?_, Nat.le_trans opened.clock ends.clock,
          ends.connects.trans opened.connects, .inr ⟨_, opened, ends⟩⟩
        dsimp only
        rw [perform_bind_ok (perform_note _ _), perform_bind_ok closed, perform_throw]
  · rw [failed]
    exact .inr ⟨error, after, rfl, refuses⟩

end DataSource

end ConnectionPooling
