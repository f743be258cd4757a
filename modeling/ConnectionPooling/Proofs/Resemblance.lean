/-
# Pools that differ in passwords only

Two pools are put side by side that work on drivers which answer alike and that differ in
passwords, and in the fingerprints made from them, at most. Whatever a pool does, it does in
both of them, and they go on to differ in nothing else: `Resembles` is kept by every
operation, and what an operation comes to is the same on both sides.

There is one place where a pool compares fingerprints, which is when it decides whether a
connection that is given back may be kept. There the two sides must come to the same, and
that is an assumption. Nothing is said about time that a comparison may take.
-/

import ConnectionPooling.Proofs.Ledger

namespace ConnectionPooling

/-! ## Leaving out passwords -/

/-- Credentials without the password. -/
def Credentials.redacted (who : Credentials) : Credentials :=
  { who with password := none }

/-- What is needed to open a connection, but for the password. -/
def ConnectRequest.redacted (request : ConnectRequest) : ConnectRequest :=
  { request with who := request.who.redacted }

/-- An entry of the journal without the password. Only a try to open a connection has
one. -/
def Entry.redacted : Entry → Entry
  | .connect request result => .connect request.redacted result
  | entry => entry

/-- A record of the journal without the password. -/
def Record.redacted (record : Record) : Record :=
  { record with entry := record.entry.redacted }

variable {σ α β : Type}

/-! ## Drivers and exchanges -/

/-- Two answers are the same but for the states that they leave. -/
structure Answer.Resembles (R : σ → σ → Prop) (first second : Answer σ α) : Prop where
  outcome : second.outcome = first.outcome
  elapsed : second.elapsed = first.elapsed
  next : R first.next second.next

/-- A driver answers alike in states that are related, whatever the password is. -/
structure Blind [Driver σ] (R : σ → σ → Prop) : Prop where
  connect : ∀ {s t : σ}, R s t → ∀ (conn : ConnId) {first second : ConnectRequest},
    second.redacted = first.redacted →
    (Driver.connect s conn first).Resembles R (Driver.connect t conn second)
  call : ∀ {s t : σ}, R s t → ∀ (conn : ConnId) (request : Request),
    (Driver.call s conn request).Resembles R (Driver.call t conn request)

/-- Two surroundings differ in the passwords in their journals at most, and their drivers
are in related states. -/
structure Environment.Resembles (R : σ → σ → Prop) (first second : Environment σ) : Prop where
  clock : second.clock = first.clock
  driver : R first.driver second.driver
  opened : second.opened = first.opened
  journal : second.journal.map Record.redacted = first.journal.map Record.redacted

variable {R : σ → σ → Prop}

theorem Environment.Resembles.write {first second : Environment σ}
    (same : first.Resembles R second) {entry other : Entry}
    (alike : other.redacted = entry.redacted) :
    (first.write entry).Resembles R (second.write other) where
  clock := same.clock
  driver := same.driver
  opened := same.opened
  journal := by
    unfold Environment.write Record.redacted
    rw [List.map_cons, List.map_cons, alike, same.clock]
    exact congrArg (_ :: ·) same.journal

namespace Exchange

/-- From surroundings that resemble each other, two exchanges come to the same and leave
surroundings that resemble each other. -/
def Resembles (R : σ → σ → Prop) (first second : Exchange σ α) : Prop :=
  ∀ env other : Environment σ, env.Resembles R other →
    (second.perform other).1 = (first.perform env).1 ∧
      (first.perform env).2.Resembles R (second.perform other).2

/-- An exchange in which passwords play no part. -/
abbrev Discreet (R : σ → σ → Prop) (work : Exchange σ α) : Prop :=
  Resembles R work work

theorem discreet_pure (value : α) : Discreet R (pure value : Exchange σ α) :=
  fun _ _ same => ⟨rfl, same⟩

theorem discreet_throw (error : ConnectionError) : Discreet R (throw error : Exchange σ α) :=
  fun _ _ same => ⟨rfl, same⟩

theorem discreet_note (event : Event) : Discreet R (note event : Exchange σ Unit) :=
  fun _ _ same => ⟨rfl, same.write rfl⟩

theorem Resembles.attempt {first second : Exchange σ α} (alike : Resembles R first second) :
    Resembles R (attempt first) (attempt second) := by
  intro env other same
  obtain ⟨result, after⟩ := alike env other same
  exact ⟨congrArg Except.ok result, after⟩

theorem Resembles.bind {first second : Exchange σ α} {next again : α → Exchange σ β}
    (alike : Resembles R first second) (rest : ∀ value, Resembles R (next value) (again value)) :
    Resembles R (first >>= next) (second >>= again) := by
  intro env other same
  obtain ⟨result, after⟩ := alike env other same
  rw [perform_bind, perform_bind]
  cases run : first.perform env with
  | mk outcome mid =>
    cases twin : second.perform other with
    | mk outcome' mid' =>
      rw [run, twin] at result after
      obtain rfl : outcome' = outcome := result
      cases outcome' with
      | error error => exact ⟨rfl, after⟩
      | ok value => exact rest value mid mid' after

theorem Resembles.orComplain {first second : Exchange σ Unit} (alike : Resembles R first second)
    (complaint : ConnectionError → Event) :
    Resembles R (first.orComplain complaint) (second.orComplain complaint) := by
  apply alike.attempt.bind
  intro outcome
  cases outcome with
  | ok _ => exact discreet_pure ()
  | error error => exact discreet_note _

section

variable [Driver σ] (blind : Blind R)

include blind

theorem resembles_connect {first second : ConnectRequest}
    (alike : second.redacted = first.redacted) :
    Resembles R (connect first) (connect second) := by
  intro env other same
  obtain ⟨outcome, elapsed, next⟩ := blind.connect same.driver env.opened alike
  unfold perform connect
  rw [same.opened]
  dsimp only
  rw [outcome, elapsed, same.clock]
  have answered : Environment.Resembles R
      { env with
        clock := env.clock + (Driver.connect env.driver env.opened first).elapsed
        driver := (Driver.connect env.driver env.opened first).next }
      { other with
        clock := env.clock + (Driver.connect env.driver env.opened first).elapsed
        driver := (Driver.connect other.driver env.opened second).next
        opened := env.opened } :=
    ⟨rfl, next, rfl, same.journal⟩
  have written (result : Except ConnectionError ConnId) :
      Entry.redacted (.connect second result) = Entry.redacted (.connect first result) :=
    congrArg (Entry.connect · result) alike
  cases (Driver.connect env.driver env.opened first).outcome with
  | ok _ =>
    have opened := answered.write (written (.ok env.opened))
    exact ⟨rfl, opened.clock, opened.driver, rfl, opened.journal⟩
  | error error => exact ⟨rfl, answered.write (written (.error error))⟩

theorem discreet_call (party : Party) (conn : ConnId) (request : Request) :
    Discreet R (call party conn request : Exchange σ request.Reply) := by
  intro env other same
  obtain ⟨outcome, elapsed, next⟩ := blind.call same.driver conn request
  unfold perform call
  dsimp only
  rw [outcome, elapsed, same.clock]
  refine ⟨rfl, Environment.Resembles.write ?_ rfl⟩
  exact ⟨rfl, next, same.opened, same.journal⟩

theorem discreet_rollbackIfNeeded (conn : ConnId) :
    Discreet R (rollbackIfNeeded conn : Exchange σ Unit) := by
  apply (discreet_call blind .pool conn .autoCommit).bind
  intro autoCommit
  cases autoCommit with
  | true => exact discreet_pure ()
  | false => exact discreet_call blind .pool conn .rollback

theorem discreet_shutDown (conn : ConnId) : Discreet R (shutDown conn : Exchange σ Unit) := by
  apply (discreet_rollbackIfNeeded blind conn).attempt.bind
  intro rolledBack
  apply (discreet_call blind .pool conn .close).attempt.bind
  intro closed
  cases rolledBack with
  | error error => exact discreet_throw error
  | ok _ =>
    cases closed with
    | error error => exact discreet_throw error
    | ok _ => exact discreet_pure ()

theorem discreet_ping (realId : Nat) (query : String) (conn : ConnId) :
    Discreet R (ping realId query conn : Exchange σ Unit) := by
  apply (discreet_note _).bind
  intro _
  apply (discreet_call blind .pool conn (.probe query)).attempt.bind
  intro outcome
  cases outcome with
  | error error => exact (discreet_note _).bind fun _ => discreet_throw error
  | ok _ => exact (discreet_rollbackIfNeeded blind conn).bind fun _ => discreet_note _

theorem discreet_checkAlive (realId : Nat) (query : Option String) (conn : ConnId) :
    Discreet R (checkAlive realId query conn : Exchange σ Unit) := by
  apply (discreet_call blind .pool conn .isClosed).bind
  intro isClosed
  cases isClosed with
  | true => exact discreet_throw _
  | false =>
    cases query with
    | none => exact discreet_pure ()
    | some query => exact discreet_ping blind realId query conn

end

end Exchange

/-! ## Settings -/

/-- The same credentials but for the password. -/
def Credentials.Resembles (first second : Credentials) : Prop :=
  ∃ secret, second = { first with password := secret }

/-- The same data source but for the default password. -/
def DataSource.Resembles (first second : DataSource) : Prop :=
  ∃ secret, second = { first with who.password := secret }

/-- The same settings but for the default password. -/
def Settings.Resembles (first second : Settings) : Prop :=
  ∃ secret, second = { first with source.who.password := secret }

section

variable [Driver σ] (blind : Blind R)

include blind

open Exchange in
theorem DataSource.discreet_configure (source : DataSource) (conn : ConnId) :
    Discreet R (source.configure conn : Exchange σ Unit) := by
  have timeout : Discreet R (source.applyNetworkTimeout conn : Exchange σ Unit) := by
    unfold DataSource.applyNetworkTimeout
    cases source.networkTimeout with
    | none => exact discreet_pure ()
    | some timeout => exact discreet_call blind .pool conn _
  have autoCommit : Discreet R (source.applyAutoCommit conn : Exchange σ Unit) := by
    unfold DataSource.applyAutoCommit
    cases source.autoCommit with
    | none => exact discreet_pure ()
    | some wanted =>
      apply (discreet_call blind .pool conn .autoCommit).bind
      intro current
      split
      · exact discreet_pure ()
      · exact discreet_call blind .pool conn _
  have isolation : Discreet R (source.applyIsolation conn : Exchange σ Unit) := by
    unfold DataSource.applyIsolation
    cases source.isolation with
    | none => exact discreet_pure ()
    | some level => exact discreet_call blind .pool conn _
  exact timeout.bind fun _ => autoCommit.bind fun _ => isolation

open Exchange in
/-- Opening a connection goes the same way whatever the password is, and its error says
nothing about it. -/
theorem DataSource.resembles_connect {first second : DataSource}
    (same : first.Resembles second) {who other : Credentials} (alike : who.Resembles other) :
    Exchange.Resembles R (first.connect who) (second.connect other) := by
  obtain ⟨secret, rfl⟩ := same
  obtain ⟨own, rfl⟩ := alike
  have request :
      ConnectRequest.redacted ⟨first.url, { who with password := own }, first.properties⟩ =
        ConnectRequest.redacted ⟨first.url, who, first.properties⟩ := rfl
  apply (Exchange.resembles_connect blind request).bind
  intro conn
  apply (DataSource.discreet_configure blind first conn).attempt.bind
  intro configured
  cases configured with
  | ok _ => exact discreet_pure conn
  | error error =>
    apply (discreet_note _).bind
    intro _
    exact ((discreet_call blind .pool conn .close).orComplain _).bind fun _ =>
      discreet_throw error

end

/-! ## Acquisitions -/

/-- The same acquisition but for the password. -/
def Acquisition.Resembles (first second : Acquisition) : Prop :=
  ∃ secret, second = { first with who.password := secret }

theorem Acquisition.Resembles.who {first second : Acquisition}
    (alike : first.Resembles second) : first.who.Resembles second.who := by
  obtain ⟨secret, rfl⟩ := alike
  exact ⟨secret, rfl⟩


/-- Two acquisitions got equally far. -/
inductive Progress.Resembles : Progress → Progress → Prop
  /-- Both were granted the same connection. -/
  | granted (w : WrapperId) : Resembles (.granted w) (.granted w)
  /-- Both failed with the same error. -/
  | failed (error : PoolError) : Resembles (.failed error) (.failed error)
  /-- Both sleep. -/
  | asleep {first second : Acquisition} (alike : first.Resembles second) :
      Resembles (.asleep first) (.asleep second)

/-! ## Pools -/

/-- A wrapper without its fingerprint. -/
def Wrapper.unmarked (wrapper : Wrapper) : Wrapper :=
  { wrapper with fingerprint := none }

namespace Pool

/-- The other pool differs in fingerprints at most, and its surroundings resemble those of
the first one. -/
inductive Resembles (R : σ → σ → Prop) (pool : Pool σ) : Pool σ → Prop
  | mk {env : Environment σ} {wrappers : Array Wrapper} {expected : Fingerprint}
      (surroundings : pool.env.Resembles R env)
      (unmarked : wrappers.map Wrapper.unmarked = pool.wrappers.map Wrapper.unmarked) :
      Resembles R pool { pool with env := env, wrappers := wrappers, expected := expected }

/-- Two operations come to the same, and to pools that resemble each other. -/
structure Agrees (R : σ → σ → Prop) (first second : β × Pool σ) : Prop where
  result : second.1 = first.1
  pool : first.2.Resembles R second.2

theorem Agrees.exists_eq {first second : β × Pool σ} (agrees : Agrees R first second) :
    ∃ result mid other, first = (result, mid) ∧ second = (result, other) ∧
      mid.Resembles R other := by
  obtain ⟨result, mid⟩ := first
  obtain ⟨_, other⟩ := second
  obtain ⟨rfl, after⟩ := agrees
  exact ⟨_, mid, other, rfl, rfl, after⟩

/-- What does not depend on the fingerprint of a wrapper is the same. -/
theorem bind_unmarked {wrappers others : Array Wrapper} {look : Wrapper → Option α}
    (unmarked : others.map Wrapper.unmarked = wrappers.map Wrapper.unmarked)
    (blind : ∀ wrapper, look wrapper.unmarked = look wrapper) (w : WrapperId) :
    others[w]?.bind look = wrappers[w]?.bind look := by
  have seen := congrArg (·[w]?.bind look) unmarked
  simpa only [Array.getElem?_map, Option.bind_map, Function.comp_def, blind] using seen

/-- The fingerprint that a connection carries is held against the one that it must carry to
become idle. -/
structure Comparison where
  /-- What the connection carries. -/
  carried : Option Fingerprint
  /-- What it must carry. -/
  expected : Fingerprint
  deriving DecidableEq

/-- The two fingerprints are equal. -/
def Comparison.Holds (comparison : Comparison) : Prop :=
  comparison.carried = some comparison.expected

instance : DecidablePred Comparison.Holds :=
  fun comparison => decEq comparison.carried (some comparison.expected)

/-- What is compared when a connection is given back. Nothing is, unless the connection is
good and there is room for it. -/
def comparison [Driver σ] (policy : Policy) (w : WrapperId) (pool : Pool σ) :
    Option Comparison :=
  if pool.isGood policy w = true ∧ pool.idle.length < policy.maxIdle then
    some ⟨pool.fingerprint w, pool.expected⟩
  else none

/-- A connection that passes its check was asked, and nothing else has changed. -/
theorem check_ok [Driver σ] {policy : Policy} {w : WrapperId} {pool after : Pool σ}
    (passed : pool.check policy w = (.ok (), after)) :
    ∃ env, after = { pool with env := env } := by
  unfold check withConnection at passed
  cases reach : pool.reach w with
  | none =>
    rw [reach] at passed
    cases passed
  | some conn =>
    rw [reach] at passed
    dsimp only at passed
    cases asked : (Exchange.checkAlive (pool.realId w) (pool.pingQuery policy w) conn).perform
        pool.env with
    | mk outcome env =>
      rw [asked] at passed
      cases outcome with
      | error cause => cases passed
      | ok _ =>
        cases passed
        exact ⟨env, rfl⟩

/-- A good connection is put away after its time was taken. -/
theorem release_of_isGood [Driver σ] {policy : Policy} {w : WrapperId} {pool : Pool σ}
    (good : pool.isGood policy w = true) :
    pool.release policy w = (pool.tallied policy w).putAway policy w := by
  obtain ⟨valid, passed⟩ := Bool.and_eq_true_iff.1 good
  have stillValid : Pool.isValid { pool with active := pool.active.erase w } w = true := valid
  unfold Pool.release tallied
  dsimp only
  rw [if_pos stillValid, check_relist policy w (pool.active.erase w) pool]
  cases run : pool.check policy w with
  | mk outcome checked =>
    rw [run] at passed
    cases outcome with
    | error _ => cases passed
    | ok _ => rfl

/-- A good connection may become idle if fingerprints are compared and are equal. -/
theorem isReusable_tallied [Driver σ] {policy : Policy} {w : WrapperId} {pool : Pool σ}
    (good : pool.isGood policy w = true) :
    (pool.tallied policy w).isReusable policy w =
      (pool.comparison policy w).any fun c => decide c.Holds := by
  have passed := (Bool.and_eq_true_iff.1 good).2
  unfold tallied
  cases run : pool.check policy w with
  | mk outcome checked =>
    rw [run] at passed
    cases outcome with
    | error _ => cases passed
    | ok _ =>
      obtain ⟨env, rfl⟩ := check_ok run
      show (decide (pool.idle.length < policy.maxIdle) &&
        pool.fingerprint w == some pool.expected) = _
      unfold comparison
      rw [good, beq_eq_decide]
      by_cases room : pool.idle.length < policy.maxIdle
      · rw [if_pos ⟨rfl, room⟩, decide_eq_true room, Bool.true_and]
        rfl
      · rw [if_neg fun both => room both.2, decide_eq_false room]
        rfl

/-- A connection that is not good is refused, after the check that it may have failed. -/
theorem release_of_not_isGood [Driver σ] {policy : Policy} {w : WrapperId} {pool : Pool σ}
    (bad : pool.isGood policy w = false) :
    pool.release policy w =
      Pool.refuse w { (if pool.isValid w then (pool.check policy w).2 else pool) with
        active := pool.active.erase w } := by
  unfold isGood at bad
  unfold Pool.release
  dsimp only
  rw [check_relist policy w (pool.active.erase w) pool,
    show Pool.isValid { pool with active := pool.active.erase w } w = pool.isValid w from rfl]
  cases valid : pool.isValid w with
  | false => rfl
  | true =>
    rw [valid, Bool.true_and] at bad
    cases run : pool.check policy w with
    | mk outcome checked =>
      rw [run] at bad
      cases outcome with
      | error _ => rfl
      | ok _ => cases bad

namespace Resembles

variable {pool other : Pool σ} (same : pool.Resembles R other)

include same

theorem env : pool.env.Resembles R other.env := by
  cases same with
  | mk surroundings => exact surroundings

theorem now : other.now = pool.now :=
  same.env.clock

theorem idle : other.idle = pool.idle := by
  cases same
  rfl

theorem active : other.active = pool.active := by
  cases same
  rfl

theorem lastRealId : other.lastRealId = pool.lastRealId := by
  cases same
  rfl

theorem counters : other.counters = pool.counters := by
  cases same
  rfl

theorem closed : other.closed = pool.closed := by
  cases same
  rfl

theorem bind_wrappers {look : Wrapper → Option α}
    (blind : ∀ wrapper, look wrapper.unmarked = look wrapper) (w : WrapperId) :
    other.wrappers[w]?.bind look = pool.wrappers[w]?.bind look := by
  cases same with
  | mk _ unmarked => exact bind_unmarked unmarked blind w

theorem map_wrappers {look : Wrapper → α}
    (blind : ∀ wrapper, look wrapper.unmarked = look wrapper) (w : WrapperId) :
    other.wrappers[w]?.map look = pool.wrappers[w]?.map look := by
  have seen (wrapper : Wrapper) : (some ∘ look) wrapper.unmarked = (some ∘ look) wrapper :=
    congrArg some (blind wrapper)
  rw [Option.map_eq_bind, Option.map_eq_bind]
  exact same.bind_wrappers seen w

theorem size : other.wrappers.size = pool.wrappers.size := by
  cases same with
  | mk _ unmarked =>
    have seen := congrArg Array.size unmarked
    rwa [Array.size_map, Array.size_map] at seen

theorem realId (w : WrapperId) : other.realId w = pool.realId w :=
  congrArg (Option.getD · 0) (same.map_wrappers (fun _ => rfl) w)

theorem isValid (w : WrapperId) : other.isValid w = pool.isValid w :=
  congrArg (Option.getD · false) (same.map_wrappers (fun _ => rfl) w)

theorem reach (w : WrapperId) : other.reach w = pool.reach w :=
  same.bind_wrappers (fun _ => rfl) w

theorem since {moment : Wrapper → Instant}
    (blind : ∀ wrapper, moment wrapper.unmarked = moment wrapper) (w : WrapperId) :
    other.since moment w = pool.since moment w := by
  unfold Pool.since
  rw [same.now, same.map_wrappers blind]

theorem checkoutTime (w : WrapperId) : other.checkoutTime w = pool.checkoutTime w :=
  same.since (fun _ => rfl) w

theorem age (w : WrapperId) : other.age w = pool.age w :=
  same.since (fun _ => rfl) w

theorem pingQuery (policy : Policy) (w : WrapperId) :
    other.pingQuery policy w = pool.pingQuery policy w := by
  unfold Pool.pingQuery Pool.unusedTime
  rw [same.since fun _ => rfl]

/-! ### Small changes -/

theorem talk {env env' : Environment σ} (surroundings : env.Resembles R env') :
    Resembles R { pool with env := env } { other with env := env' } := by
  cases same with
  | mk _ unmarked => exact ⟨surroundings, unmarked⟩

theorem note (event : Event) : (pool.note event).Resembles R (other.note event) :=
  same.talk (same.env.write rfl)

theorem noteOpened (realId : Nat) :
    (pool.note (.opened realId pool.active.length)).Resembles R
      (other.note (.opened realId other.active.length)) := by
  rw [same.active]
  exact same.note _

theorem count (update : Counters → Counters) :
    (pool.count update).Resembles R (other.count update) := by
  cases same with
  | mk surroundings unmarked => exact ⟨surroundings, unmarked⟩

theorem queue (idle : List WrapperId) :
    Resembles R { pool with idle := idle } { other with idle := idle } := by
  cases same with
  | mk surroundings unmarked => exact ⟨surroundings, unmarked⟩

theorem list (active : List WrapperId) :
    Resembles R { pool with active := active } { other with active := active } := by
  cases same with
  | mk surroundings unmarked => exact ⟨surroundings, unmarked⟩

theorem shut :
    Resembles R { pool with closed := true } { other with closed := true } := by
  cases same with
  | mk surroundings unmarked => exact ⟨surroundings, unmarked⟩

theorem rename (realId : Nat) :
    Resembles R { pool with lastRealId := realId } { other with lastRealId := realId } := by
  cases same with
  | mk surroundings unmarked => exact ⟨surroundings, unmarked⟩

/-- A wrapper may be changed on both sides, and its fingerprint in different ways. -/
theorem alter {update change : Wrapper → Wrapper} (w : WrapperId)
    (alike : ∀ {first second : Wrapper}, second.unmarked = first.unmarked →
      (change second).unmarked = (update first).unmarked) :
    (pool.alter w update).Resembles R (other.alter w change) := by
  cases same with
  | @mk _ wrappers _ surroundings unmarked =>
    refine ⟨surroundings, ?_⟩
    unfold Pool.alter
    apply Array.ext_getElem?
    intro v
    have seen := congrArg (·[v]?) unmarked
    simp only [Array.getElem?_map, Array.getElem?_modify] at seen ⊢
    split
    · cases found : pool.wrappers[v]? <;> cases twin : wrappers[v]? <;>
        rw [found, twin] at seen
      · rfl
      · cases seen
      · cases seen
      · exact congrArg some (alike (Option.some.inj seen))
    · exact seen

/-- A wrapper may be added on both sides. -/
theorem wrap {first second : Wrapper} (alike : second.unmarked = first.unmarked) :
    Agrees R (pool.wrap first) (other.wrap second) := by
  refine ⟨same.size, ?_⟩
  cases same with
  | mk surroundings unmarked =>
    refine ⟨surroundings, ?_⟩
    unfold Pool.wrap
    rw [Array.map_push, Array.map_push, unmarked, alike]

theorem wrapFresh (realId : Nat) (conn : ConnId) :
    Agrees R (pool.wrap (.fresh realId conn pool.now))
      (other.wrap (.fresh realId conn other.now)) := by
  rw [same.now]
  exact same.wrap rfl

theorem touch (w : WrapperId) : (pool.touch w).Resembles R (other.touch w) := by
  unfold Pool.touch
  rw [same.now]
  exact same.alter w fun alike => congrArg (fun wrapper : Wrapper =>
    { wrapper with lastUsedAt := pool.now }) alike

theorem invalidate (w : WrapperId) : Agrees R (pool.invalidate w) (other.invalidate w) :=
  ⟨same.bind_wrappers (fun _ => rfl) w,
    same.alter w fun alike => congrArg Wrapper.spent alike⟩

theorem rewrap (w : WrapperId) : Agrees R (pool.rewrap w) (other.rewrap w) := by
  have seen : (other.wrappers[w]?).map Wrapper.unmarked = pool.wrappers[w]?.map Wrapper.unmarked :=
    same.map_wrappers (fun _ => rfl) w
  obtain ⟨slot, spent, spent', taken, taken', after⟩ := (same.invalidate w).exists_eq
  unfold Pool.rewrap
  cases found : pool.wrappers[w]? <;> cases twin : other.wrappers[w]? <;>
    rw [found, twin] at seen
  · exact ⟨rfl, same⟩
  · cases seen
  · cases seen
  · rename_i old old'
    have alike : old'.unmarked = old.unmarked := Option.some.inj seen
    dsimp only
    rw [taken, taken']
    cases slot with
    | none => exact ⟨rfl, after⟩
    | some conn =>
      have renewed : (old'.renewed conn).unmarked = (old.renewed conn).unmarked :=
        congrArg (·.renewed conn) alike
      have wrapped := after.wrap renewed
      exact ⟨congrArg some wrapped.result, wrapped.pool⟩

/-- Work that resembles itself is done alike on both sides. -/
theorem withConnection (w : WrapperId) {work : ConnId → Exchange σ α}
    (discreet : ∀ conn, Exchange.Discreet R (work conn)) :
    Agrees R (pool.withConnection w work) (other.withConnection w work) := by
  unfold Pool.withConnection
  rw [same.reach, same.realId]
  cases pool.reach w with
  | none => exact ⟨rfl, same⟩
  | some conn =>
    obtain ⟨result, after⟩ := discreet conn pool.env other.env same.env
    exact ⟨result, same.talk after⟩

theorem dispose (w : WrapperId) {ending : ConnId → Exchange σ Unit}
    (discreet : ∀ conn, Exchange.Discreet R (ending conn))
    (complaint : ConnectionError → Event) :
    (pool.dispose w ending complaint).Resembles R (other.dispose w ending complaint) := by
  obtain ⟨slot, spent, spent', taken, taken', after⟩ := (same.invalidate w).exists_eq
  unfold Pool.dispose
  rw [taken, taken']
  cases slot with
  | none => exact after
  | some conn =>
    exact after.talk ((discreet conn).orComplain complaint _ _ after.env).2

/-! ### Checks -/

section

variable [Driver σ] (blind : Blind R)

include blind

theorem check (policy : Policy) (w : WrapperId) :
    Agrees R (pool.check policy w) (other.check policy w) := by
  obtain ⟨outcome, mid, mid', run, twin, after⟩ :=
    (same.withConnection w
      (Exchange.discreet_checkAlive blind (pool.realId w) (pool.pingQuery policy w))).exists_eq
  unfold Pool.check
  rw [same.realId, same.pingQuery]
  dsimp only
  rw [run, twin]
  cases outcome with
  | ok _ => exact ⟨rfl, after⟩
  | error cause =>
    exact ⟨rfl, (after.dispose w (fun conn => Exchange.discreet_call blind .pool conn .close)
      (.badCloseFailed (pool.realId w))).note (.foundBad (pool.realId w) cause)⟩

theorem vet (policy : Policy) (w : WrapperId) :
    Agrees R (pool.vet policy w) (other.vet policy w) := by
  obtain ⟨checked, mid, mid', run, twin, after⟩ := (same.check blind policy w).exists_eq
  unfold Pool.vet
  rw [same.realId]
  dsimp only
  rw [run, twin]
  cases checked with
  | error rejection => exact ⟨rfl, after⟩
  | ok _ =>
    obtain ⟨outcome, last, last', ran, ran', later⟩ :=
      (after.withConnection w (Exchange.discreet_rollbackIfNeeded blind)).exists_eq
    dsimp only
    rw [ran, ran']
    cases outcome with
    | ok _ => exact ⟨rfl, later⟩
    | error cause =>
      exact ⟨rfl, later.dispose w (fun conn => Exchange.discreet_call blind .pool conn .close)
        (.discardCloseFailed (pool.realId w))⟩

end

/-! ### Checking out -/

theorem takeIdle (w : WrapperId) (rest : List WrapperId) :
    Agrees R (pool.takeIdle w rest) (other.takeIdle w rest) := by
  unfold Pool.takeIdle
  rw [same.realId]
  exact ⟨rfl, (same.queue rest).note _⟩

/-- The fingerprints that the connection gets may be different ones. -/
theorem handOut (code mark : Fingerprint) (started : Instant) (w : WrapperId) :
    (pool.handOut code started w).Resembles R (other.handOut mark started w) := by
  unfold Pool.handOut
  rw [same.now]
  have marked : (pool.alter w (·.checkedOut code pool.now)).Resembles R
      (other.alter w (·.checkedOut mark pool.now)) :=
    same.alter w fun alike => congrArg (fun wrapper : Wrapper =>
      { wrapper with checkoutAt := pool.now, lastUsedAt := pool.now }) alike
  dsimp only
  rw [marked.active]
  exact (marked.list _).count _

/-- Acquisitions that are alike fall asleep alike: both count as waiting from then on, or
neither does. -/
theorem fallAsleep (policy : Policy) {first second : Acquisition}
    (alike : first.Resembles second) :
    (pool.fallAsleep policy first).1.Resembles (other.fallAsleep policy second).1 ∧
      (pool.fallAsleep policy first).2.Resembles R (other.fallAsleep policy second).2 := by
  obtain ⟨secret, rfl⟩ := alike
  unfold Pool.fallAsleep
  refine ⟨.asleep ⟨secret, rfl⟩, ?_⟩
  dsimp only
  split
  · exact same.note _
  · exact (same.count _).note _

section

variable [Driver σ] (blind : Blind R)

include blind

theorem openFresh {source plain : DataSource} (sources : source.Resembles plain)
    {who own : Credentials} (alike : who.Resembles own) :
    Agrees R (pool.openFresh source who) (other.openFresh plain own) := by
  obtain ⟨outcome, after⟩ :=
    DataSource.resembles_connect blind sources alike pool.env other.env same.env
  have url : plain.url = source.url := by
    obtain ⟨_, rfl⟩ := sources
    rfl
  have last : other.lastRealId = pool.lastRealId := same.lastRealId
  unfold Pool.openFresh
  cases run : (source.connect who).perform pool.env with
  | mk result env =>
    cases twin : (plain.connect own).perform other.env with
    | mk result' env' =>
      rw [run, twin] at outcome after
      obtain rfl : result' = result := outcome
      have talked := same.talk after
      cases result' with
      | error error =>
        rw [url]
        exact ⟨rfl, talked⟩
      | ok conn =>
        dsimp only
        rw [last]
        have wrapped := (talked.rename (pool.lastRealId + 1)).wrapFresh (pool.lastRealId + 1) conn
        exact ⟨congrArg (fun w => Except.ok (Candidate.ready w)) wrapped.result,
          wrapped.pool.noteOpened (pool.lastRealId + 1)⟩

theorem claim (w : WrapperId) (rest : List WrapperId) (checkedOut : Duration) :
    Agrees R (pool.claim w rest checkedOut) (other.claim w rest checkedOut) := by
  have counted := (same.list rest).count fun c =>
    { c with
      overdueClaims := c.overdueClaims + 1
      overdueCheckoutTime := c.overdueCheckoutTime + checkedOut
      checkoutTime := c.checkoutTime + checkedOut }
  obtain ⟨outcome, mid, mid', run, twin, after⟩ :=
    (counted.withConnection w (Exchange.discreet_rollbackIfNeeded blind)).exists_eq
  unfold Pool.claim
  rw [same.realId]
  dsimp only at run twin ⊢
  rw [run, twin]
  -- Whether the rollback succeeds or not, the connection moves into a new wrapper.
  cases outcome
  case' ok => have rolledBack := after
  case' error error =>
    have rolledBack := after.note (.claimRollbackFailed (pool.realId w) error)
  all_goals
    obtain ⟨moved, last, last', ran, ran', later⟩ := (rolledBack.rewrap w).exists_eq
    dsimp only
    rw [ran, ran']
    cases moved with
    | none => exact ⟨rfl, later⟩
    | some fresh => exact ⟨rfl, later.note _⟩

theorem nextCandidate {settings plain : Settings} (alike : settings.Resembles plain)
    {who own : Credentials} (asks : who.Resembles own) :
    Agrees R (pool.nextCandidate settings who) (other.nextCandidate plain own) := by
  obtain ⟨secret, rfl⟩ := alike
  unfold Pool.nextCandidate
  rw [same.idle, same.active]
  cases pool.idle with
  | cons w rest => exact same.takeIdle w rest
  | nil =>
    dsimp only
    split
    · exact same.openFresh blind ⟨secret, rfl⟩ asks
    · cases pool.active with
      | nil => exact ⟨rfl, same⟩
      | cons oldest rest =>
        dsimp only
        rw [same.checkoutTime]
        split
        · exact ⟨rfl, same⟩
        · exact same.claim blind oldest rest _

theorem activate {settings plain : Settings} (alike : settings.Resembles plain)
    {first second : Acquisition} (asks : first.Resembles second) (w : WrapperId) :
    Agrees R (pool.activate settings first w) (other.activate plain second w) := by
  obtain ⟨secret, rfl⟩ := alike
  obtain ⟨own, rfl⟩ := asks
  obtain ⟨outcome, mid, mid', run, twin, after⟩ :=
    (same.vet blind settings.policy w).exists_eq
  unfold Pool.activate
  dsimp only
  rw [run, twin]
  cases outcome with
  | ok _ => exact ⟨rfl, after.handOut _ _ _ _⟩
  | error rejection => exact ⟨rfl, (after.count _).note _⟩

/-- The induction is on the budget. A search that ends, whether it ends well or not, ends on
both sides; one that goes on does so from pools that resemble each other. -/
theorem attempt {settings plain : Settings} (alike : settings.Resembles plain)
    {first second : Acquisition} (asks : first.Resembles second) (budget : Nat) :
    (pool.attempt settings first budget).1.Resembles (other.attempt plain second budget).1 ∧
      (pool.attempt settings first budget).2.Resembles R
        (other.attempt plain second budget).2 := by
  have policy : plain.policy = settings.policy := by
    obtain ⟨_, rfl⟩ := alike
    rfl
  induction budget using Nat.strongRecOn generalizing pool other first second with
  | ind budget ih =>
    obtain ⟨found, mid, mid', run, twin, after⟩ :=
      (same.nextCandidate blind alike asks.who).exists_eq
    unfold Pool.attempt
    rw [run, twin]
    cases found with
    | error error => exact ⟨.failed error, after⟩
    | ok candidate =>
      cases candidate with
      | mustWait =>
        dsimp only
        rw [policy]
        exact after.fallAsleep settings.policy asks
      | ready w =>
        obtain ⟨outcome, last, last', ran, ran', later⟩ :=
          (after.activate blind alike asks w).exists_eq
        dsimp only
        rw [ran, ran']
        cases outcome with
        | ok _ => exact ⟨.granted w, later⟩
        | error rejection =>
          obtain ⟨secret, rfl⟩ := asks
          cases budget with
          | zero => exact ⟨.failed _, later.note _⟩
          | succ budget => exact ih budget (Nat.lt_succ_self budget) later ⟨secret, rfl⟩

theorem acquire {settings plain : Settings} (alike : settings.Resembles plain)
    {first second : Acquisition} (asks : first.Resembles second) :
    (pool.acquire settings first).1.Resembles (other.acquire plain second).1 ∧
      (pool.acquire settings first).2.Resembles R (other.acquire plain second).2 := by
  obtain ⟨secret, rfl⟩ := alike
  obtain ⟨own, rfl⟩ := asks
  unfold Pool.acquire
  rw [same.closed]
  split
  · exact ⟨.failed _, same⟩
  · exact same.attempt blind ⟨secret, rfl⟩ ⟨own, rfl⟩ _

end

/-! ### Giving back -/

theorem refuse (w : WrapperId) : (pool.refuse w).Resembles R (other.refuse w) := by
  unfold Pool.refuse
  rw [same.realId]
  exact (same.count _).note _

section

variable [Driver σ] (blind : Blind R)

include blind

theorem retire (w : WrapperId) : (pool.retire w).Resembles R (other.retire w) := by
  unfold Pool.retire
  rw [same.realId]
  exact (same.dispose w (Exchange.discreet_shutDown blind) _).note _

theorem makeIdle (w : WrapperId) : (pool.makeIdle w).Resembles R (other.makeIdle w) := by
  obtain ⟨moved, mid, mid', run, twin, after⟩ := (same.rewrap w).exists_eq
  unfold Pool.makeIdle
  rw [same.realId]
  dsimp only
  rw [run, twin]
  cases moved with
  | none => exact after.retire blind w
  | some fresh =>
    dsimp only
    rw [after.idle]
    exact (after.queue _).note _

/-- A connection is put away alike if it is reusable on both sides or on neither; no other
comparison of fingerprints plays a part. -/
theorem putAway {policy : Policy} {w : WrapperId}
    (judged : other.isReusable policy w = pool.isReusable policy w) :
    (pool.putAway policy w).Resembles R (other.putAway policy w) := by
  obtain ⟨outcome, mid, mid', run, twin, after⟩ :=
    (same.withConnection w (Exchange.discreet_rollbackIfNeeded blind)).exists_eq
  unfold Pool.putAway
  rw [judged, run, twin]
  split
  · cases outcome with
    | ok _ => exact after.makeIdle blind w
    | error error =>
      dsimp only
      rw [after.realId]
      exact (after.note _).retire blind w
  · exact same.retire blind w

theorem isGood (policy : Policy) (w : WrapperId) :
    other.isGood policy w = pool.isGood policy w := by
  unfold Pool.isGood
  rw [same.isValid, (same.check blind policy w).result]

theorem tallied (policy : Policy) (w : WrapperId) :
    (pool.tallied policy w).Resembles R (other.tallied policy w) := by
  have checked := (same.check blind policy w).pool
  unfold Pool.tallied
  dsimp only
  rw [same.active, checked.checkoutTime]
  exact (checked.list _).count _

/-- A connection is given back alike if the fingerprints that this compares are equal on both
sides or on neither. -/
theorem release {policy : Policy} {w : WrapperId}
    (verdict : ∀ c ∈ pool.comparison policy w, ∀ c' ∈ other.comparison policy w,
      c'.Holds ↔ c.Holds) :
    (pool.release policy w).Resembles R (other.release policy w) := by
  have same_isGood := same.isGood blind policy w
  cases good : pool.isGood policy w with
  | true =>
    rw [good] at same_isGood
    rw [release_of_isGood good, release_of_isGood same_isGood]
    apply (same.tallied blind policy w).putAway blind
    rw [isReusable_tallied good, isReusable_tallied same_isGood]
    unfold comparison at verdict ⊢
    rw [good, same_isGood, same.idle] at verdict
    rw [good, same_isGood, same.idle]
    split
    · rename_i room
      rw [if_pos room, if_pos room] at verdict
      exact decide_eq_decide.2 (verdict _ rfl _ rfl)
    · rfl
  | false =>
    rw [good] at same_isGood
    rw [release_of_not_isGood good, release_of_not_isGood same_isGood, same.isValid, same.active]
    apply refuse
    split
    · exact (same.check blind policy w).pool.list _
    · exact same.list _

theorem forceClose (w : WrapperId) : (pool.forceClose w).Resembles R (other.forceClose w) := by
  unfold Pool.forceClose
  rw [same.realId]
  exact same.dispose w (Exchange.discreet_shutDown blind) _

theorem foldl_forceClose (listed : List WrapperId) :
    (listed.foldl Pool.forceClose pool).Resembles R (listed.foldl Pool.forceClose other) := by
  induction listed generalizing pool other with
  | nil => exact same
  | cons w rest ih => exact ih (same.forceClose blind w)

/-- Afterwards the two sides may expect different fingerprints. -/
theorem forceCloseAll (source plain : DataSource) :
    (pool.forceCloseAll source).Resembles R (other.forceCloseAll plain) := by
  have emptied : Resembles R
      { pool with expected := source.fingerprint, active := [], idle := [] }
      { other with expected := plain.fingerprint, active := [], idle := [] } := by
    cases same with
    | mk surroundings unmarked => exact ⟨surroundings, unmarked⟩
  unfold Pool.forceCloseAll
  rw [same.active, same.idle]
  exact (emptied.foldl_forceClose blind _).note _

end

end Resembles

end Pool

end ConnectionPooling
