/-
# What the journal says of one connection

Counting in the journal tells whether a connection is open. This module reads more
out of it: under which request a connection was opened, that it was set up as its
data source asks, and what was said to it last. A connection is clean if that was an
answer of the pool's own from which it follows that no transaction is open on it.

What happens to other connections has no bearing on any of this, and a journal that
`Extends` another one never gives an old number to a new connection. So the origin of
a connection is settled for good when it is opened, while whether it is clean changes
only when somebody talks to it.
-/

import ConnectionPooling.Proofs.Journal

namespace ConnectionPooling

namespace Entry

/-- The entry is a line in the log. -/
inductive IsEvent : Entry → Prop
  | event (event : Event) : IsEvent (.event event)

/-- The entry is a call of the connection `conn` that the pool made, or a line in the
log. -/
inductive ByPool (conn : ConnId) : Entry → Prop
  | event (event : Event) : ByPool conn (.event event)
  | call (request : Request) (result : Except ConnectionError request.Reply) :
      ByPool conn (.call .pool conn request result)

/-- The entry is a call of the connection `conn` that its holder made. -/
inductive ByHolder (conn : ConnId) : Entry → Prop
  | call (request : Request) (result : Except ConnectionError request.Reply) :
      ByHolder conn (.call .holder conn request result)

/-- The entry is a call of the connection `conn`, whoever made it. -/
def calls (conn : ConnId) : Entry → Bool
  | .call _ called _ _ => called == conn
  | _ => false

/-- The entry is a call of the connection `conn` that its holder made. -/
def isSpoken (conn : ConnId) : Entry → Bool
  | .call .holder called _ _ => called == conn
  | _ => false

/-- The entry says neither that a connection was opened nor that a holder asked something. -/
structure IsOwn (entry : Entry) : Prop where
  opens : ∀ conn, entry.opens conn = false
  isSpoken : ∀ conn, entry.isSpoken conn = false

/-- The pool made sure that no transaction is open: the connection said that it
commits every statement by itself, or it was rolled back. -/
inductive IsClean : Entry → Prop
  | autoCommit (conn : ConnId) : IsClean (.call .pool conn .autoCommit (.ok true))
  | rollback (conn : ConnId) : IsClean (.call .pool conn .rollback (.ok ()))

/-- The request under which the entry says that the connection `conn` was opened. -/
def origin (conn : ConnId) : Entry → Option ConnectRequest
  | .connect request (.ok opened) => if opened = conn then some request else none
  | _ => none

theorem origin_of_not_opens {conn : ConnId} {entry : Entry} (h : entry.opens conn = false) :
    entry.origin conn = none := by
  cases entry with
  | connect request result =>
    cases result with
    | error error => rfl
    | ok opened => simpa [opens, origin] using h
  | call => rfl
  | event => rfl

theorem IsEvent.isOwn {entry : Entry} (h : entry.IsEvent) : entry.IsOwn := by
  cases h
  exact ⟨fun _ => rfl, fun _ => rfl⟩

theorem IsEvent.calls {entry : Entry} (h : entry.IsEvent) (conn : ConnId) :
    entry.calls conn = false := by
  cases h
  rfl

theorem IsEvent.isTalk {entry : Entry} (h : entry.IsEvent) : entry.IsTalk := by
  cases h
  exact isTalk_event _

theorem ByPool.isOwn {conn : ConnId} {entry : Entry} (h : entry.ByPool conn) : entry.IsOwn := by
  cases h <;> exact ⟨fun _ => rfl, fun _ => rfl⟩

theorem ByPool.calls {conn other : ConnId} {entry : Entry} (h : entry.ByPool conn)
    (different : conn ≠ other) : entry.calls other = false := by
  cases h with
  | event => rfl
  | call => exact beq_false_of_ne different

theorem ByHolder.opens {conn : ConnId} {entry : Entry} (h : entry.ByHolder conn)
    (other : ConnId) : entry.opens other = false := by
  cases h
  rfl

theorem ByHolder.calls {conn other : ConnId} {entry : Entry} (h : entry.ByHolder conn)
    (different : conn ≠ other) : entry.calls other = false := by
  cases h
  exact beq_false_of_ne different

theorem ByHolder.isSpoken {conn other : ConnId} {entry : Entry} (h : entry.ByHolder conn)
    (spoken : entry.isSpoken other = true) : other = conn := by
  cases h
  exact (eq_of_beq spoken).symm

theorem ByHolder.isTalk {conn : ConnId} {entry : Entry} (h : entry.ByHolder conn) :
    entry.IsTalk := by
  cases h
  exact isTalk_holder conn _ _

end Entry

/-- The calls that give the connection `conn` the defaults of its data source, if
they all succeed and it says that its auto-commit mode is `current` at first; the
latest call comes first. -/
def DataSource.setup (source : DataSource) (conn : ConnId) (current : Bool) : List Entry :=
  (source.isolation.toList.map fun level => .call .pool conn (.setIsolation level) (.ok ())) ++
  (source.autoCommit.toList.flatMap fun wanted =>
    (if current = wanted then [] else [.call .pool conn (.setAutoCommit wanted) (.ok ())]) ++
      [.call .pool conn .autoCommit (.ok current)]) ++
  (source.networkTimeout.toList.map fun timeout =>
    .call .pool conn (.setNetworkTimeout timeout) (.ok ()))

variable {σ α β : Type}

namespace Environment

/-- All that happened, without the times, the latest first. -/
def entries (env : Environment σ) : List Entry :=
  env.journal.map Record.entry

/-- The request under which a connection was opened. -/
def origin (env : Environment σ) (conn : ConnId) : Option ConnectRequest :=
  env.entries.findSome? (Entry.origin conn)

/-- How often a holder asked something of a connection. -/
def spoken (env : Environment σ) (conn : ConnId) : Nat :=
  env.entries.countP (Entry.isSpoken conn)

/-- What was said to a connection last. -/
def lastCall (env : Environment σ) (conn : ConnId) : Option Entry :=
  env.entries.find? (Entry.calls conn)

/-- The last thing said to a connection made sure that no transaction is open. -/
def Clean (env : Environment σ) (conn : ConnId) : Prop :=
  ∃ entry, env.lastCall conn = some entry ∧ entry.IsClean

/-- A connection was opened under the credentials `who` and, right after that, set up
as the data source asks. -/
structure Made (source : DataSource) (who : Credentials) (conn : ConnId)
    (env : Environment σ) : Prop where
  origin : env.origin conn = some ⟨source.url, who, source.properties⟩
  setup : ∃ current, (source.setup conn current ++
    [.connect ⟨source.url, who, source.properties⟩ (.ok conn)]) <:+: env.entries

/-! ## Journals that go on -/

/-- From `before` to `after` time may have passed, and entries that satisfy `P` were
added to the journal; connections opened on the way have new numbers. -/
structure Extends (P : Entry → Prop) (before after : Environment σ) : Prop where
  opened : before.opened ≤ after.opened
  clock : before.clock ≤ after.clock
  journal : ∃ added, after.journal = added ++ before.journal ∧
    ∀ record ∈ added, P record.entry ∧
      ∀ conn, record.entry.opens conn = true → before.opened ≤ conn

theorem Extends.refl (P : Entry → Prop) (env : Environment σ) : env.Extends P env :=
  ⟨Nat.le_refl _, Nat.le_refl _, [], rfl, by simp⟩

theorem Extends.trans {P : Entry → Prop} {before mid after : Environment σ}
    (first : before.Extends P mid) (second : mid.Extends P after) : before.Extends P after := by
  obtain ⟨early, hearly, newEarly⟩ := first.journal
  obtain ⟨late, hlate, newLate⟩ := second.journal
  refine ⟨Nat.le_trans first.opened second.opened, Nat.le_trans first.clock second.clock,
    late ++ early, by rw [hlate, hearly, List.append_assoc], ?_⟩
  intro record hrecord
  rcases List.mem_append.1 hrecord with h | h
  · obtain ⟨said, new⟩ := newLate record h
    exact ⟨said, fun conn opens => Nat.le_trans first.opened (new conn opens)⟩
  · exact newEarly record h

theorem Extends.mono {P Q : Entry → Prop} {before after : Environment σ}
    (goesOn : before.Extends P after) (h : ∀ entry, P entry → Q entry) :
    before.Extends Q after := by
  obtain ⟨added, hadded, all⟩ := goesOn.journal
  refine ⟨goesOn.opened, goesOn.clock, added, hadded, ?_⟩
  intro record hrecord
  obtain ⟨said, new⟩ := all record hrecord
  exact ⟨h _ said, new⟩

theorem Grows.extends {P : Entry → Prop} {before after : Environment σ}
    (grows : before.Grows P after)
    (silent : ∀ entry, P entry → ∀ conn, entry.opens conn = false) :
    before.Extends P after := by
  obtain ⟨added, hadded, all⟩ := grows.journal
  refine ⟨Nat.le_of_eq grows.opened.symm, grows.clock, added, hadded, ?_⟩
  intro record hrecord
  refine ⟨all record hrecord, ?_⟩
  intro conn opens
  rw [silent _ (all record hrecord) conn] at opens
  cases opens

theorem Grows.mono {P Q : Entry → Prop} {before after : Environment σ}
    (grows : before.Grows P after) (h : ∀ entry, P entry → Q entry) : before.Grows Q after := by
  obtain ⟨added, hadded, all⟩ := grows.journal
  exact ⟨grows.opened, grows.clock, added, hadded, fun record hr => h _ (all record hr)⟩

/-- What concerns other connections only does not change what was said last. -/
theorem Grows.lastCall {P : Entry → Prop} {before after : Environment σ} {conn : ConnId}
    (grows : before.Grows P after) (silent : ∀ entry, P entry → entry.calls conn = false) :
    after.lastCall conn = before.lastCall conn := by
  obtain ⟨added, hadded, all⟩ := grows.journal
  have none : (added.map Record.entry).find? (Entry.calls conn) = none := by
    rw [List.find?_eq_none]
    intro entry hentry
    obtain ⟨record, hrecord, rfl⟩ := List.mem_map.1 hentry
    simp [silent _ (all record hrecord)]
  simp only [Environment.lastCall, entries, hadded, List.map_append, List.find?_append, none,
    Option.none_or]

theorem Clean.grow {P : Entry → Prop} {before after : Environment σ} {conn : ConnId}
    (clean : before.Clean conn) (grows : before.Grows P after)
    (silent : ∀ entry, P entry → entry.calls conn = false) : after.Clean conn := by
  obtain ⟨entry, last, isClean⟩ := clean
  exact ⟨entry, (grows.lastCall silent).trans last, isClean⟩

section

variable {P : Entry → Prop} {before after : Environment σ} (goesOn : before.Extends P after)

include goesOn

theorem Extends.entries_suffix : before.entries <:+ after.entries := by
  obtain ⟨added, hadded, -⟩ := goesOn.journal
  exact ⟨added.map Record.entry, by simp only [entries, hadded, List.map_append]⟩

/-- The origin of a connection does not change once it is opened. -/
theorem Extends.origin {conn : ConnId} (old : conn < before.opened) :
    after.origin conn = before.origin conn := by
  obtain ⟨added, hadded, new⟩ := goesOn.journal
  have none : (added.map Record.entry).findSome? (Entry.origin conn) = none := by
    rw [List.findSome?_eq_none_iff]
    intro entry hentry
    obtain ⟨record, hrecord, rfl⟩ := List.mem_map.1 hentry
    apply Entry.origin_of_not_opens
    rw [← Bool.not_eq_true]
    intro opens
    exact absurd ((new record hrecord).2 conn opens) (Nat.not_le.2 old)
  simp only [Environment.origin, entries, hadded, List.map_append, List.findSome?_append, none,
    Option.none_or]

theorem Extends.made {source : DataSource} {who : Credentials} {conn : ConnId}
    (old : conn < before.opened) (made : before.Made source who conn) :
    after.Made source who conn where
  origin := (goesOn.origin old).trans made.origin
  setup := by
    obtain ⟨current, block⟩ := made.setup
    exact ⟨current, block.trans goesOn.entries_suffix.isInfix⟩

/-- How often a holder spoke does not change where no entry says that one did. -/
theorem Extends.spoken {conn : ConnId}
    (silent : ∀ entry, P entry → entry.isSpoken conn = false) :
    after.spoken conn = before.spoken conn := by
  obtain ⟨added, hadded, all⟩ := goesOn.journal
  have none : (added.map Record.entry).countP (Entry.isSpoken conn) = 0 := by
    apply List.countP_eq_zero.2
    intro entry hentry
    obtain ⟨record, hrecord, rfl⟩ := List.mem_map.1 hentry
    simp [silent _ (all record hrecord).1]
  simp only [Environment.spoken, entries, hadded, List.map_append, List.countP_append, none,
    Nat.zero_add]

end

end Environment

namespace Exchange

/-! ## Exchanges that succeed -/

theorem perform_bind_eq_ok {work : Exchange σ α} {next : α → Exchange σ β} {reply : β}
    {env after : Environment σ} (h : (work >>= next).perform env = (.ok reply, after)) :
    ∃ value mid, work.perform env = (.ok value, mid) ∧
      (next value).perform mid = (.ok reply, after) := by
  rw [perform_bind] at h
  cases run : work.perform env with
  | mk outcome mid =>
    rw [run] at h
    cases outcome with
    | error error => cases h
    | ok value => exact ⟨value, mid, rfl, h⟩

variable [Driver σ]

/-- A question that was answered is in the journal, with its answer. -/
theorem entries_of_ask {conn : ConnId} (request : Request) (reply : request.Reply)
    {env after : Environment σ} (h : (ask conn request).perform env = (.ok reply, after)) :
    after.entries = .call .pool conn request (.ok reply) :: env.entries := by
  unfold perform ask call at h
  obtain ⟨outcome, rfl⟩ := Prod.mk.inj h
  simp only [Environment.entries, Environment.write, List.map_cons, outcome]

/-- Where undoing a transaction succeeds, the connection is clean. -/
theorem clean_of_rollbackIfNeeded {conn : ConnId} {env after : Environment σ}
    (h : (rollbackIfNeeded conn).perform env = (.ok (), after)) : after.Clean conn := by
  unfold rollbackIfNeeded at h
  obtain ⟨autoCommit, mid, asked, rest⟩ := perform_bind_eq_ok h
  cases autoCommit with
  | true =>
    cases rest
    refine ⟨_, ?_, .autoCommit conn⟩
    rw [Environment.lastCall, entries_of_ask .autoCommit true asked, List.find?_cons_of_pos]
    exact beq_self_eq_true conn
  | false =>
    refine ⟨_, ?_, .rollback conn⟩
    rw [Environment.lastCall, entries_of_ask .rollback () rest,
      List.find?_cons_of_pos]
    exact beq_self_eq_true conn

theorem within_ask (conn : ConnId) (request : Request) :
    Within (Entry.ByPool conn) (ask conn request : Exchange σ request.Reply) :=
  within_call (.call request)

theorem within_shutDown {P : Entry → Prop} {conn : ConnId}
    (say : ∀ request result, P (.call .pool conn request result)) :
    Within P (shutDown conn : Exchange σ Unit) := by
  apply (within_rollbackIfNeeded (say _) (say _)).attempt.bind
  intro rolledBack
  apply Within.bind (within_call (say .close)).attempt
  intro closed
  cases rolledBack with
  | error error => exact within_throw error
  | ok _ =>
    cases closed with
    | error error => exact within_throw error
    | ok _ => exact within_pure ()

end Exchange

namespace DataSource

open Exchange

variable [Driver σ]

theorem entries_of_applyNetworkTimeout {source : DataSource} {conn : ConnId}
    {env after : Environment σ}
    (h : (source.applyNetworkTimeout conn).perform env = (.ok (), after)) :
    after.entries = (source.networkTimeout.toList.map fun timeout =>
      .call .pool conn (.setNetworkTimeout timeout) (.ok ())) ++ env.entries := by
  unfold applyNetworkTimeout at h
  cases wanted : source.networkTimeout with
  | none =>
    rw [wanted] at h
    cases h
    rfl
  | some timeout =>
    rw [wanted] at h
    exact entries_of_ask (.setNetworkTimeout timeout) () h

theorem entries_of_applyAutoCommit {source : DataSource} {conn : ConnId}
    {env after : Environment σ}
    (h : (source.applyAutoCommit conn).perform env = (.ok (), after)) :
    ∃ current : Bool, after.entries = (source.autoCommit.toList.flatMap fun wanted =>
      (if current = wanted then [] else [.call .pool conn (.setAutoCommit wanted) (.ok ())]) ++
        [.call .pool conn .autoCommit (.ok current)]) ++ env.entries := by
  unfold applyAutoCommit at h
  cases mode : source.autoCommit with
  | none =>
    rw [mode] at h
    cases h
    exact ⟨true, rfl⟩
  | some wanted =>
    rw [mode] at h
    obtain ⟨current, mid, asked, rest⟩ := perform_bind_eq_ok h
    have first := entries_of_ask .autoCommit current asked
    refine ⟨current, ?_⟩
    by_cases same : current = wanted
    · rw [if_pos same] at rest
      cases rest
      simpa [same] using first
    · rw [if_neg same] at rest
      have second := entries_of_ask (.setAutoCommit wanted) () rest
      simpa [same, first] using second

theorem entries_of_applyIsolation {source : DataSource} {conn : ConnId}
    {env after : Environment σ}
    (h : (source.applyIsolation conn).perform env = (.ok (), after)) :
    after.entries = (source.isolation.toList.map fun level =>
      .call .pool conn (.setIsolation level) (.ok ())) ++ env.entries := by
  unfold applyIsolation at h
  cases wanted : source.isolation with
  | none =>
    rw [wanted] at h
    cases h
    rfl
  | some level =>
    rw [wanted] at h
    exact entries_of_ask (.setIsolation level) () h

/-- A connection that could be configured was given every default. -/
theorem entries_of_configure {source : DataSource} {conn : ConnId} {env after : Environment σ}
    (h : (source.configure conn).perform env = (.ok (), after)) :
    ∃ current, after.entries = source.setup conn current ++ env.entries := by
  unfold configure at h
  obtain ⟨_, first, timeout, h⟩ := perform_bind_eq_ok h
  obtain ⟨_, second, mode, level⟩ := perform_bind_eq_ok h
  obtain ⟨current, said⟩ := entries_of_applyAutoCommit mode
  refine ⟨current, ?_⟩
  rw [entries_of_applyIsolation level, said, entries_of_applyNetworkTimeout timeout]
  simp only [setup, List.append_assoc]

/-- Asking for a connection writes one entry; it names the connection that was made. -/
theorem connect_entries (request : ConnectRequest) (env : Environment σ) :
    env.Extends (fun entry => ∀ conn, entry.isSpoken conn = false)
        ((Exchange.connect request).perform env).2 ∧
      ∀ conn, ((Exchange.connect request).perform env).1 = .ok conn →
        ((Exchange.connect request).perform env).2.entries =
          .connect request (.ok conn) :: env.entries := by
  unfold Exchange.connect perform
  dsimp only
  rcases (Driver.connect env.driver env.opened request).outcome with error | _
  · refine ⟨⟨Nat.le_refl _, Nat.le_add_right _ _, [_], rfl, ?_⟩, ?_⟩
    · simp [Entry.opens, Entry.isSpoken]
    · intro conn made
      cases made
  · refine ⟨⟨Nat.le_succ _, Nat.le_add_right _ _, [_], rfl, ?_⟩, ?_⟩
    · simp [Entry.opens, Entry.isSpoken]
    · intro conn made
      cases made
      rfl

/-- Whether or not opening succeeds, only a new connection is opened, and nobody but
the pool speaks. -/
theorem extends_connect (source : DataSource) (who : Credentials) (env : Environment σ) :
    env.Extends (fun entry => ∀ conn, entry.isSpoken conn = false)
      ((source.connect who).perform env).2 := by
  obtain ⟨asked, -⟩ := connect_entries ⟨source.url, who, source.properties⟩ env
  unfold connect
  rw [perform_bind]
  cases run : (Exchange.connect ⟨source.url, who, source.properties⟩).perform env with
  | mk outcome mid =>
    rw [run] at asked
    cases outcome with
    | error error => exact asked
    | ok conn =>
      apply asked.trans
      apply Environment.Extends.mono (P := Entry.ByPool conn)
      · apply Environment.Grows.extends ?_ fun _ said => said.isOwn.opens
        apply (source.within_configure fun _ _ => .call _).attempt.bind
        intro configured
        cases configured with
        | ok _ => exact within_pure conn
        | error error =>
          apply (within_note (.event _)).bind
          intro _
          apply ((within_ask conn .close).orComplain fun _ => .event _).bind
          intro _
          exact within_throw error
      · exact fun _ said => said.isOwn.isSpoken

/-- A connection that could be opened was asked for and then given every default. -/
theorem entries_of_connect {source : DataSource} {who : Credentials} {conn : ConnId}
    {env after : Environment σ} (h : (source.connect who).perform env = (.ok conn, after)) :
    ∃ current, after.entries = source.setup conn current ++
      .connect ⟨source.url, who, source.properties⟩ (.ok conn) :: env.entries := by
  unfold connect at h
  obtain ⟨made, mid, asked, h⟩ := perform_bind_eq_ok h
  obtain ⟨-, named⟩ := connect_entries ⟨source.url, who, source.properties⟩ env
  rw [asked] at named
  have first := named made rfl
  obtain ⟨outcome, ready, configured, h⟩ := perform_bind_eq_ok h
  rw [perform_attempt] at configured
  cases outcome with
  | ok _ =>
    cases h
    obtain ⟨same, rfl⟩ := Prod.mk.inj configured
    have configured : (source.configure conn).perform mid = (.ok (), _) :=
      Prod.ext (Except.ok.inj same) rfl
    obtain ⟨current, said⟩ := entries_of_configure configured
    exact ⟨current, by rw [said, first]⟩
  | error error =>
    -- The connection is closed again and the error passed on.
    obtain ⟨_, _, -, h⟩ := perform_bind_eq_ok h
    obtain ⟨_, _, -, h⟩ := perform_bind_eq_ok h
    cases h

omit [Driver σ] in
theorem byPool_of_mem_setup {source : DataSource} {conn : ConnId} {current : Bool}
    {entry : Entry} (h : entry ∈ source.setup conn current) : entry.ByPool conn := by
  simp only [setup, List.mem_append, List.mem_map, List.mem_flatMap, List.mem_singleton] at h
  rcases h with (⟨level, -, rfl⟩ | ⟨wanted, -, mode | rfl⟩) | ⟨timeout, -, rfl⟩
  · exact .call _ _
  · split at mode
    · cases mode
    · rw [List.mem_singleton.1 mode]
      exact .call _ _
  · exact .call _ _
  · exact .call _ _

/-- A connection that could be opened was opened under the given credentials and set
up as the data source asks. -/
theorem made_of_connect {source : DataSource} {who : Credentials} {conn : ConnId}
    {env after : Environment σ} (h : (source.connect who).perform env = (.ok conn, after)) :
    after.Made source who conn := by
  obtain ⟨current, said⟩ := entries_of_connect h
  constructor
  case origin =>
    have silent : (source.setup conn current).findSome? (Entry.origin conn) = none := by
      rw [List.findSome?_eq_none_iff]
      intro entry hentry
      exact Entry.origin_of_not_opens ((byPool_of_mem_setup hentry).isOwn.opens conn)
    rw [Environment.origin, said, List.findSome?_append, silent, Option.none_or,
      List.findSome?_cons]
    simp [Entry.origin]
  case setup =>
    exact ⟨current, [], env.entries, by simp [said]⟩

end DataSource

end ConnectionPooling
