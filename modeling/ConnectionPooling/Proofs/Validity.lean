/-
# Which configurations are accepted

A configuration file is checked before a pool is built from it. The check looks at what the file
says, and puts a default of its own for what it does not say; the pool is built with the defaults
of its policy. This module shows that the two agree: what is accepted is what is usable once the
pool is built, whichever fields are there.

`Usable` says so in terms of the policy that the pool gets. What it comes to for the pool is told
by `HandsOut` and `Pings`, which look at all that may happen to a pool with these settings, with
any driver whatsoever. A pool that may have no connection checked out hands out none; any other
hands one out, if the driver only does what it is asked.
-/

import ConnectionPooling.Config.Toml
import ConnectionPooling.Proofs.Calls
import Mathlib.Data.List.DropRight

namespace ConnectionPooling

/-! ## Blank texts -/

namespace Text

/-- The text without the white space at its two ends. -/
def trim (text : String) : String :=
  String.ofList ((text.toList.dropWhile isWhiteSpace).rdropWhile isWhiteSpace)

/-- A text is blank exactly if trimming it leaves nothing. -/
theorem isBlank_iff (text : String) : isBlank text = true ↔ trim text = "" := by
  have empty : trim text = "" ↔
      ∀ c ∈ text.toList.dropWhile isWhiteSpace, isWhiteSpace c = true := by
    rw [← List.rdropWhile_eq_nil_iff, ← String.toList_inj, trim, String.toList_ofList]
    rfl
  rw [empty, isBlank, List.all_eq_true]
  constructor
  · exact fun all c left => all c ((List.dropWhile_suffix _).subset left)
  · intro all
    -- What is left begins with a character that is no white space, unless nothing is left.
    cases left : text.toList.dropWhile isWhiteSpace with
    | nil => exact List.dropWhile_eq_nil_iff.1 left
    | cons c rest =>
      rw [left] at all
      have dark := List.head_dropWhile_not isWhiteSpace (l := text.toList) (by simp [left])
      simp only [left, List.head_cons, all c List.mem_cons_self] at dark
      cases dark

theorem isBlank_eq_false_iff (text : String) : isBlank text = false ↔ trim text ≠ "" := by
  rw [← Bool.not_eq_true, isBlank_iff]

end Text

/-! ## What is accepted -/

namespace PoolFile

/-- The file names a place to connect to, and the pool that is built from it may have a connection
checked out and does not ping with a query that nobody chose. -/
structure Usable (file : PoolFile) : Prop where
  /-- The url is not blank. -/
  url : Text.trim file.source.url ≠ ""
  /-- At least one connection may be checked out. -/
  active : 1 ≤ file.effectivePolicy.maxActive
  /-- Connections are not pinged, or with a query that is not blank and not the placeholder. -/
  ping : file.effectivePolicy.pingEnabled = false ∨
    (Text.trim file.effectivePolicy.pingQuery ≠ "" ∧
      file.effectivePolicy.pingQuery ≠ placeholderPingQuery)

/-- The policy that a section describes allows no connection exactly if the section says so. -/
theorem one_le_maxActive_iff (part : PolicySection) :
    1 ≤ (Policy.ofSection part).maxActive ↔ part.maxActive ≠ some 0 := by
  unfold Policy.ofSection
  cases part.maxActive with
  | none => simp
  | some count => simp [Nat.one_le_iff_ne_zero]

/-- A file has no flaw exactly if it is usable. -/
theorem flaw?_eq_none_iff (file : PoolFile) : file.flaw? = none ↔ file.Usable := by
  have usable : file.Usable ↔ Text.isBlank file.source.url = false ∧
      1 ≤ file.effectivePolicy.maxActive ∧ (file.effectivePolicy.pingEnabled = false ∨
        (Text.isBlank file.effectivePolicy.pingQuery = false ∧
          file.effectivePolicy.pingQuery ≠ placeholderPingQuery)) := by
    rw [Text.isBlank_eq_false_iff, Text.isBlank_eq_false_iff]
    exact ⟨fun usable => ⟨usable.url, usable.active, usable.ping⟩,
      fun ⟨url, active, ping⟩ => ⟨url, active, ping⟩⟩
  rw [usable]
  unfold flaw? effectivePolicy
  cases file.policy with
  | none => simp
  | some part =>
    rw [Option.map_some, Option.getD_some, one_le_maxActive_iff]
    have enabled : (Policy.ofSection part).pingEnabled = part.pingEnabled.getD false := rfl
    have query : (Policy.ofSection part).pingQuery =
        part.pingQuery.getD placeholderPingQuery := rfl
    rw [enabled, query]
    dsimp only
    cases Text.isBlank file.source.url with
    | true => simp
    | false =>
      by_cases none : part.maxActive = some 0
      · simp [none]
      · cases part.pingEnabled.getD false with
        | false => simp [none]
        | true => cases Text.isBlank (part.pingQuery.getD placeholderPingQuery) <;> simp [none]

/-- Pings cannot be enabled without a query. -/
example : flaw? { source := { url := "db" }, policy := some { pingEnabled := some true } } =
    some .noPingQuery := by decide +kernel

end PoolFile

/-! ## A driver that does what it is asked -/

/-- The driver grants every request, and a connection never says that it is closed. -/
structure Obliges (σ : Type) [Driver σ] : Prop where
  /-- It opens every connection. -/
  connect : ∀ (driver : σ) (conn : ConnId) (request : ConnectRequest),
    (Driver.connect driver conn request).outcome = .ok ()
  /-- It answers every request. -/
  call : ∀ (driver : σ) (conn : ConnId) (request : Request),
    ∃ reply, (Driver.call driver conn request).outcome = .ok reply
  /-- No connection is closed. -/
  alive : ∀ (driver : σ) (conn : ConnId),
    (Driver.call driver conn .isClosed).outcome = .ok false

/-- A driver without a state, which grants every request at once. -/
structure Yes

instance : Driver Yes where
  connect driver _ _ := ⟨.ok (), 0, driver⟩
  call driver _ request := ⟨.ok (match request with
    | .isClosed => false
    | .autoCommit => true
    | .setAutoCommit _ | .setIsolation _ | .setNetworkTimeout _ | .probe _ => ()
    | .execute _ => (0 : Nat)
    | .commit | .rollback | .close => ()), 0, driver⟩

theorem obliges_yes : Obliges Yes where
  connect _ _ _ := rfl
  call _ _ _ := ⟨_, rfl⟩
  alive _ _ := rfl

namespace Exchange

variable {σ α β : Type}

/-- Wherever the exchange is performed, it succeeds. -/
def Succeeds (work : Exchange σ α) : Prop :=
  ∀ env, ∃ value after, work.perform env = (.ok value, after)

theorem succeeds_pure (value : α) : (pure value : Exchange σ α).Succeeds :=
  fun env => ⟨value, env, rfl⟩

theorem succeeds_note (event : Event) : (note event : Exchange σ Unit).Succeeds :=
  fun env => ⟨(), _, perform_note event env⟩

theorem Succeeds.bind {work : Exchange σ α} {next : α → Exchange σ β} (first : work.Succeeds)
    (second : ∀ value, (next value).Succeeds) : (work >>= next).Succeeds := by
  intro env
  obtain ⟨value, mid, run⟩ := first env
  rw [perform_bind_ok run]
  exact second value mid

variable [Driver σ] (obliges : Obliges σ)

include obliges

theorem succeeds_ask (conn : ConnId) (request : Request) :
    (ask conn request : Exchange σ request.Reply).Succeeds := by
  intro env
  obtain ⟨reply, answered⟩ := obliges.call env.driver conn request
  unfold ask call perform
  dsimp only
  rw [answered]
  exact ⟨reply, _, rfl⟩

theorem succeeds_rollbackIfNeeded (conn : ConnId) :
    (rollbackIfNeeded conn : Exchange σ Unit).Succeeds := by
  apply (succeeds_ask obliges conn .autoCommit).bind
  intro automatic
  cases automatic with
  | true => exact succeeds_pure ()
  | false => exact succeeds_ask obliges conn .rollback

theorem succeeds_ping (realId : Nat) (query : String) (conn : ConnId) :
    (ping realId query conn : Exchange σ Unit).Succeeds := by
  apply (succeeds_note (.pinging realId query)).bind
  intro _ env
  obtain ⟨_, mid, run⟩ := succeeds_ask obliges conn (.probe query) env
  have tried := perform_attempt (ask conn (.probe query)) env
  rw [run] at tried
  rw [perform_bind_ok tried]
  exact (succeeds_rollbackIfNeeded obliges conn).bind (fun _ => succeeds_note _) mid

theorem succeeds_checkAlive (realId : Nat) (query : Option String) (conn : ConnId) :
    (checkAlive realId query conn : Exchange σ Unit).Succeeds := by
  intro env
  have open_ : ∃ mid, (ask conn .isClosed).perform env = (.ok false, mid) := by
    unfold ask call perform
    dsimp only
    rw [obliges.alive]
    exact ⟨_, rfl⟩
  obtain ⟨mid, run⟩ := open_
  unfold checkAlive
  rw [perform_bind_ok run]
  cases query with
  | none => exact ⟨(), mid, rfl⟩
  | some query => exact succeeds_ping obliges realId query conn mid

end Exchange

namespace DataSource

open Exchange

variable {σ : Type} [Driver σ] (obliges : Obliges σ)

include obliges

theorem succeeds_configure (source : DataSource) (conn : ConnId) :
    (source.configure conn : Exchange σ Unit).Succeeds := by
  have timeout : (source.applyNetworkTimeout conn : Exchange σ Unit).Succeeds := by
    unfold applyNetworkTimeout
    cases source.networkTimeout with
    | none => exact succeeds_pure ()
    | some timeout => exact succeeds_ask obliges conn (.setNetworkTimeout timeout)
  have mode : (source.applyAutoCommit conn : Exchange σ Unit).Succeeds := by
    unfold applyAutoCommit
    cases source.autoCommit with
    | none => exact succeeds_pure ()
    | some wanted =>
      apply (succeeds_ask obliges conn .autoCommit).bind
      intro current
      by_cases same : current = wanted
      · rw [if_pos same]
        exact succeeds_pure ()
      · rw [if_neg same]
        exact succeeds_ask obliges conn (.setAutoCommit wanted)
  have level : (source.applyIsolation conn : Exchange σ Unit).Succeeds := by
    unfold applyIsolation
    cases source.isolation with
    | none => exact succeeds_pure ()
    | some level => exact succeeds_ask obliges conn (.setIsolation level)
  exact timeout.bind fun _ => mode.bind fun _ => level

theorem succeeds_connect (source : DataSource) (who : Credentials) :
    (source.connect who : Exchange σ ConnId).Succeeds := by
  have made : (Exchange.connect ⟨source.url, who, source.properties⟩ :
      Exchange σ ConnId).Succeeds := by
    intro env
    unfold Exchange.connect perform
    dsimp only
    rw [obliges.connect]
    exact ⟨_, _, rfl⟩
  apply made.bind
  intro conn env
  obtain ⟨_, mid, run⟩ := source.succeeds_configure obliges conn env
  have tried := perform_attempt (source.configure conn) env
  rw [run] at tried
  rw [perform_bind_ok tried]
  exact ⟨conn, mid, rfl⟩

end DataSource

/-! ## Pools with given settings -/

namespace Pool

variable {σ : Type} [Driver σ] {settings : Settings} {acquisition : Acquisition} {pool : Pool σ}

/-- A connection passes its check if the driver does what it is asked. -/
theorem Holds.exists_vet {w : WrapperId} {wrapper : Wrapper} {conn : ConnId}
    (holds : pool.Holds w wrapper conn) (obliges : Obliges σ) (policy : Policy) :
    ∃ after, pool.vet policy w = (.ok (), after) := by
  obtain ⟨_, checked, alive⟩ := Exchange.succeeds_checkAlive obliges (pool.realId w)
    (pool.pingQuery policy w) conn pool.env
  obtain ⟨_, after, undone⟩ := Exchange.succeeds_rollbackIfNeeded obliges conn checked
  unfold vet check
  dsimp only
  rw [holds.withConnection, alive]
  dsimp only
  rw [(holds.talk checked).withConnection, undone]
  exact ⟨_, rfl⟩

/-- Who asks a pool without connections gets one, if any may be checked out and the driver does
what it is asked. -/
theorem Owns.exists_granted (owns : pool.Owns []) (obliges : Obliges σ) (idle : pool.idle = [])
    (active : pool.active = []) (closed : pool.closed = false)
    (room : 1 ≤ settings.policy.maxActive) (acquisition : Acquisition) :
    ∃ w, (pool.acquire settings acquisition).1 = .granted w := by
  unfold Pool.acquire
  rw [closed, if_neg Bool.false_ne_true]
  cases search : pool.nextCandidate settings acquisition.who with
  | mk result found =>
    have finds := owns.search search
    cases finds with
    | idle listed =>
      rw [idle] at listed
      cases listed
    | refused _ _ failed =>
      obtain ⟨conn, env, opened⟩ :=
        settings.source.succeeds_connect obliges acquisition.who pool.env
      rw [opened] at failed
      cases failed
    | noCapacity _ _ full => omega
    | mustWait _ listed =>
      rw [active] at listed
      cases listed
    | claimed _ listed =>
      rw [active] at listed
      cases listed
    | opened =>
      obtain ⟨wrapper, conn, holds⟩ := ((owns.search search).owns owns).exists_holds_hand
      obtain ⟨vetted, good⟩ := holds.exists_vet obliges settings.policy
      refine ⟨pool.wrappers.size, ?_⟩
      unfold attempt
      rw [search]
      dsimp only
      unfold activate
      rw [good]

omit [Driver σ] in
theorem pingQuery_eq_some {policy : Policy} {w : WrapperId} {query : String}
    (asks : pool.pingQuery policy w = some query) :
    policy.pingEnabled = true ∧ query = policy.pingQuery := by
  unfold pingQuery at asks
  split at asks
  · rename_i due
    cases asks
    exact ⟨due.1, rfl⟩
  · cases asks

end Pool

namespace World

variable {σ : Type} [Driver σ] {step : Step σ} {world : World σ} {w : WrapperId}

/-- Whoever asks for a connection does not change the settings. -/
theorem settings_take_of_granted (granted : world.progress step = some (.granted w)) :
    (world.take step).settings = world.settings := by
  obtain ⟨ticket, acquisition, called⟩ := exists_call_of_progress granted
  have same := (proceed_frame ticket acquisition (world.ready step)).2
  rw [(ready_frame step world).2.1] at same
  rcases take_of_call called with taken | taken
  · rw [taken, same]
  · rw [taken, (tearDown_frame _).2, same]

/-- What is handed out is checked out after the step. -/
theorem Orderly.mem_active_of_granted (orderly : world.Orderly)
    (granted : world.progress step = some (.granted w)) : w ∈ (world.take step).pool.active := by
  obtain ⟨ticket, acquisition, called⟩ := exists_call_of_progress granted
  rw [parted_of_granted granted, parted_of_call called]
  rw [progress_of_call called] at granted
  obtain ⟨kept, -, active⟩ :=
    ((orderly.ready step).owns.acquire_leaves world.settings acquisition).active
  rw [active, Option.some.inj granted]
  exact List.mem_append_right _ (List.mem_singleton_self w)

end World

namespace Settings

variable {settings : Settings}

/-- At some time, while these are its settings, some pool that was made with them hands out a
connection. -/
def HandsOut (settings : Settings) : Prop :=
  ∃ (σ : Type) (_ : Driver σ) (driver : σ) (world : World σ) (step : Step σ) (w : WrapperId),
    World.Reachable settings driver world ∧ world.settings = settings ∧
      world.allows step = true ∧ world.progress step = some (.granted w)

/-- At some time, while these are its settings, some pool that was made with them has a connection
whose check would run the query. -/
def Pings (settings : Settings) (query : String) : Prop :=
  ∃ (σ : Type) (_ : Driver σ) (driver : σ) (world : World σ) (w : WrapperId),
    World.Reachable settings driver world ∧ world.settings = settings ∧
      w ∈ world.pool.idle ++ world.pool.active ∧
      world.pool.pingQuery settings.policy w = some query

/-- Connections are handed out if any may be checked out, and only then. -/
theorem handsOut_iff : settings.HandsOut ↔ 1 ≤ settings.policy.maxActive := by
  constructor
  · rintro ⟨σ, _, driver, world, step, w, reachable, same, allowed, granted⟩
    have listed := reachable.sound.toOrderly.mem_active_of_granted granted
    have fits := (reachable.step step allowed).sound.load
    rw [World.settings_take_of_granted granted, same] at fits
    calc 1 ≤ (world.take step).pool.active.length := List.length_pos_of_mem listed
      _ ≤ (world.take step).pool.load := Nat.le_add_left _ _
      _ ≤ settings.policy.maxActive := fits
  · intro room
    have start := World.sound_start settings Yes.mk
    obtain ⟨w, granted⟩ := start.owns.exists_granted obliges_yes rfl rfl rfl room
      { who := settings.source.who, started := 0 }
    exact ⟨Yes, inferInstance, .mk, .start settings .mk, .act (.acquire none), w, .start, rfl,
      rfl, congrArg some granted⟩

/-- If pings are enabled, a connection that is handed out and not used for long is pinged with
the query of the policy. -/
theorem HandsOut.pings (hands : settings.HandsOut) (enabled : settings.policy.pingEnabled = true) :
    settings.Pings settings.policy.pingQuery := by
  obtain ⟨σ, _, driver, world, step, w, reachable, same, allowed, granted⟩ := hands
  have listed := reachable.sound.toOrderly.mem_active_of_granted granted
  have settled := World.settings_take_of_granted granted
  let used := ((world.take step).pool.wrappers[w]?.map Wrapper.lastUsedAt).getD 0
  let target := used + settings.policy.pingNotUsedFor + 1
  refine ⟨σ, inferInstance, driver, (world.take step).take (.act (.elapse target)), w,
    (reachable.step step allowed).step _ rfl, settled.trans same, List.mem_append_right _ listed,
    ?_⟩
  have late : used + (settings.policy.pingNotUsedFor + 1) ≤
      max (world.take step).pool.now target := Nat.le_max_right _ _
  exact if_pos ⟨enabled, Nat.le_sub_of_add_le' late⟩

/-- A ping is only made if pings are enabled, and with the query of the policy. -/
theorem Pings.eq {query : String} (pings : settings.Pings query) :
    settings.policy.pingEnabled = true ∧ query = settings.policy.pingQuery := by
  obtain ⟨σ, _, driver, world, w, -, -, -, asks⟩ := pings
  exact Pool.pingQuery_eq_some asks

end Settings

namespace PoolFile

/-- A file is usable exactly if it names a place to connect to, and a pool that is built from it
can hand something out and never pings with a query that nobody chose. -/
theorem usable_iff (file : PoolFile) :
    file.Usable ↔ Text.trim file.source.url ≠ "" ∧ file.settings.HandsOut ∧
      ∀ query, file.settings.Pings query → Text.trim query ≠ "" ∧ query ≠ placeholderPingQuery := by
  rw [Settings.handsOut_iff]
  constructor
  · intro usable
    refine ⟨usable.url, usable.active, fun query pings => ?_⟩
    obtain ⟨enabled, rfl⟩ := pings.eq
    rcases usable.ping with off | chosen
    · exact absurd (off.symm.trans enabled) Bool.false_ne_true
    · exact chosen
  · rintro ⟨url, active, chosen⟩
    refine ⟨url, active, ?_⟩
    cases enabled : file.effectivePolicy.pingEnabled with
    | false => exact .inl rfl
    | true => exact .inr (chosen _ ((Settings.handsOut_iff.2 active).pings enabled))

/-- How the check of a file agrees with the pool that is built from it. -/
structure ChecksAsBuilt (file : PoolFile) : Prop where
  /-- The check accepts a file exactly if it is usable with the policy of its pool. -/
  accepts_iff : file.flaw? = none ↔
    Text.trim file.source.url ≠ "" ∧ 1 ≤ file.effectivePolicy.maxActive ∧
      (file.effectivePolicy.pingEnabled = false ∨
        (Text.trim file.effectivePolicy.pingQuery ≠ "" ∧
          file.effectivePolicy.pingQuery ≠ placeholderPingQuery))
  /-- A text that says what the file says is read exactly if a pool built from it can hand
  something out, and pings with no blank query and not with the placeholder. -/
  parses_iff : ∀ text, parse text = .ok file ↔
    (Toml.document? text).bind (ofValue? Toml.dialect) = some file ∧
      Text.trim file.source.url ≠ "" ∧ file.settings.HandsOut ∧
      ∀ query, file.settings.Pings query → Text.trim query ≠ "" ∧ query ≠ placeholderPingQuery
  /-- Any other text that says what the file says is rejected for a flaw. -/
  rejects_iff : ∀ text, (Toml.document? text).bind (ofValue? Toml.dialect) = some file →
    ((∃ flaw, parse text = .error (.invalid flaw)) ↔ ¬ file.Usable)

/-- Whatever a file says and leaves out, its check agrees with the pool that is built from it. -/
theorem checksAsBuilt (file : PoolFile) : ChecksAsBuilt file := by
  constructor
  case accepts_iff =>
    rw [flaw?_eq_none_iff]
    exact ⟨fun usable => ⟨usable.url, usable.active, usable.ping⟩,
      fun ⟨url, active, ping⟩ => ⟨url, active, ping⟩⟩
  case parses_iff =>
    intro text
    rw [← usable_iff, ← flaw?_eq_none_iff]
    unfold parse
    cases (Toml.document? text).bind (ofValue? Toml.dialect) with
    | none => simp
    | some read =>
      unfold checked
      dsimp only
      cases flaw : read.flaw? with
      | none =>
        constructor
        · intro same
          cases same
          exact ⟨rfl, flaw⟩
        · rintro ⟨⟨⟩, -⟩
          rfl
      | some first =>
        constructor
        · intro same
          cases same
        · rintro ⟨⟨⟩, none⟩
          rw [flaw] at none
          cases none
  case rejects_iff =>
    intro text read
    rw [← flaw?_eq_none_iff]
    unfold parse checked
    rw [read]
    dsimp only
    cases file.flaw? with
    | none => simp
    | some flaw => simp

end PoolFile

end ConnectionPooling
