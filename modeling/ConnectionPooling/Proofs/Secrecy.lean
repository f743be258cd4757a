/-
# Passwords are seen by the driver only

Two runs are put side by side in which the same happens at the same times, and which differ
in passwords at most: the default one, those that callers give, and those that replace the
default one. The drivers may be told of different passwords, but answer as if they were not.
Then nothing else differs: not what a caller is told, not what is counted, logged or shown,
and not what the driver is asked, but for the password itself.

Passwords do reach one decision of the pool, by way of their fingerprints. It is assumed that
wherever two fingerprints are compared in both runs, they are equal in both or in none. What
is not covered are the questions that ask for a fingerprint or for the data source as it is.
-/

import ConnectionPooling.Proofs.Resemblance

namespace ConnectionPooling

variable {σ α β : Type} {R : σ → σ → Prop}

/-! ## Steps -/

/-- The same change, or two changes of the default password. -/
inductive Change.Resembles : Change → Change → Prop
  /-- The default password is replaced. -/
  | password (secret other : Option String) : Resembles (.password secret) (.password other)
  /-- The same is changed in the same way. -/
  | same (change : Change) : Resembles change change

/-- The same action, but for passwords that are given in it. If the driver is changed from
outside, it goes on to answer alike. -/
inductive Action.Resembles (R : σ → σ → Prop) : Action σ → Action σ → Prop
  | acquireDefault : Resembles R (.acquire none) (.acquire none)
  | acquire {who own : Credentials} (alike : who.Resembles own) :
      Resembles R (.acquire (some who)) (.acquire (some own))
  | request (h : HandleId) (request : Request) :
      Resembles R (.request h request) (.request h request)
  | converse (h : HandleId) (dialogue : Dialogue) :
      Resembles R (.converse h dialogue) (.converse h dialogue)
  | drop (h : HandleId) : Resembles R (.drop h) (.drop h)
  | forceCloseAll : Resembles R .forceCloseAll .forceCloseAll
  | shutDown : Resembles R .shutDown .shutDown
  | change {first second : Change} (alike : first.Resembles second) :
      Resembles R (.change first) (.change second)
  | addClone : Resembles R .addClone .addClone
  | dropClone : Resembles R .dropClone .dropClone
  | elapse (target : Instant) : Resembles R (.elapse target) (.elapse target)
  | disturb {update change : σ → σ} (alike : ∀ {s t}, R s t → R (update s) (change t)) :
      Resembles R (.disturb update) (.disturb change)

/-- The same step, but for passwords that are given in it. -/
inductive Step.Resembles (R : σ → σ → Prop) : Step σ → Step σ → Prop
  | act {first second : Action σ} (alike : first.Resembles R second) :
      Resembles R (.act first) (.act second)
  | wake (place : Nat) : Resembles R (.wake place) (.wake place)

theorem Change.Resembles.drains {first second : Change} (alike : first.Resembles second) :
    second.drains = first.drains := by
  cases alike <;> rfl

theorem Change.Resembles.apply {first second : Change} (alike : first.Resembles second)
    {settings plain : Settings} (same : settings.Resembles plain) :
    (first.apply settings).Resembles (second.apply plain) := by
  obtain ⟨secret, rfl⟩ := same
  cases alike with
  | password _ other => exact ⟨other, rfl⟩
  | same =>
    cases first with
    | password given => exact ⟨given, rfl⟩
    | _ => exact ⟨secret, rfl⟩

theorem Settings.Resembles.policy {settings plain : Settings} (same : settings.Resembles plain) :
    plain.policy = settings.policy := by
  obtain ⟨_, rfl⟩ := same
  rfl

theorem Settings.Resembles.who {settings plain : Settings} (same : settings.Resembles plain) :
    settings.source.who.Resembles plain.source.who := by
  obtain ⟨secret, rfl⟩ := same
  exact ⟨secret, rfl⟩

/-- Passwords play no part in what a holder says to its connection, or in the answers. -/
theorem Dialogue.discreet_hold [Driver σ] (blind : Blind R) (dialogue : Dialogue)
    (conn : ConnId) : Exchange.Discreet R (dialogue.hold conn : Exchange σ Unit) := by
  induction dialogue with
  | done => exact Exchange.discreet_pure ()
  | ask request next ih =>
    exact (Exchange.discreet_call blind .holder conn request).attempt.bind ih

/-! ## Worlds -/

/-- A sleeper without its password. -/
def Sleeper.redacted (sleeper : Sleeper) : Sleeper :=
  { sleeper with acquisition.who := sleeper.acquisition.who.redacted }

theorem Sleeper.exists_secret {first second : Sleeper}
    (same : second.redacted = first.redacted) :
    ∃ secret, second = { first with acquisition.who.password := secret } := by
  obtain ⟨_, ⟨⟨_, secret⟩, _, _, _⟩, _, _⟩ := second
  exact ⟨secret, by simpa [Sleeper.redacted, Credentials.redacted] using same⟩

namespace World

/-- The other world differs in passwords at most, and in what is made from them. -/
inductive Resembles (R : σ → σ → Prop) (world : World σ) : World σ → Prop
  | mk {settings : Settings} {pool : Pool σ} {sleepers : List Sleeper}
      (alike : world.settings.Resembles settings) (twins : world.pool.Resembles R pool)
      (asleep : sleepers.map Sleeper.redacted = world.sleepers.map Sleeper.redacted) :
      Resembles R world { world with settings := settings, pool := pool, sleepers := sleepers }

/-- Two operations come to the same, and to worlds that resemble each other. -/
structure Agrees (R : σ → σ → Prop) (first second : β × World σ) : Prop where
  result : second.1 = first.1
  world : first.2.Resembles R second.2

/-- The fingerprints that are compared when a handle is given back, if any are. -/
def judges [Driver σ] (world : World σ) (h : HandleId) : Option Pool.Comparison :=
  (world.checkout h).bind fun w => world.pool.comparison world.settings.policy w

/-- The fingerprints that are compared in a step, if any are. -/
def comparison [Driver σ] (step : Step σ) (world : World σ) : Option Pool.Comparison :=
  step.returns.bind world.judges

namespace Resembles

variable {world other : World σ} (same : world.Resembles R other)

include same

theorem settings : world.settings.Resembles other.settings := by
  cases same with
  | mk alike => exact alike

theorem pool : world.pool.Resembles R other.pool := by
  cases same with
  | mk _ twins => exact twins

theorem sleepers :
    other.sleepers.map Sleeper.redacted = world.sleepers.map Sleeper.redacted := by
  cases same with
  | mk _ _ asleep => exact asleep

theorem handles : other.handles = world.handles := by
  cases same
  rfl

theorem clones : other.clones = world.clones := by
  cases same
  rfl

theorem nextTicket : other.nextTicket = world.nextTicket := by
  cases same
  rfl

theorem finished : other.finished = world.finished := by
  cases same
  rfl

/-! ### What can be asked -/

theorem realId (h : HandleId) : other.realId h = world.realId h := by
  unfold World.realId
  rw [same.handles]
  cases world.handles[h]? with
  | none => rfl
  | some handle => exact same.pool.realId handle.wrapper

theorem isValid (h : HandleId) : other.isValid h = world.isValid h := by
  unfold World.isValid
  rw [same.handles]
  cases world.handles[h]? with
  | none => rfl
  | some handle =>
    dsimp only
    rw [same.pool.isValid]

theorem checkoutTime (h : HandleId) : other.checkoutTime h = world.checkoutTime h := by
  unfold World.checkoutTime
  rw [same.handles]
  cases world.handles[h]? with
  | none => rfl
  | some handle => exact same.pool.checkoutTime handle.wrapper

theorem age (h : HandleId) : other.age h = world.age h := by
  unfold World.age
  rw [same.handles]
  cases world.handles[h]? with
  | none => rfl
  | some handle => exact same.pool.age handle.wrapper

theorem statistics : other.statistics = world.statistics := by
  unfold World.statistics
  rw [same.pool.counters, same.pool.idle, same.pool.active]

theorem shownSource : other.settings.source.shown = world.settings.source.shown := by
  obtain ⟨secret, alike⟩ := same.settings
  rw [alike]
  rfl

theorem shown : other.shown = world.shown := by
  unfold World.shown
  rw [same.shownSource, same.settings.policy, same.pool.idle, same.pool.active,
    same.pool.closed]

theorem shownHandle (h : HandleId) : other.shownHandle h = world.shownHandle h := by
  unfold World.shownHandle
  rw [same.realId, same.isValid]

theorem checkout (h : HandleId) : other.checkout h = world.checkout h := by
  unfold World.checkout
  rw [same.handles]

theorem isAbandoned : other.isAbandoned = world.isAbandoned := by
  have asleep : other.sleepers.isEmpty = world.sleepers.isEmpty := by
    have seen := congrArg List.isEmpty same.sleepers
    rwa [List.isEmpty_map, List.isEmpty_map] at seen
  unfold World.isAbandoned
  rw [same.clones, asleep, same.handles]

/-! ### Small changes -/

theorem enter {pool pool' : Pool σ} (twins : pool.Resembles R pool') :
    Resembles R { world with pool := pool } { other with pool := pool' } := by
  cases same with
  | mk alike _ asleep => exact ⟨alike, twins, asleep⟩

theorem choose {settings plain : Settings} (alike : settings.Resembles plain) :
    Resembles R { world with settings := settings } { other with settings := plain } := by
  cases same with
  | mk _ twins asleep => exact ⟨alike, twins, asleep⟩

theorem issue (handles : Array Handle) :
    Resembles R { world with handles := handles } { other with handles := handles } := by
  cases same with
  | mk alike twins asleep => exact ⟨alike, twins, asleep⟩

theorem finish (finished : List (Ticket × Except PoolError HandleId)) :
    Resembles R { world with finished := finished } { other with finished := finished } := by
  cases same with
  | mk alike twins asleep => exact ⟨alike, twins, asleep⟩

theorem share (clones : Nat) :
    Resembles R { world with clones := clones } { other with clones := clones } := by
  cases same with
  | mk alike twins asleep => exact ⟨alike, twins, asleep⟩

theorem number (ticket : Ticket) :
    Resembles R { world with nextTicket := ticket } { other with nextTicket := ticket } := by
  cases same with
  | mk alike twins asleep => exact ⟨alike, twins, asleep⟩

theorem queue {sleepers sleepers' : List Sleeper}
    (asleep : sleepers'.map Sleeper.redacted = sleepers.map Sleeper.redacted) :
    Resembles R { world with sleepers := sleepers } { other with sleepers := sleepers' } := by
  cases same with
  | mk alike twins => exact ⟨alike, twins, asleep⟩

theorem record (ticket : Ticket) {progress progress' : Progress}
    (alike : progress.Resembles progress') :
    (world.record ticket progress).Resembles R (other.record ticket progress') := by
  cases alike with
  | granted w =>
    unfold World.record
    dsimp only
    rw [same.handles, same.finished]
    exact (same.issue (world.handles.push { wrapper := w })).finish _
  | failed error =>
    unfold World.record
    dsimp only
    rw [same.finished]
    exact same.finish _
  | asleep alike =>
    obtain ⟨secret, rfl⟩ := alike
    unfold World.record
    dsimp only
    rw [same.settings.policy, same.pool.now]
    apply same.queue
    rw [List.map_append, List.map_append, same.sleepers]
    rfl

theorem advanceTo (target : Instant) :
    (world.advanceTo target).Resembles R (other.advanceTo target) := by
  have surroundings := same.pool.env
  unfold World.advanceTo
  rw [same.pool.now]
  exact same.enter (same.pool.talk
    ⟨rfl, surroundings.driver, surroundings.opened, surroundings.journal⟩)

theorem disturb {update change : σ → σ} (alike : ∀ {s t}, R s t → R (update s) (change t)) :
    Resembles R { world with pool.env.driver := update world.pool.env.driver }
      { other with pool.env.driver := change other.pool.env.driver } := by
  have surroundings := same.pool.env
  exact same.enter (same.pool.talk
    ⟨surroundings.clock, alike surroundings.driver, surroundings.opened, surroundings.journal⟩)

theorem addClone : world.addClone.Resembles R other.addClone := by
  unfold World.addClone
  rw [same.clones]
  exact same.share _

/-! ### Operations -/

section

variable [Driver σ] (blind : Blind R)

include blind

theorem tearDown : world.tearDown.Resembles R other.tearDown := by
  unfold World.tearDown
  rw [same.isAbandoned, same.pool.idle, same.pool.active]
  split
  · exact same.enter (same.pool.forceCloseAll blind _ _)
  · exact same

theorem acquire {who own : Credentials} (alike : who.Resembles own) :
    Agrees R (world.acquire who) (other.acquire own) := by
  have asks : Acquisition.Resembles { who := who, started := world.pool.now }
      { who := own, started := world.pool.now } := by
    obtain ⟨secret, rfl⟩ := alike
    exact ⟨secret, rfl⟩
  obtain ⟨progress, twins⟩ := same.pool.acquire blind same.settings asks
  unfold World.acquire
  rw [same.nextTicket, same.pool.now]
  exact ⟨rfl, ((same.enter twins).number _).record _ progress⟩

theorem resume {sleeper : Sleeper} (secret : Option String) :
    (world.resume sleeper).Resembles R
      (other.resume { sleeper with acquisition.who.password := secret }) := by
  have counted := same.pool.count fun c =>
    { c with waitTime := c.waitTime + (world.pool.now - sleeper.since) }
  have asks : sleeper.acquisition.Resembles
      { sleeper.acquisition with who.password := secret } := ⟨secret, rfl⟩
  obtain ⟨progress, twins⟩ := counted.acquire blind same.settings asks
  unfold World.resume
  rw [same.pool.now]
  exact ((same.enter twins).record _ progress).tearDown blind

theorem wakeAt (place : Nat) : (world.wakeAt place).Resembles R (other.wakeAt place) := by
  have seen := congrArg (·[place]?) same.sleepers
  simp only [List.getElem?_map] at seen
  unfold World.wakeAt
  cases found : world.sleepers[place]? <;> cases twin : other.sleepers[place]? <;>
    rw [found, twin] at seen
  · exact same
  · cases seen
  · cases seen
  · obtain ⟨secret, rfl⟩ := Sleeper.exists_secret (Option.some.inj seen)
    have left : (other.sleepers.eraseIdx place).map Sleeper.redacted =
        (world.sleepers.eraseIdx place).map Sleeper.redacted := by
      rw [← List.eraseIdx_map, ← List.eraseIdx_map, same.sleepers]
    exact (same.queue left).resume blind secret

omit blind in
omit [Driver σ] in
/-- Work that resembles itself is done alike on both sides. -/
theorem withConnection (h : HandleId) {work : ConnId → Exchange σ α}
    (discreet : ∀ conn, Exchange.Discreet R (work conn)) :
    Agrees R (world.withConnection h work) (other.withConnection h work) := by
  unfold World.withConnection
  rw [same.handles]
  cases world.handles[h]? with
  | none => exact ⟨rfl, same⟩
  | some handle =>
    dsimp only
    split
    · have worked := same.pool.withConnection handle.wrapper discreet
      have entered := same.enter (worked.pool.touch handle.wrapper)
      rw [same.handles] at entered
      exact ⟨worked.result, entered⟩
    · rw [same.pool.realId]
      exact ⟨rfl, same⟩

/-- A handle is given back alike if the fingerprints that this compares are equal on both sides
or on neither. -/
theorem giveBack {h : HandleId} (stage : Stage)
    (verdict : ∀ c ∈ world.judges h, ∀ c' ∈ other.judges h, c'.Holds ↔ c.Holds) :
    Agrees R (world.giveBack h stage) (other.giveBack h stage) := by
  unfold World.giveBack
  rw [same.handles, same.settings.policy]
  cases found : world.handles[h]? with
  | none => exact ⟨rfl, same⟩
  | some handle =>
    dsimp only
    split
    · rename_i held
      have out := checkout_eq_some.2 ⟨handle, found, held, rfl⟩
      unfold judges at verdict
      rw [same.checkout, out, same.settings.policy] at verdict
      have released := same.enter (same.pool.release blind verdict)
      exact ⟨rfl, released.issue (world.handles.modify h ({ · with stage := stage }))⟩
    · exact ⟨rfl, same.issue _⟩

theorem request {h : HandleId} {request : Request}
    (verdict : request = .close →
      ∀ c ∈ world.judges h, ∀ c' ∈ other.judges h, c'.Holds ↔ c.Holds) :
    (other.request h request).1 = (world.request h request).1 ∧
      Agrees R (world.request h request).2 (other.request h request).2 := by
  have asked := same.withConnection h (Exchange.discreet_call blind .holder · request)
  cases request with
  | close =>
    have given := same.giveBack blind .closed (verdict rfl)
    exact ⟨rfl, given.result, given.world⟩
  | isClosed =>
    unfold World.request
    dsimp only
    rw [same.handles]
    split
    · exact ⟨rfl, rfl, same⟩
    · exact ⟨asked.result, rfl, asked.world⟩
  | _ => exact ⟨asked.result, rfl, asked.world⟩

theorem executeDirectly (h : HandleId) (sql : String) :
    Agrees R (world.executeDirectly h sql) (other.executeDirectly h sql) :=
  same.withConnection h fun conn =>
    (Exchange.discreet_call blind .holder conn (.execute sql)).attempt

theorem forceCloseAll : Agrees R world.forceCloseAll other.forceCloseAll :=
  ⟨rfl, same.enter (same.pool.forceCloseAll blind _ _)⟩

theorem shutDown : Agrees R world.shutDown other.shutDown := by
  have closed := (same.pool.shut.forceCloseAll blind world.settings.source other.settings.source)
  exact ⟨rfl, same.enter (closed.note .poolClosed)⟩

theorem reconfigure {first second : Change} (alike : first.Resembles second) :
    Agrees R (world.reconfigure first) (other.reconfigure second) := by
  have chosen := same.choose (alike.apply same.settings)
  unfold World.reconfigure
  dsimp only
  rw [alike.drains]
  split
  · exact chosen.forceCloseAll blind
  · exact ⟨rfl, chosen⟩

theorem dropClone : world.dropClone.Resembles R other.dropClone := by
  unfold World.dropClone
  rw [same.clones]
  exact (same.share _).tearDown blind

end

/-! ### Steps -/

theorem permits {action again : Action σ} (alike : action.Resembles R again) :
    other.permits again = world.permits action := by
  cases alike <;> simp only [World.permits, World.hasHandle, same.clones, same.handles]

variable [Driver σ]

omit same in
theorem comparison_eq {step : Step σ} {h : HandleId} (returns : step.returns = some h)
    (world : World σ) : world.comparison step = world.judges h := by
  unfold comparison
  rw [returns, Option.bind_some]

/-- Giving a handle back notifies the same on both sides, whatever is compared. -/
theorem signal_giveBack (h : HandleId) (stage : Stage) :
    (other.giveBack h stage).1 = (world.giveBack h stage).1 := by
  unfold World.giveBack
  rw [same.handles]
  cases world.handles[h]? with
  | none => rfl
  | some handle =>
    dsimp only
    split <;> rfl

/-- An action notifies the same on both sides. -/
theorem signal {action again : Action σ} (alike : action.Resembles R again) :
    (other.act again).1 = (world.act action).1 := by
  cases alike with
  | request h request =>
    cases request with
    | close => exact same.signal_giveBack h .closed
    | isClosed =>
      show (other.request h .isClosed).2.1 = (world.request h .isClosed).2.1
      unfold World.request
      dsimp only
      split <;> split <;> rfl
    | _ => rfl
  | drop h => exact same.signal_giveBack h .dropped
  | change alike =>
    show (other.reconfigure _).1 = (world.reconfigure _).1
    unfold World.reconfigure
    dsimp only
    rw [alike.drains]
    split <;> rfl
  | _ => rfl

variable (blind : Blind R)

include blind

/-- Whatever is asked of a handle, the answer is the same on both sides. -/
theorem answer (h : HandleId) (request : Request) :
    (other.request h request).1 = (world.request h request).1 := by
  cases request with
  | close => rfl
  | _ => exact (same.request blind fun closing => by cases closing).1

theorem act {action again : Action σ} (alike : action.Resembles R again)
    (verdict : ∀ c ∈ world.comparison (.act action), ∀ c' ∈ other.comparison (.act again),
      c'.Holds ↔ c.Holds) :
    (world.act action).2.Resembles R (other.act again).2 := by
  cases alike with
  | acquireDefault => exact (same.acquire blind same.settings.who).world
  | acquire alike => exact (same.acquire blind alike).world
  | request h request =>
    refine (same.request blind ?_).2.world
    rintro rfl
    rwa [comparison_eq rfl, comparison_eq rfl] at verdict
  | converse h dialogue =>
    exact (same.withConnection h (dialogue.discreet_hold blind)).world
  | drop h =>
    rw [comparison_eq rfl, comparison_eq rfl] at verdict
    exact (same.giveBack blind .dropped verdict).world.tearDown blind
  | forceCloseAll => exact (same.forceCloseAll blind).world
  | shutDown => exact (same.shutDown blind).world
  | change alike => exact (same.reconfigure blind alike).world
  | addClone => exact same.addClone
  | dropClone => exact same.dropClone blind
  | elapse target => exact same.advanceTo target
  | disturb alike => exact same.disturb alike

theorem take {step again : Step σ} (alike : step.Resembles R again)
    (verdict : ∀ c ∈ world.comparison step, ∀ c' ∈ other.comparison again,
      c'.Holds ↔ c.Holds) :
    (world.take step).Resembles R (other.take again) := by
  cases alike with
  | act alike => exact same.act blind alike verdict
  | wake place => exact same.wakeAt blind place

end Resembles

/-! ## Runs -/

variable [Driver σ]

/-- Two turns in which the same step is taken but for passwords. If fingerprints are compared
in both, they are equal in both or in none. -/
structure Matches (R : σ → σ → Prop) (first second : World σ × Step σ) : Prop where
  step : first.2.Resembles R second.2
  verdict : ∀ c ∈ first.1.comparison first.2, ∀ c' ∈ second.1.comparison second.2,
    c'.Holds ↔ c.Holds

theorem Resembles.leads (blind : Blind R) {first second last last' : World σ}
    (same : first.Resembles R second) {past past' : List (World σ × Step σ)}
    (leads : first.Leads past last) (twin : second.Leads past' last')
    (matched : List.Forall₂ (Matches R) past past') : last.Resembles R last' := by
  induction leads generalizing past' last' with
  | refl =>
    cases matched
    cases twin
    exact same
  | step _ step _ ih =>
    cases matched with
    | cons turn rest =>
      cases twin with
      | step twin again _ => exact (ih twin rest).take blind turn.step turn.verdict

omit [Driver σ] in
theorem resembles_start {settings plain : Settings} (alike : settings.Resembles plain)
    {driver driver' : σ} (drivers : R driver driver') :
    (World.start settings driver).Resembles R (World.start plain driver') :=
  ⟨alike, ⟨⟨rfl, drivers, rfl, rfl⟩, rfl⟩, rfl⟩

/-- Nobody but the drivers can tell two worlds apart, unless they ask for a fingerprint or for
the data source as it is. -/
structure Indistinguishable (R : σ → σ → Prop) (first second : World σ) : Prop where
  /-- The acquisitions that ended came to the same handles and errors. -/
  finished : second.finished = first.finished
  /-- The others sleep in the same order, for the same time, and got equally far. -/
  sleepers : second.sleepers.map Sleeper.redacted = first.sleepers.map Sleeper.redacted
  /-- What may be done in one world may be done in the other. -/
  permits : ∀ {action again : Action σ}, action.Resembles R again →
    second.permits again = first.permits action
  /-- Whatever is done notifies the same sleepers. -/
  signals : ∀ {action again : Action σ}, action.Resembles R again →
    (second.act again).1 = (first.act action).1
  /-- Whatever is asked of a handle gets the same answer. -/
  answers : ∀ h request, (second.request h request).1 = (first.request h request).1
  /-- A statement that is run directly on a connection gets the same answer. -/
  direct : ∀ h sql, (second.executeDirectly h sql).1 = (first.executeDirectly h sql).1
  /-- A handle stands for the same connection, and tells the same of it. -/
  realId : ∀ h, second.realId h = first.realId h
  isValid : ∀ h, second.isValid h = first.isValid h
  checkoutTime : ∀ h, second.checkoutTime h = first.checkoutTime h
  age : ∀ h, second.age h = first.age h
  counters : second.pool.counters = first.pool.counters
  /-- The same connections are idle and the same are checked out. -/
  idle : second.pool.idle = first.pool.idle
  active : second.pool.active = first.pool.active
  closed : second.pool.closed = first.pool.closed
  statistics : second.statistics = first.statistics
  policy : second.settings.policy = first.settings.policy
  /-- Inspection shows the same pool. -/
  shown : second.shown = first.shown
  /-- Inspection shows the same data source. -/
  shownSource : second.settings.source.shown = first.settings.source.shown
  /-- Inspection shows the same handles. -/
  shownHandle : ∀ h, second.shownHandle h = first.shownHandle h
  /-- The same events were logged at the same times, and the driver was asked the same and
  gave the same answers, but for the passwords that connections were opened with. -/
  journal : second.pool.env.journal.map Record.redacted =
    first.pool.env.journal.map Record.redacted

theorem Resembles.indistinguishable (blind : Blind R) {world other : World σ}
    (same : world.Resembles R other) : Indistinguishable R world other where
  finished := same.finished
  sleepers := same.sleepers
  permits := same.permits
  signals := same.signal
  answers := same.answer blind
  direct h sql := (same.executeDirectly blind h sql).result
  realId := same.realId
  isValid := same.isValid
  checkoutTime := same.checkoutTime
  age := same.age
  counters := same.pool.counters
  idle := same.pool.idle
  active := same.pool.active
  closed := same.pool.closed
  statistics := same.statistics
  policy := same.settings.policy
  shown := same.shown
  shownSource := same.shownSource
  shownHandle := same.shownHandle
  journal := same.pool.env.journal

/-- Two runs that differ in passwords only lead to worlds that cannot be told apart. -/
theorem indistinguishable_of_leads (blind : Blind R) {settings plain : Settings}
    (alike : settings.Resembles plain) {driver driver' : σ} (drivers : R driver driver')
    {past past' : List (World σ × Step σ)} {first second : World σ}
    (leads : (World.start settings driver).Leads past first)
    (twin : (World.start plain driver').Leads past' second)
    (matched : List.Forall₂ (Matches R) past past') : Indistinguishable R first second :=
  ((resembles_start alike drivers).leads blind leads twin matched).indistinguishable blind

/-- The simulated driver does not look at what a connection is opened with. -/
theorem blind_simulation : Blind (Eq : Simulation.State → Simulation.State → Prop) where
  connect same conn _ _ _ := by
    cases same
    exact ⟨rfl, rfl, rfl⟩
  call same conn request := by
    cases same
    exact ⟨rfl, rfl, rfl⟩

/-- The default password is replaced by `chosen`, and one connection is checked out under it
and one with the password `given`. Then both are given back. -/
def rotationSteps (given chosen : String) : List (Step Simulation.State) :=
  [.act (.change (.password (some chosen))), .act (.acquire none),
    .act (.acquire (some { password := some given })), .act (.drop 1), .act (.drop 0)]

/-- Fingerprints are compared twice: those of the second connection are different, and those
of the first one are equal, so that it is kept. -/
theorem indistinguishable_rotated : ∃ first second,
    (World.start tightSettings {}).follow (rotationSteps "a" "b") = some first ∧
    (World.start { tightSettings with source.who.password := some "c" } {}).follow
      (rotationSteps "d" "e") = some second ∧
    first.pool.idle.length = 1 ∧ first.settings ≠ second.settings ∧
    Indistinguishable Eq first second := by
  have run : ((World.start tightSettings ({} : Simulation.State)).follow
      (rotationSteps "a" "b")).map (fun world =>
        (world.pool.idle.length, world.settings.source.who.password)) = some (1, some "b") := by
    decide +kernel
  have twin : ((World.start { tightSettings with source.who.password := some "c" }
      ({} : Simulation.State)).follow (rotationSteps "d" "e")).map
        (fun world => world.settings.source.who.password) = some (some "e") := by decide +kernel
  obtain ⟨first, found, seen⟩ := Option.map_eq_some_iff.1 run
  obtain ⟨second, found', seen'⟩ := Option.map_eq_some_iff.1 twin
  simp only [Prod.mk.injEq] at seen
  have matched : List.Forall₂ (Matches Eq)
      ((World.start tightSettings {}).trail (rotationSteps "a" "b") [])
      ((World.start { tightSettings with source.who.password := some "c" } {}).trail
        (rotationSteps "d" "e") []) :=
    .cons ⟨.act (.drop 0), by decide +kernel⟩ <|
    .cons ⟨.act (.drop 1), by decide +kernel⟩ <|
    .cons ⟨.act (.acquire ⟨_, rfl⟩), by decide +kernel⟩ <|
    .cons ⟨.act .acquireDefault, by decide +kernel⟩ <|
    .cons ⟨.act (.change (.password _ _)), by decide +kernel⟩ .nil
  refine ⟨first, second, found, found', seen.1, ?_, ?_⟩
  · intro same
    rw [same, seen'] at seen
    exact absurd seen.2 (by decide)
  · exact indistinguishable_of_leads blind_simulation ⟨some "c", rfl⟩ rfl
      (Leads.refl.follow found) (Leads.refl.follow found') matched

end World

end ConnectionPooling
