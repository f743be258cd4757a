/-
# Opening is all or nothing

To open a connection is to ask the driver for one and to give it the defaults of the data
source. `DataSource.setup` is the plan for the latter. `Carries` says how far a plan gets: all of
it is carried out, or it stops at the first request that fails. A connection that does not get all
of its defaults is closed with the last request, and what the caller learns is why it did not get
them, whatever the answer to that close is.

In a pool it is the last search of a call that tries to open a connection in vain. The pool has
then changed in nothing but what the driver has heard. The module does not say when the driver
fails.
-/

import ConnectionPooling.Proofs.Gate
import ConnectionPooling.Proofs.Retries
import ConnectionPooling.Proofs.Clearing

namespace ConnectionPooling

/-! ## Plans -/

namespace Entry

/-- The request, answered with an error. -/
def failing (error : ConnectionError) : Entry → Entry
  | .connect request _ => .connect request (.error error)
  | .call party conn request _ => .call party conn request (.error error)
  | .event line => .event line

/-- The entry is a request of the pool to the connection `conn` that does not end it, and that
was granted. -/
inductive Obeys (conn : ConnId) : Entry → Prop
  | call {request : Request} (goesOn : request ≠ .close) (reply : request.Reply) :
      Obeys conn (.call .pool conn request (.ok reply))

theorem Obeys.examines {conn : ConnId} {entry : Entry} (obeys : entry.Obeys conn) :
    entry.Examines conn := by
  cases obeys with
  | call goesOn reply => exact .ask goesOn _

theorem Obeys.examines_failing {conn : ConnId} {entry : Entry} (obeys : entry.Obeys conn)
    (error : ConnectionError) : (entry.failing error).Examines conn := by
  cases obeys with
  | call goesOn reply => exact .ask goesOn _

theorem Obeys.isFailure {conn : ConnId} {entry : Entry} (obeys : entry.Obeys conn) :
    entry.isFailure = false := by
  cases obeys
  rfl

theorem Obeys.isFailure_failing {conn : ConnId} {entry : Entry} (obeys : entry.Obeys conn)
    (error : ConnectionError) : (entry.failing error).isFailure = true := by
  cases obeys
  rfl

theorem Examines.closes {conn : ConnId} {entry : Entry} (examines : entry.Examines conn)
    (other : ConnId) : entry.closes other = false := by
  cases examines with
  | ask goesOn result => exact (isTalk_pool conn goesOn result).closes other

end Entry

/-- How far a plan is carried out, and what is asked on the way. In the plan and in what is asked
the latest request comes first. -/
inductive Carries (plan : List Entry) : Except ConnectionError Unit → List Entry → Prop
  /-- All requests of the plan are made and granted. -/
  | done : Carries plan (.ok ()) plan
  /-- The request `call` fails, and those that were planned for later are not made. -/
  | stopped {later before : List Entry} {call : Entry} (error : ConnectionError)
      (reached : plan = later ++ call :: before) :
      Carries plan (.error error) (call.failing error :: before)

namespace Carries

variable {plan rest asked : List Entry} {result : Except ConnectionError Unit} {conn : ConnId}

/-- Where a plan stops, a longer plan that begins with it stops. -/
theorem append (carries : Carries plan (.error error) asked) :
    Carries (rest ++ plan) (.error error) asked := by
  cases carries with
  | stopped error reached =>
    apply stopped
    rw [reached, ← List.append_assoc]

/-- A plan goes on from where another one is done. -/
theorem after (carries : Carries rest result asked) : Carries (rest ++ plan) result
    (asked ++ plan) := by
  cases carries with
  | done => exact done
  | stopped error reached =>
    rw [List.cons_append]
    apply stopped
    rw [reached, List.append_assoc, List.cons_append]

/-- Whatever is asked in the course of a plan, it does not end the connection. -/
theorem examines (carries : Carries plan result asked)
    (obeys : ∀ entry ∈ plan, entry.Obeys conn) : ∀ entry ∈ asked, entry.Examines conn := by
  cases carries with
  | done => exact fun entry listed => (obeys entry listed).examines
  | @stopped later before call error reached =>
    have all := obeys
    rw [reached, List.forall_mem_append, List.forall_mem_cons] at all
    obtain ⟨-, last, early⟩ := all
    exact List.forall_mem_cons.2
      ⟨last.examines_failing error, fun entry listed => (early entry listed).examines⟩

/-- A plan is done exactly if nothing that is asked fails. -/
theorem done_iff (carries : Carries plan result asked)
    (obeys : ∀ entry ∈ plan, entry.Obeys conn) :
    result = .ok () ↔ ∀ entry ∈ asked, entry.isFailure = false := by
  cases carries with
  | done => exact ⟨fun _ entry listed => (obeys entry listed).isFailure, fun _ => rfl⟩
  | @stopped later before call error reached =>
    have last : call.Obeys conn := obeys call (by simp [reached])
    constructor
    · intro succeeds
      cases succeeds
    · intro all
      have granted := all _ List.mem_cons_self
      rw [last.isFailure_failing error] at granted
      cases granted

end Carries

/-- The plan for a new connection asks for everything but its end. -/
theorem DataSource.obeys_setup (source : DataSource) (conn : ConnId) (current : Bool) :
    ∀ entry ∈ source.setup conn current, entry.Obeys conn := by
  intro entry listed
  simp only [setup, List.mem_append, List.mem_map, List.mem_flatMap, List.mem_singleton] at listed
  rcases listed with (⟨level, -, rfl⟩ | ⟨wanted, -, change | rfl⟩) | ⟨timeout, -, rfl⟩
  · exact .call Request.noConfusion _
  · split at change
    · cases change
    · cases List.mem_singleton.1 change
      exact .call Request.noConfusion _
  · exact .call Request.noConfusion _
  · exact .call Request.noConfusion _

/-! ## Exchanges that carry out a plan -/

namespace Exchange

variable {σ : Type}

/-- Performed in `env`, the work carries out the plan as far as it gets, and the driver hears of
nothing else. -/
def CarriesOut (work : Exchange σ Unit) (plan : List Entry) (env : Environment σ) : Prop :=
  ∃ asked, Carries plan (work.perform env).1 asked ∧ env.Hears asked (work.perform env).2

theorem carriesOut_pure (env : Environment σ) : (pure () : Exchange σ Unit).CarriesOut [] env :=
  ⟨[], .done, rfl⟩

/-- The second part of an exchange goes on with the plan where the first part is done with its
own. -/
theorem CarriesOut.bind {work : Exchange σ Unit} {next : Unit → Exchange σ Unit}
    {plan rest : List Entry} {env : Environment σ} (first : work.CarriesOut plan env)
    (second : (next ()).CarriesOut rest (work.perform env).2) :
    (work >>= next).CarriesOut (rest ++ plan) env := by
  obtain ⟨asked, carries, hears⟩ := first
  unfold CarriesOut
  rw [perform_bind]
  cases run : work.perform env with
  | mk outcome mid =>
    rw [run] at carries hears second
    cases outcome with
    | error error => exact ⟨asked, carries.append, hears⟩
    | ok _ =>
      cases carries with
      | done =>
        obtain ⟨late, goesOn, rests⟩ := second
        exact ⟨late ++ plan, goesOn.after, hears.trans rests⟩

/-- One request is a plan of its own. -/
theorem carriesOut_of_hears {work : Exchange σ Unit} {env : Environment σ}
    (entry : Except ConnectionError Unit → Entry)
    (fails : ∀ error, (entry (.ok ())).failing error = entry (.error error))
    (hears : env.Hears [entry (work.perform env).1] (work.perform env).2) :
    work.CarriesOut [entry (.ok ())] env := by
  refine ⟨_, ?_, hears⟩
  cases (work.perform env).1 with
  | ok _ => exact .done
  | error error =>
    rw [← fails]
    exact .stopped error (List.nil_append _).symm

end Exchange

namespace DataSource

open Exchange

variable {σ : Type} [Driver σ] (source : DataSource) (conn : ConnId)

theorem carriesOut_applyNetworkTimeout (env : Environment σ) :
    (source.applyNetworkTimeout conn).CarriesOut (source.networkTimeout.toList.map fun timeout =>
      .call .pool conn (.setNetworkTimeout timeout) (.ok ())) env := by
  unfold applyNetworkTimeout
  cases source.networkTimeout with
  | none => exact carriesOut_pure env
  | some timeout =>
    exact carriesOut_of_hears (.call .pool conn (.setNetworkTimeout timeout))
      (fun _ => rfl) (hears_ask conn _ env)

theorem carriesOut_applyIsolation (env : Environment σ) :
    (source.applyIsolation conn).CarriesOut (source.isolation.toList.map fun level =>
      .call .pool conn (.setIsolation level) (.ok ())) env := by
  unfold applyIsolation
  cases source.isolation with
  | none => exact carriesOut_pure env
  | some level =>
    exact carriesOut_of_hears (.call .pool conn (.setIsolation level))
      (fun _ => rfl) (hears_ask conn _ env)

/-- What is planned after the auto-commit mode was asked for depends on the answer. -/
theorem exists_carriesOut_applyAutoCommit (env : Environment σ) :
    ∃ current, (source.applyAutoCommit conn).CarriesOut
      (source.autoCommit.toList.flatMap fun wanted =>
        (if current = wanted then [] else [.call .pool conn (.setAutoCommit wanted) (.ok ())]) ++
          [.call .pool conn .autoCommit (.ok current)]) env := by
  unfold applyAutoCommit
  cases source.autoCommit with
  | none => exact ⟨true, carriesOut_pure env⟩
  | some wanted =>
    simp only [Option.toList_some, List.flatMap_singleton]
    have first := hears_ask conn .autoCommit env
    cases run : (ask conn .autoCommit).perform env with
    | mk answer mid =>
      rw [run] at first
      cases answer with
      | error error =>
        -- The plan stops at the question, so it does not matter which answer was planned for.
        refine ⟨wanted, [.call .pool conn .autoCommit (.error error)], ?_, ?_⟩
        · rw [perform_bind, run, if_pos rfl]
          exact .stopped error (List.nil_append _).symm
        · rw [perform_bind, run]
          exact first
      | ok current =>
        refine ⟨current, ?_⟩
        unfold CarriesOut
        rw [perform_bind_ok run]
        by_cases same : current = wanted
        · rw [if_pos same, if_pos same]
          exact ⟨_, .done, first⟩
        · rw [if_neg same, if_neg same]
          obtain ⟨asked, carries, second⟩ :=
            carriesOut_of_hears (.call .pool conn (.setAutoCommit wanted))
              (fun _ => rfl) (hears_ask conn _ mid)
          exact ⟨_, carries.after, first.trans second⟩

/-- A new connection is set up as planned. -/
theorem exists_carriesOut_configure (env : Environment σ) :
    ∃ current, (source.configure conn).CarriesOut (source.setup conn current) env := by
  obtain ⟨current, mode⟩ := source.exists_carriesOut_applyAutoCommit conn
    ((source.applyNetworkTimeout conn).perform env).2
  refine ⟨current, ?_⟩
  have level : (source.applyAutoCommit conn >>= fun _ =>
      source.applyIsolation conn).CarriesOut _ _ :=
    mode.bind (source.carriesOut_applyIsolation conn _)
  exact (source.carriesOut_applyNetworkTimeout conn env).bind level

end DataSource

/-! ## Opening a connection -/

variable {σ : Type}

/-- What the driver has heard in between is determined by what it has heard before and after. -/
theorem Environment.Hears.unique {first second : List Entry} {before after : Environment σ}
    (one : before.Hears first after) (other : before.Hears second after) : first = second :=
  List.append_cancel_right (one.symm.trans other)

namespace DataSource

/-- What the data source asks the driver for. -/
def request (source : DataSource) (who : Credentials) : ConnectRequest :=
  ⟨source.url, who, source.properties⟩

/-- How a connection is opened in `env` under the credentials `who`, with the result that this
comes to. In what the driver hears the latest request comes first. -/
inductive Opening (source : DataSource) (who : Credentials) (env : Environment σ) :
    Except ConnectionError ConnId → Environment σ → Prop
  /-- The driver opens the next connection, and it gets all its defaults. -/
  | opened {current : Bool} {after : Environment σ}
      (hears : env.Hears (source.setup env.opened current ++
        [.connect (source.request who) (.ok env.opened)]) after) :
      Opening source who env (.ok env.opened) after
  /-- The driver opens the next connection, and it does not get all its defaults. It is closed,
  whatever the answer is, and the result is why it did not get them. -/
  | unconfigured {current : Bool} {error : ConnectionError} {asked : List Entry}
      {answer : Except ConnectionError Unit} {after : Environment σ}
      (carries : Carries (source.setup env.opened current) (.error error) asked)
      (hears : env.Hears (.call .pool env.opened .close answer :: asked ++
        [.connect (source.request who) (.ok env.opened)]) after) :
      Opening source who env (.error error) after
  /-- The driver opens none, and is asked nothing more. -/
  | refused {error : ConnectionError} {after : Environment σ}
      (hears : env.Hears [.connect (source.request who) (.error error)] after) :
      Opening source who env (.error error) after

variable [Driver σ]

/-- The driver hears that it is asked for a connection. -/
theorem hears_connect (request : ConnectRequest) (env : Environment σ) :
    env.Hears [.connect request ((Exchange.connect request).perform env).1]
      ((Exchange.connect request).perform env).2 := by
  unfold Exchange.connect Exchange.perform
  dsimp only
  cases (Driver.connect env.driver env.opened request).outcome with
  | ok _ => rfl
  | error error => rfl

/-- Every connection is opened in this way. -/
theorem opening_connect (source : DataSource) (who : Credentials) (env : Environment σ) :
    source.Opening who env ((source.connect who).perform env).1
      ((source.connect who).perform env).2 := by
  have first := hears_connect ⟨source.url, who, source.properties⟩ env
  unfold connect
  rw [Exchange.perform_bind]
  rcases perform_connect ⟨source.url, who, source.properties⟩ env with
    ⟨mid, made, -⟩ | ⟨error, mid, failed, -⟩
  · rw [made] at first ⊢
    dsimp only at first ⊢
    obtain ⟨current, asked, carries, hears⟩ := source.exists_carriesOut_configure env.opened mid
    rw [Exchange.perform_bind, Exchange.perform_attempt]
    cases run : (source.configure env.opened).perform mid with
    | mk outcome ready =>
      rw [run] at carries hears
      cases outcome with
      | ok _ =>
        cases carries with
        | done => exact .opened (first.trans hears)
      | error error =>
        have closes := Exchange.hears_orComplain
          (Exchange.hears_ask env.opened .close
            (ready.write (.event (.configureFailed source.url error))))
          (.unconfiguredCloseFailed source.url)
        obtain ⟨after, closed⟩ := Exchange.exists_perform_orComplain
          (Exchange.ask env.opened .close) (.unconfiguredCloseFailed source.url)
          (ready.write (.event (.configureFailed source.url error)))
        rw [closed] at closes
        dsimp only
        rw [Exchange.perform_bind_ok (Exchange.perform_note _ _), Exchange.perform_bind_ok closed,
          Exchange.perform_throw]
        exact .unconfigured carries (((first.trans hears).event _).trans closes)
  · rw [failed] at first ⊢
    exact .refused first

/-- Opening a connection in `env` yields all of it or nothing. Here `result` and `after` are what
it comes to. -/
structure AllOrNothing (source : DataSource) (who : Credentials) (env : Environment σ)
    (result : Except ConnectionError ConnId) (after : Environment σ) : Prop where
  /-- What the driver is asked, one request after the other. -/
  opening : source.Opening who env result after
  /-- It succeeds exactly if nothing fails that is asked, the close apart. -/
  succeeds_iff : ∀ asked, env.Hears asked after →
    ((∃ conn, result = .ok conn) ↔
      ∀ entry ∈ asked, entry.closes env.opened = false → entry.isFailure = false)
  /-- If it succeeds, there is one more connection, and none was closed. -/
  opens : ∀ conn, result = .ok conn → env.Opens after
  /-- If it fails, there was no new connection, or there was one and it was closed once. -/
  refuses : ∀ error, result = .error error → env.Refuses after

theorem allOrNothing_connect (source : DataSource) (who : Credentials) (env : Environment σ) :
    source.AllOrNothing who env ((source.connect who).perform env).1
      ((source.connect who).perform env).2 := by
  have opening := source.opening_connect who env
  have ends := source.connect_cases who env
  generalize (source.connect who).perform env = done at opening ends
  obtain ⟨result, after⟩ := done
  constructor
  case opening => exact opening
  case succeeds_iff =>
    intro heard hears
    cases opening with
    | opened told =>
      obtain rfl := hears.unique told
      refine ⟨fun _ entry listed _ => ?_, fun _ => ⟨_, rfl⟩⟩
      rcases List.mem_append.1 listed with later | first
      · exact (source.obeys_setup _ _ entry later).isFailure
      · cases List.mem_singleton.1 first
        rfl
    | unconfigured carries told =>
      obtain rfl := hears.unique told
      -- No request of the plan is a close, so the one that failed counts.
      have examines := carries.examines (source.obeys_setup _ _)
      constructor
      · rintro ⟨conn, ⟨⟩⟩
      · intro all
        have granted := (carries.done_iff (source.obeys_setup _ _)).2 fun entry listed =>
          all entry (by simp [listed]) ((examines entry listed).closes _)
        cases granted
    | refused told =>
      obtain rfl := hears.unique told
      constructor
      · rintro ⟨conn, ⟨⟩⟩
      · intro all
        cases all _ List.mem_cons_self rfl
  case opens =>
    rintro conn ⟨⟩
    rcases ends with ⟨other, same, opens⟩ | ⟨error, other, same, -⟩
    · cases same
      exact opens
    · cases same
  case refuses =>
    rintro error ⟨⟩
    rcases ends with ⟨other, same, -⟩ | ⟨error, other, same, refuses⟩
    · cases same
    · cases same
      exact refuses

end DataSource

/-! ## Opening for a call -/

variable [Driver σ]

namespace Pool

variable {settings : Settings} {acquisition : Acquisition} {budget : Nat}
  {pool found after : Pool σ} {progress : Progress} {error : ConnectionError}
  {env : Environment σ}

/-- A search of this pool has to open a connection for `who`, and that fails. -/
structure FailsToOpen (settings : Settings) (who : Credentials) (error : ConnectionError)
    (env : Environment σ) (pool : Pool σ) : Prop where
  /-- None is idle, and there is room for one more. -/
  may : pool.mayOpen settings.policy = true
  /-- The data source does not yield one. -/
  connect : (settings.source.connect who).perform pool.env = (.error error, env)

/-- The search fails with it. -/
theorem FailsToOpen.search {who : Credentials}
    (fails : pool.FailsToOpen settings who error env) :
    pool.nextCandidate settings who =
      (.error (.connectFailure settings.source.url error), { pool with env := env }) := by
  obtain ⟨idle, room⟩ := mayOpen_iff.1 fails.may
  unfold nextCandidate
  split
  · rename_i listed
    rw [idle] at listed
    cases listed
  · rw [if_pos room]
    unfold openFresh
    rw [fails.connect]

/-- How an acquisition ends in whose search `found` opening fails: with that search, and with the
pool as it was. All searches before it have rejected a candidate. -/
structure EndsOpening (settings : Settings) (who : Credentials) (error : ConnectionError)
    (env : Environment σ) (found : Pool σ) (progress : Progress) (searches : List (Pool σ))
    (after : Pool σ) : Prop where
  progress : progress = .failed (.connectFailure settings.source.url error)
  pool : after = { found with env := env }
  last : ∃ earlier, searches = earlier ++ [found] ∧
    ∀ before ∈ earlier, before.rejects settings who = true

/-- Where opening fails, the acquisition ends. -/
theorem Acquires.of_failsToOpen
    (acquires : Acquires settings acquisition budget pool progress after)
    (listed : found ∈ pool.searches settings acquisition budget)
    (fails : found.FailsToOpen settings acquisition.who error env) :
    EndsOpening settings acquisition.who error env found progress
      (pool.searches settings acquisition budget) after := by
  induction acquires with
  | @failed acquisition budget pool after cause search =>
    rw [searches_of_end budget search rfl] at listed ⊢
    obtain rfl := List.mem_singleton.1 listed
    rw [fails.search] at search
    cases search
    exact ⟨rfl, rfl, [], rfl, by simp⟩
  | @asleep acquisition budget pool waiting search =>
    rw [searches_of_end budget search rfl] at listed
    obtain rfl := List.mem_singleton.1 listed
    rw [fails.search] at search
    cases search
  | @granted acquisition budget pool _ _ _ search vet =>
    rw [searches_of_good budget search vet] at listed
    obtain rfl := List.mem_singleton.1 listed
    rw [fails.search] at search
    cases search
  | gaveUp search vet =>
    rw [searches_of_one_too_many search vet] at listed
    obtain rfl := List.mem_singleton.1 listed
    rw [fails.search] at search
    cases search
  | @again acquisition budget pool _ _ _ _ _ _ search vet _ ih =>
    rw [searches_of_bad budget search vet] at listed ⊢
    rcases List.mem_cons.1 listed with rfl | later
    · rw [fails.search] at search
      cases search
    · obtain ⟨reported, same, earlier, searches, rejected⟩ := ih later fails
      refine ⟨reported, same, pool :: earlier, congrArg (pool :: ·) searches, ?_⟩
      exact List.forall_mem_cons.2 ⟨rejects_of_bad search vet, rejected⟩

/-- An acquisition that reports a connection failure has failed to open one in some search. -/
theorem Acquires.exists_failsToOpen {url : String}
    (acquires : Acquires settings acquisition budget pool progress after) (owns : pool.Owns [])
    (failed : progress = .failed (.connectFailure url error)) :
    url = settings.source.url ∧ ∃ found ∈ pool.searches settings acquisition budget,
      ∃ env, found.FailsToOpen settings acquisition.who error env := by
  induction acquires with
  | @failed acquisition budget pool after cause search =>
    cases failed
    rw [searches_of_end budget search rfl]
    cases owns.search search with
    | refused idle room connect =>
      exact ⟨rfl, pool, List.mem_singleton_self pool, _, mayOpen_iff.2 ⟨idle, room⟩, connect⟩
  | asleep => cases failed
  | granted => cases failed
  | gaveUp => cases failed
  | @again _ budget _ _ _ _ _ _ _ search vet _ ih =>
    obtain ⟨same, found, listed, env, fails⟩ := ih (owns.reject search vet).1 failed
    rw [searches_of_bad budget search vet]
    exact ⟨same, found, List.mem_cons_of_mem _ listed, env, fails⟩

theorem of_failsToOpen (listed : found ∈ pool.lookups settings acquisition)
    (fails : found.FailsToOpen settings acquisition.who error env) :
    EndsOpening settings acquisition.who error env found
      (pool.acquire settings acquisition).1 (pool.lookups settings acquisition)
      (pool.acquire settings acquisition).2 := by
  rcases lookups_cases settings acquisition pool with ⟨none, -⟩ | ⟨searched, acquires⟩
  · rw [none] at listed
    cases listed
  · rw [searched] at listed ⊢
    exact acquires.of_failsToOpen listed fails

theorem Owns.exists_failsToOpen {url : String} (owns : pool.Owns [])
    (failed : (pool.acquire settings acquisition).1 = .failed (.connectFailure url error)) :
    url = settings.source.url ∧ ∃ found ∈ pool.lookups settings acquisition,
      ∃ env, found.FailsToOpen settings acquisition.who error env := by
  rcases lookups_cases settings acquisition pool with ⟨none, refused⟩ | ⟨searched, acquires⟩
  · rw [refused] at failed
    cases waited : acquisition.waited <;> simp [waited] at failed
  · rw [searched]
    exact acquires.exists_failsToOpen owns failed

theorem lastRealId_forceCloseAll (source : DataSource) (pool : Pool σ) :
    (pool.forceCloseAll source).lastRealId = pool.lastRealId :=
  foldl_forceClose_lastRealId _ _

end Pool

namespace World

variable {step : Step σ} {world : World σ} {ticket : Ticket} {acquisition : Acquisition}

/-- What a step comes to in which the call `ticket` works, when opening fails in its search
`found` and leaves the surroundings `env`. -/
structure FailsOpening (step : Step σ) (world : World σ) (ticket : Ticket) (found : Pool σ)
    (error : ConnectionError) (env : Environment σ) : Prop where
  /-- The call reports the url that is in force and the error of the data source. -/
  reported : (world.take step).finished =
    (ticket, .error (.connectFailure world.settings.source.url error)) :: world.finished
  /-- It lets go of the pool as the search had found it: no list, no wrapper and no counter has
  changed. -/
  parted : world.parted step = { found with env := env }
  /-- No number was used up for the connection, and the totals are what the search had found. -/
  lastRealId : (world.take step).pool.lastRealId = found.lastRealId
  counters : (world.take step).pool.counters = found.counters
  /-- The search is the last one. Each of the searches before it has rejected a candidate, and by
  that the count of bad connections has grown: the connection that could not be opened does not
  count. -/
  last : ∃ earlier, world.searches step = earlier ++ [found] ∧
    (∀ before ∈ earlier, before.rejects world.settings
      ((world.asks step).getD world.settings.source.who) = true) ∧
    (world.take step).pool.counters.badConnections =
      world.pool.counters.badConnections + earlier.length

/-- What holds of the pool that a call lets go of, and is left alone by closing everything by
force, holds of the pool after the step. -/
theorem take_eq_parted_of_call {α : Type} (view : Pool σ → α)
    (forced : ∀ pool, view (pool.forceCloseAll world.settings.source) = view pool)
    (called : world.call step = some (ticket, acquisition)) :
    view (world.take step).pool = view (world.parted step) := by
  rcases pool_take_of_call called with same | ⟨-, ended⟩
  · rw [same]
  · rw [ended, forced]

theorem Reachable.failsOpening {settings : Settings} {driver : σ}
    (reachable : Reachable settings driver world)
    (called : world.call step = some (ticket, acquisition)) {found : Pool σ}
    {error : ConnectionError} {env : Environment σ} (listed : found ∈ world.searches step)
    (fails : found.FailsToOpen world.settings acquisition.who error env) :
    FailsOpening step world ticket found error env := by
  have reports := reachable.lined.reports called (progress_of_call called)
  have searches := searches_of_call called
  rw [searches] at listed
  obtain ⟨reported, pool, earlier, last, rejected⟩ := Pool.of_failsToOpen listed fails
  rw [← parted_of_call called] at pool
  rw [← searches] at last
  constructor
  case reported => exact (reports.failed_iff _).2 reported
  case parted => exact pool
  case lastRealId =>
    rw [take_eq_parted_of_call Pool.lastRealId (Pool.lastRealId_forceCloseAll _) called, pool]
  case counters =>
    rw [take_eq_parted_of_call Pool.counters (fun pool => (pool.forceCloseAll_same _).1) called,
      pool]
  case last =>
    have books := (reachable.sound.books step).badConnections
    have opening : found.rejects world.settings acquisition.who = false :=
      Pool.rejects_of_end fails.search rfl
    have bad : world.rejections step = earlier.length := by
      rw [rejections_of_call called, ← searches, last, List.countP_append,
        List.countP_singleton, opening, List.countP_eq_length.2 rejected]
      rfl
    rw [refusals, returns_of_asks (asks_of_call called), Option.bind_none, Option.elim_none,
      Nat.add_zero, bad] at books
    rw [asks_of_call called]
    exact ⟨earlier, last, rejected, books⟩

theorem Reachable.exists_failsToOpen {settings : Settings} {driver : σ}
    (reachable : Reachable settings driver world)
    (called : world.call step = some (ticket, acquisition)) {url : String}
    {error : ConnectionError} (reported : (world.take step).finished =
      (ticket, .error (.connectFailure url error)) :: world.finished) :
    url = world.settings.source.url ∧ ∃ found ∈ world.searches step, ∃ env,
      found.FailsToOpen world.settings acquisition.who error env := by
  have reports := reachable.lined.reports called (progress_of_call called)
  have owns := (reachable.sound.toOrderly.ready step).owns
  rw [searches_of_call called]
  exact owns.exists_failsToOpen ((reports.failed_iff _).1 reported)

/-- How the call `ticket` that works in a step, with the acquisition `acquisition`, takes it when
a connection cannot be opened. -/
structure MeetsFailure (step : Step σ) (world : World σ) (ticket : Ticket)
    (acquisition : Acquisition) : Prop where
  /-- A search in which opening fails ends the call, and the pool is not touched. -/
  ends : ∀ found ∈ world.searches step, ∀ error env,
    found.FailsToOpen world.settings acquisition.who error env →
      FailsOpening step world ticket found error env
  /-- It reports that a connection could not be opened only after such a search. -/
  reported : ∀ url error, (world.take step).finished =
      (ticket, .error (.connectFailure url error)) :: world.finished →
    url = world.settings.source.url ∧ ∃ found ∈ world.searches step, ∃ env,
      found.FailsToOpen world.settings acquisition.who error env

/-- What it means that opening a connection is all or nothing, whatever a driver with states in
`σ` answers. -/
structure OpensAllOrNothing (σ : Type) [Driver σ] : Prop where
  /-- A data source opens and configures a connection, or leaves nothing open. -/
  connect : ∀ (source : DataSource) (who : Credentials) (env : Environment σ),
    source.AllOrNothing who env ((source.connect who).perform env).1
      ((source.connect who).perform env).2
  /-- In every run, a call for which opening fails ends with the pool untouched and reports that,
  and no other call reports it. -/
  call : ∀ (settings : Settings) (driver : σ) (world : World σ) (step : Step σ) (ticket : Ticket)
    (acquisition : Acquisition), Reachable settings driver world →
    world.call step = some (ticket, acquisition) → MeetsFailure step world ticket acquisition

/-- Opening a connection is all or nothing with every driver. -/
theorem opening_allOrNothing : OpensAllOrNothing σ := by
  constructor
  case connect => exact DataSource.allOrNothing_connect
  case call =>
    intro settings driver world step ticket acquisition reachable called
    constructor
    case ends =>
      exact fun found listed error env fails => reachable.failsOpening called listed fails
    case reported =>
      exact fun url error reported => reachable.exists_failsToOpen called reported

/-- Like `tightSettings`, but every new connection gets an isolation level. -/
def isolatedSettings : Settings :=
  { tightSettings with source := { tightSettings.source with isolation := some .serializable } }

/-- A connection is given back and dies. From now on the driver refuses to set an isolation level
and to close a connection. -/
def strayingSteps : List (Step Simulation.State) :=
  [.act (.acquire none), .act (.drop 0),
    .act (.disturb fun driver =>
      { driver with
        template := { driver.template with
          faults := [(.setIsolation, ⟨.transaction "refused", none⟩), (.close, ⟨.closed, none⟩)] }
        connections := driver.connections.map ({ · with behaviour.dead := true }) })]

/-- The next caller rejects the dead connection. The one that is opened instead cannot be
configured, and that is reported although it cannot be closed either. -/
theorem opening_allOrNothing_straying :
    ∃ (world : World Simulation.State) (acquisition : Acquisition) (found : Pool Simulation.State)
      (env : Environment Simulation.State),
      (World.start isolatedSettings {}).follow strayingSteps = some world ∧
      world.call (.act (.acquire none)) = some (1, acquisition) ∧
      found ∈ world.searches (.act (.acquire none)) ∧
      found.FailsToOpen world.settings acquisition.who (.transaction "refused") env ∧
      FailsOpening (.act (.acquire none)) world 1 found (.transaction "refused") env ∧
      world.settings.source.AllOrNothing acquisition.who found.env
        ((world.settings.source.connect acquisition.who).perform found.env).1
        ((world.settings.source.connect acquisition.who).perform found.env).2 := by
  have run : ((World.start isolatedSettings ({} : Simulation.State)).follow strayingSteps).map
      (fun world => ((world.call (.act (.acquire none))).map Prod.fst,
        decide ((world.take (.act (.acquire none))).finished =
          (1, .error (.connectFailure "db" (.transaction "refused"))) :: world.finished))) =
      some (some 1, true) := by decide +kernel
  obtain ⟨world, follows, seen⟩ := Option.map_eq_some_iff.1 run
  simp only [Prod.mk.injEq, decide_eq_true_eq] at seen
  obtain ⟨works, reported⟩ := seen
  obtain ⟨⟨ticket, acquisition⟩, called, same⟩ := Option.map_eq_some_iff.1 works
  obtain rfl : ticket = 1 := same
  have opens : OpensAllOrNothing Simulation.State := opening_allOrNothing
  have meets := opens.call _ _ world _ 1 acquisition (Reachable.start.follow follows) called
  obtain ⟨-, found, listed, env, fails⟩ := meets.reported _ _ reported
  exact ⟨world, acquisition, found, env, follows, called, listed, fails,
    meets.ends found listed _ env fails, opens.connect _ _ _⟩

end World

end ConnectionPooling
