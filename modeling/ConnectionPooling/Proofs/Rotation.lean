/-
# Default credentials that change

A caller who asks for a connection without credentials of its own reads the default ones,
once, and keeps to them for as long as it waits. When the defaults change meanwhile, all
connections are closed, but the caller wakes up and may open one under the credentials
that it read. So a handle need not stand for a connection of the present default user.

What holds is that such connections are the only exceptions. Where all callers ask under
defaults that they read, now or earlier, everything that is held was opened at the present
url and under the present defaults, unless it was opened for a caller whose credentials
were out of date at that moment (`OpenedLate`).
-/

import ConnectionPooling.Proofs.Credentials
import ConnectionPooling.Proofs.Queue
import ConnectionPooling.Proofs.Tenure

namespace ConnectionPooling

variable {σ : Type} [Driver σ]

namespace Pool

variable {errand : Errand σ} {pool after : Pool σ}

theorem Moves.coherent (moves : Moves errand pool after) (coherent : pool.Coherent) :
    after.Coherent := by
  induction moves with
  | refl => exact coherent
  | tail _ move ih => exact move.coherent ih

/-- Whatever is held after some moves was held before, or it was opened for the one who
asks. -/
theorem Moves.slot_cases (moves : Moves errand pool after) (coherent : pool.Coherent)
    {v : WrapperId} {conn : ConnId} (held : after.slot v = some conn) :
    (∃ u, pool.slot u = some conn) ∨
      ∃ who, errand.who = some who ∧ after.env.Made errand.settings.source who conn := by
  induction moves generalizing v with
  | refl => exact .inl ⟨v, held⟩
  | tail earlier move ih =>
    rcases move.slot_cases held with ⟨u, before, -⟩ | ⟨-, new⟩
    · have old := (Moves.coherent earlier coherent).accounts.held_lt ⟨u, before⟩
      refine (ih before).imp_right fun ⟨who, asked, made⟩ => ⟨who, asked, ?_⟩
      exact move.extends.made old made
    · exact .inr new

omit [Driver σ] in
/-- A connection that was opened before and is held later was held all the time. -/
theorem Coherent.isHeld_of_old {P : Entry → Prop} (before : pool.Coherent)
    (later : after.Coherent) (goesOn : pool.env.Extends P after.env) {conn : ConnId}
    (old : conn < pool.env.opened) (held : after.IsHeld conn) : pool.IsHeld conn := by
  by_contra lost
  have closed := before.accounts.closes_lost old lost
  have still := goesOn.closes_le conn
  rw [later.accounts.closes_held held, closed] at still
  exact absurd still (Nat.not_succ_le_zero 0)

end Pool

namespace World

/-! ## Whose defaults they are -/

section

omit [Driver σ]

/-- The credentials that were the defaults in some world of a run, the present ones
first. -/
def defaults (past : List (World σ × Step σ)) (world : World σ) : List Credentials :=
  world.settings.source.who :: past.map fun entry => entry.1.settings.source.who

/-- All callers of a run asked under default credentials, as they were when the caller
read them. That may have been some time before the caller asked. -/
def AsksByDefault : List (World σ × Step σ) → Prop
  | [] => True
  | (world, step) :: past =>
      (∀ who, step = .act (.acquire (some who)) → who ∈ world.defaults past) ∧ AsksByDefault past

end

/-- Callers that name no credentials read the defaults when they ask. -/
theorem AsksByDefault.trail {steps : List (Step σ)} {world : World σ}
    {past : List (World σ × Step σ)} (unnamed : ∀ who, .act (.acquire (some who)) ∉ steps)
    (asked : AsksByDefault past) : AsksByDefault (world.trail steps past) := by
  induction steps generalizing world past with
  | nil => exact asked
  | cons step rest ih =>
    apply ih fun who named => unnamed who (List.mem_cons_of_mem step named)
    exact ⟨fun who named => absurd (named ▸ List.mem_cons_self) (unnamed who), asked⟩

omit [Driver σ] in
theorem GoesOn.who_cases {ticket : Ticket} {acquisition : Acquisition} {world after : World σ}
    (goesOn : GoesOn ticket acquisition world after) {sleeper : Sleeper}
    (sleeps : sleeper ∈ after.sleepers) :
    sleeper ∈ world.sleepers ∨ sleeper.acquisition.who = acquisition.who := by
  cases goesOn with
  | ended sleepers => exact .inl (sleepers ▸ sleeps)
  | asleep sleepers _ who =>
    rw [sleepers] at sleeps
    rcases List.mem_append.1 sleeps with before | last
    · exact .inl before
    · rw [List.mem_singleton.1 last]
      exact .inr who

omit [Driver σ] in
/-- Whoever sleeps after a step slept before it or asks in it. -/
theorem Queues.who_cases {step : Step σ} {world after : World σ}
    (queues : Queues step world after) {sleeper : Sleeper} (sleeps : sleeper ∈ after.sleepers) :
    sleeper ∈ world.sleepers ∨ world.asks step = some sleeper.acquisition.who := by
  cases queues with
  | same _ sleepers => exact .inl (sleepers ▸ sleeps)
  | begun begins own _ _ goesOn =>
    refine (goesOn.who_cases sleeps).imp_right fun same => ?_
    rw [begins, asks, same, own]
  | woken wakes found _ goesOn =>
    rcases goesOn.who_cases sleeps with left | same
    · exact .inl (List.mem_of_mem_eraseIdx left)
    · right
      rw [wakes, asks, found, same]
      rfl

omit [Driver σ] in
/-- Whoever asks in a step does so under credentials that are or were the defaults, if
those who sleep did. -/
theorem asks_mem_defaults {past : List (World σ × Step σ)} {world : World σ} {step : Step σ}
    (asked : AsksByDefault ((world, step) :: past))
    (sleepers : ∀ sleeper ∈ world.sleepers, sleeper.acquisition.who ∈ world.defaults past)
    {who : Credentials} (asks : world.asks step = some who) : who ∈ world.defaults past := by
  unfold World.asks at asks
  split at asks
  case h_1 named =>
    cases asks
    cases named with
    | none => exact List.mem_cons_self
    | some who => exact asked.1 who rfl
  case h_2 place =>
    obtain ⟨sleeper, found, rfl⟩ := Option.map_eq_some_iff.1 asks
    exact sleepers sleeper (List.mem_of_getElem? found)
  case h_3 => cases asks

/-- Along a run of callers who read the defaults, all who sleep ask under credentials that
are or were the defaults. -/
theorem Leads.sleepers_mem_defaults {settings : Settings} {driver : σ} {world : World σ}
    {past : List (World σ × Step σ)} (leads : (World.start settings driver).Leads past world)
    (asked : AsksByDefault past) :
    ∀ sleeper ∈ world.sleepers, sleeper.acquisition.who ∈ world.defaults past := by
  induction leads with
  | refl => simp [World.start]
  | step earlier step _ ih =>
    intro sleeper sleeps
    have queues := (earlier.reachable .start).sound.queues step
    have before := ih asked.2
    apply List.mem_cons_of_mem
    rcases queues.who_cases sleeps with old | asks
    · exact before sleeper old
    · exact asks_mem_defaults asked before asks

/-! ## What is held -/

/-- A step of the run opened the connection for somebody who asked under credentials that
were the defaults no more. -/
def OpenedLate (past : List (World σ × Step σ)) (who : Credentials) (conn : ConnId) : Prop :=
  ∃ mid step, (mid, step) ∈ past ∧ mid.asks step = some who ∧ who ≠ mid.settings.source.who ∧
    mid.pool.env.opened ≤ conn ∧ conn < (mid.take step).pool.env.opened

theorem OpenedLate.cons {past : List (World σ × Step σ)} {who : Credentials} {conn : ConnId}
    (late : OpenedLate past who conn) (last : World σ × Step σ) :
    OpenedLate (last :: past) who conn := by
  obtain ⟨mid, step, listed, rest⟩ := late
  exact ⟨mid, step, List.mem_cons_of_mem _ listed, rest⟩

/-- The connection was opened where the data source points to, under the present
defaults, or under earlier ones for somebody who had read them before they changed. -/
def OpenedByDefault (past : List (World σ × Step σ)) (conn : ConnId) (world : World σ) :
    Prop :=
  ∃ who ∈ world.defaults past, world.OpenedUnder who conn ∧
    (who = world.settings.source.who ∨ OpenedLate past who conn)

/-- A connection that was opened by default remains one in a step that changes neither the url
nor the defaults. -/
theorem OpenedByDefault.step {past : List (World σ × Step σ)} {conn : ConnId} {world : World σ}
    (byDefault : world.OpenedByDefault past conn) {step : Step σ}
    (goesOn : world.pool.env.Extends (world.errand step).Lets (world.take step).pool.env)
    (source : (world.take step).settings.source = world.settings.source)
    (old : conn < world.pool.env.opened) :
    (world.take step).OpenedByDefault ((world, step) :: past) conn := by
  obtain ⟨who, listed, ⟨request, origin, url, asked⟩, own⟩ := byDefault
  refine ⟨who, List.mem_cons_of_mem _ listed, ⟨request, ?_, ?_, asked⟩, ?_⟩
  · exact (goesOn.origin old).trans origin
  · rw [source]
    exact url
  · rw [source]
    exact own.imp_right fun late => late.cons (world, step)

/-- Along a run of callers who read the defaults, all that is held was opened by
default. -/
theorem Leads.openedByDefault {settings : Settings} {driver : σ} {world : World σ}
    {past : List (World σ × Step σ)} (leads : (World.start settings driver).Leads past world)
    (asked : AsksByDefault past) {w : WrapperId} {conn : ConnId}
    (held : world.pool.slot w = some conn) : world.OpenedByDefault past conn := by
  induction leads generalizing w with
  | refl => simp [World.start, Pool.slot] at held
  | @step past world earlier step allowed ih =>
    have sound := (earlier.reachable .start).sound
    have later := (sound.take allowed).owns.toCoherent
    cases sound.turn step with
    | drained _ drains => exact absurd held (drains.slot_ne w conn)
    | moved moves source =>
      -- What was opened before was held before; what is new was opened for the one who asks.
      by_cases old : conn < world.pool.env.opened
      · obtain ⟨u, before⟩ := sound.owns.isHeld_of_old later moves.extends old ⟨w, held⟩
        have byDefault := ih asked.2 before
        exact byDefault.step moves.extends source old
      · rcases moves.slot_cases sound.owns.toCoherent held with ⟨u, before⟩ | ⟨who, asks, made⟩
        · exact absurd (sound.owns.accounts.held_lt ⟨u, before⟩) old
        · have sleepers := earlier.sleepers_mem_defaults asked.2
          have listed := asks_mem_defaults asked sleepers asks
          have opened : (world.take step).OpenedUnder who conn :=
            ⟨_, made.origin, congrArg DataSource.url source.symm, rfl⟩
          refine ⟨who, List.mem_cons_of_mem _ listed, opened, ?_⟩
          by_cases present : who = world.settings.source.who
          · exact .inl (source ▸ present)
          · exact .inr ⟨world, step, List.mem_cons_self, asks, present, Nat.le_of_not_lt old,
              later.accounts.held_lt ⟨w, held⟩⟩

/-! ## What callers get -/

/-- Every handle that the step issues stands for a connection that was opened where the
data source points to, under the credentials that are the defaults then. -/
def IssuesFresh (world : World σ) (step : Step σ) : Prop :=
  ∀ h, world.handles.size ≤ h → h < (world.take step).handles.size →
    ∃ conn, (world.take step).reach h = some conn ∧
      (world.take step).OpenedUnder (world.take step).settings.source.who conn

/-- Callers get connections of the default user, or of an earlier one whose connection
was opened late. -/
structure FollowsDefaults (past : List (World σ × Step σ)) (world : World σ) : Prop where
  /-- Every handle that a step issues stands for a connection that was opened by
  default. -/
  issued : ∀ step, world.allows step = true → AsksByDefault ((world, step) :: past) →
    ∀ h, world.handles.size ≤ h → h < (world.take step).handles.size →
      ∃ conn, (world.take step).reach h = some conn ∧
        (world.take step).OpenedByDefault ((world, step) :: past) conn
  /-- The connection for which a handle stands was opened by default, as long as it stands for
  one. -/
  reached : ∀ h conn, world.reach h = some conn → world.OpenedByDefault past conn

omit [Driver σ] in
theorem exists_slot_of_reach {world : World σ} {h : HandleId} {conn : ConnId}
    (reach : world.reach h = some conn) : ∃ w, world.pool.slot w = some conn := by
  obtain ⟨w, -, found⟩ := reach_eq_some.1 reach
  exact ⟨w, Pool.slot_of_reach found⟩

/-- If all callers of a run asked under default credentials, then every handle, when it
is issued and as long as it stands for a connection, stands for one that was opened at
the present url: under the present defaults, or under earlier ones for somebody who had
read them before they changed. -/
theorem followsDefaults_of_leads {settings : Settings} {driver : σ} {world : World σ}
    {past : List (World σ × Step σ)} (leads : (World.start settings driver).Leads past world)
    (asked : AsksByDefault past) : world.FollowsDefaults past where
  issued step allowed asks h new issued := by
    have sound := (leads.reachable .start).sound
    obtain ⟨-, conn, reach, -⟩ := sound.exists_reach_issued allowed new issued
    obtain ⟨w, held⟩ := exists_slot_of_reach reach
    have later := leads.step step allowed
    exact ⟨conn, reach, later.openedByDefault asks held⟩
  reached h conn reach := by
    obtain ⟨w, held⟩ := exists_slot_of_reach reach
    exact leads.openedByDefault asked held

/-! ## A user that is replaced -/

/-- The second of two callers has to sleep. Meanwhile the default user is replaced, so
that all connections are closed. -/
def replacingSteps : List (Step Simulation.State) :=
  [.act (.acquire none), .act (.acquire none), .act (.change (.user (some "bob")))]

/-- The run that these steps make up. -/
def replacingPast : List (World Simulation.State × Step Simulation.State) :=
  (World.start singleSettings {}).trail replacingSteps []

/-- What the steps come to: when the second caller wakes up, it gets a connection that is
opened for the user that was replaced. -/
theorem exists_replaced : ∃ world,
    (World.start singleSettings {}).follow replacingSteps = some world ∧
    world.allows (.wake 0) = true ∧ world.handles.size = 1 ∧
    (world.take (.wake 0)).handles.size = 2 ∧ (world.take (.wake 0)).reach 1 = some 1 ∧
    (world.take (.wake 0)).pool.env.origin 1 = some ⟨"db", {}, {}⟩ ∧
    (world.take (.wake 0)).settings.source =
      { singleSettings.source with who := ⟨some "bob", none⟩ } := by
  have run : ((World.start singleSettings ({} : Simulation.State)).follow replacingSteps).any
      (fun world => world.allows (.wake 0) && world.handles.size = 1 &&
        (world.take (.wake 0)).handles.size = 2 && (world.take (.wake 0)).reach 1 = some 1 &&
        (world.take (.wake 0)).pool.env.origin 1 = some ⟨"db", {}, {}⟩ &&
        (world.take (.wake 0)).settings.source =
          { singleSettings.source with who := ⟨some "bob", none⟩ }) = true := by
    decide +kernel
  obtain ⟨world, found, seen⟩ := (Option.any_eq_true _ _).1 run
  simp only [Bool.and_eq_true, decide_eq_true_eq] at seen
  obtain ⟨⟨⟨⟨⟨allowed, before⟩, after⟩, reach⟩, origin⟩, source⟩ := seen
  exact ⟨world, found, allowed, before, after, reach, origin, source⟩

/-- In the run `replacingSteps` all callers ask without credentials of their own, and yet the
second one is not given a connection of the new default user. -/
theorem replaced_not_fresh : (∀ who, .act (.acquire (some who)) ∉ replacingSteps) ∧ ∃ world,
    (World.start singleSettings {}).follow replacingSteps = some world ∧
    (World.start singleSettings {}).Leads replacingPast world ∧
    world.allows (.wake 0) = true ∧ ¬ world.IssuesFresh (.wake 0) := by
  refine ⟨by simp [replacingSteps], ?_⟩
  obtain ⟨world, found, allowed, before, after, reach, origin, source⟩ := exists_replaced
  refine ⟨world, found, Leads.refl.follow found, allowed, ?_⟩
  intro fresh
  obtain ⟨conn, reached, request, opened, -, asked⟩ :=
    fresh 1 (Nat.le_of_eq before) (after ▸ Nat.lt_succ_self 1)
  obtain rfl : conn = 1 := Option.some.inj (reached.symm.trans reach)
  obtain rfl := Option.some.inj (opened.symm.trans origin)
  rw [source] at asked
  exact absurd asked (by decide)

/-- The connection that the second caller of `replacingSteps` gets was opened late, for the only
user that was the default before. -/
theorem followsDefaults_replaced : ∃ world,
    (World.start singleSettings {}).follow replacingSteps = some world ∧
    (World.start singleSettings {}).Leads replacingPast world ∧ AsksByDefault replacingPast ∧
    (world.take (.wake 0)).reach 1 = some 1 ∧ (world.take (.wake 0)).OpenedUnder {} 1 ∧
    (world.take (.wake 0)).settings.source.who = ⟨some "bob", none⟩ ∧
    world.FollowsDefaults replacingPast := by
  obtain ⟨world, found, -, -, -, reach, origin, source⟩ := exists_replaced
  have leads : (World.start singleSettings {}).Leads replacingPast world :=
    Leads.refl.follow found
  have asked : AsksByDefault replacingPast :=
    AsksByDefault.trail (by simp [replacingSteps]) trivial
  refine ⟨world, found, leads, asked, reach, ⟨_, origin, ?_, rfl⟩, ?_,
    followsDefaults_of_leads leads asked⟩
  · rw [source]
    rfl
  · rw [source]

end World

end ConnectionPooling
