/-
# Where the handles are

Every handle that was ever issued is in one of three places: its connection is checked out,
it was not given back but has lost its connection, or it was given back. `Conserves` says
that the total of granted requests is the number of handles in these places together, and
that the total of bad connections is the number of candidates that were rejected and of
connections that were refused when they were given back.

A handle counts as given back once, in the step in which that happens first; in that step
its connection is good and its checkout has a stay, or it is refused. As a claimed checkout
has a stay already, each claim ends in a refusal.
-/

import ConnectionPooling.Proofs.Stays

namespace ConnectionPooling

variable {σ : Type}

namespace World

/-- How many handles were given back. -/
def released (world : World σ) : Nat :=
  world.handles.toList.countP fun handle => handle.stage != .held

/-- How many handles were not given back and are of no use any more. -/
def stale (world : World σ) : Nat :=
  world.handles.toList.countP fun handle =>
    handle.stage == .held && !world.pool.isValid handle.wrapper

/-- The handles whose connections are checked out. -/
def fresh (world : World σ) : List Handle :=
  world.handles.toList.filter fun handle =>
    handle.stage == .held && world.pool.isValid handle.wrapper

/-! ## Places -/

/-- Every handle is in exactly one of the three places. -/
theorem length_fresh_add (world : World σ) :
    world.fresh.length + world.stale + world.released = world.handles.size := by
  unfold fresh stale released
  rw [← Array.length_toList]
  induction world.handles.toList with
  | nil => rfl
  | cons handle rest ih =>
    rw [List.filter_cons, List.countP_cons, List.countP_cons, List.length_cons, ← ih]
    cases held : handle.stage == .held <;> cases world.pool.isValid handle.wrapper <;>
      simp [bne, held] <;> omega

theorem mem_fresh {world : World σ} {handle : Handle} :
    handle ∈ world.fresh ↔ ∃ h : HandleId, world.handles[h]? = some handle ∧ handle.stage = .held ∧
      world.pool.isValid handle.wrapper = true := by
  unfold fresh
  rw [List.mem_filter, List.mem_iff_getElem?, Bool.and_eq_true, beq_iff_eq]
  simp only [Array.getElem?_toList, exists_and_right]

/-- The connections of the first place are the checkouts, one for each handle. -/
theorem Orderly.length_fresh {world : World σ} (orderly : world.Orderly) :
    world.fresh.length = world.pool.active.length := by
  have nodup := orderly.owns.nodup
  rw [List.append_nil] at nodup
  have distinct : (world.handles.toList.map Handle.wrapper).Nodup := by
    rw [List.Nodup, List.pairwise_iff_getElem]
    intro g h inG inH before same
    rw [List.length_map, Array.length_toList] at inG inH
    rw [List.getElem_map, List.getElem_map, Array.getElem_toList, Array.getElem_toList] at same
    have number := orderly.handles.inj (Array.getElem?_eq_getElem inG)
      (Array.getElem?_eq_getElem inH) same
    exact absurd number (Nat.ne_of_lt before)
  have few : (world.fresh.map Handle.wrapper).Nodup :=
    distinct.sublist (List.filter_sublist.map _)
  rw [← List.length_map (f := Handle.wrapper)]
  apply List.Perm.length_eq
  rw [List.perm_ext_iff_of_nodup few nodup.of_append_right]
  intro w
  rw [List.mem_map]
  constructor
  · rintro ⟨handle, listed, rfl⟩
    obtain ⟨h, found, -, valid⟩ := mem_fresh.1 listed
    exact orderly.owns.mem_active valid (orderly.handles.busy found).1
  · intro listed
    obtain ⟨h, handle, found, rfl, held⟩ := orderly.handles.held w listed
    have valid := (orderly.owns.isValid_iff handle.wrapper).2 (by simp [listed])
    exact ⟨handle, mem_fresh.2 ⟨h, found, held, valid⟩, rfl⟩

/-! ## Steps -/

/-- Whether a step gives back a handle that was not given back before. -/
def returned (step : Step σ) (world : World σ) : Nat :=
  (step.returns.bind world.checkout).elim 0 fun _ => 1

/-- A handle that goes into another stage for good counts as given back, once. -/
theorem countP_modify (handles : List Handle) (h : HandleId) {stage : Stage}
    (gone : stage ≠ .held) :
    (handles.modify h ({ · with stage := stage })).countP (fun handle => handle.stage != .held) =
      handles.countP (fun handle => handle.stage != .held) +
        if handles[h]?.any (fun handle => handle.stage == .held) then 1 else 0 := by
  induction handles generalizing h with
  | nil => simp
  | cons handle rest ih =>
    cases h with
    | zero =>
      rw [List.modify_zero_cons, List.countP_cons, List.countP_cons, List.getElem?_cons_zero]
      cases held : handle.stage == .held <;> simp [bne, held, gone]
    | succ h =>
      rw [List.modify_succ_cons, List.countP_cons, List.countP_cons, List.getElem?_cons_succ,
        ih h, Nat.add_right_comm]

variable [Driver σ]

theorem tearDown_handles (world : World σ) : world.tearDown.handles = world.handles := by
  unfold tearDown
  split
  · rfl
  · rfl

/-- An acquisition that goes on issues a handle if it is granted a connection. -/
theorem proceed_handles (ticket : Ticket) (acquisition : Acquisition) (world : World σ) :
    (world.proceed ticket acquisition).handles.toList = world.handles.toList ++
      (world.pool.acquire world.settings acquisition).1.grant.map fun w => { wrapper := w } := by
  unfold World.proceed
  cases (world.pool.acquire world.settings acquisition).1 with
  | granted w => exact Array.toList_push
  | failed error => exact (List.append_nil _).symm
  | asleep again => exact (List.append_nil _).symm

/-- Giving a handle back puts it into its new stage, whether or not it was given back
before. -/
theorem giveBack_handles (world : World σ) (h : HandleId) (stage : Stage) :
    (world.giveBack h stage).2.handles = world.handles.modify h ({ · with stage := stage }) := by
  unfold World.giveBack
  cases found : world.handles[h]? with
  | none =>
    apply Array.ext_getElem?
    intro g
    rw [Array.getElem?_modify]
    by_cases same : h = g
    · rw [if_pos same, ← same, found, Option.map_none]
    · rw [if_neg same]
  | some handle =>
    dsimp only
    split
    · rfl
    · rfl

/-- What becomes of the handles in a step: one of them is given back, or those that are
issued in the step are added. -/
theorem handles_take (world : World σ) (step : Step σ) :
    (∃ h stage, step.returns = some h ∧ stage ≠ .held ∧
      (world.take step).handles = world.handles.modify h ({ · with stage := stage })) ∨
    (step.returns = none ∧ (world.take step).handles.toList = world.handles.toList ++
      ((world.progress step).elim [] Progress.grant).map fun w => { wrapper := w }) := by
  have same {after : World σ} (handles : after.handles = world.handles) :
      after.handles.toList = world.handles.toList ++ [] := by
    rw [handles, List.append_nil]
  cases step with
  | wake place =>
    refine .inr ⟨rfl, ?_⟩
    show (world.wakeAt place).handles.toList = _
    cases found : world.sleepers[place]? with
    | none =>
      have quiet : world.progress (.wake place) = none := by
        simp only [progress, found, Option.map_none]
      unfold World.wakeAt
      rw [found, quiet]
      exact same rfl
    | some sleeper =>
      have under : world.progress (.wake place) = some ((world.roused place sleeper).pool.acquire
          world.settings sleeper.acquisition).1 := by
        simp only [progress, found, Option.map_some]
      rw [wakeAt_eq found, tearDown_handles, proceed_handles, under]
      rfl
  | act action =>
    cases action with
    | acquire who =>
      refine .inr ⟨rfl, ?_⟩
      show (world.acquire (who.getD world.settings.source.who)).2.handles.toList = _
      rw [acquire_eq, proceed_handles]
      rfl
    | request h request =>
      have asked (different : request ≠ .close) :
          (world.request h request).2.2.handles = world.handles := by
        rcases world.request_cases h request with ⟨close, -⟩ | ⟨pool, -, after⟩
        · exact absurd close different
        · rw [after]
      cases request with
      | close => exact .inl ⟨h, .closed, rfl, Stage.noConfusion, world.giveBack_handles h .closed⟩
      | _ => exact .inr ⟨rfl, same (asked Request.noConfusion)⟩
    | converse h dialogue =>
      obtain ⟨pool, -, after⟩ := world.exists_withConnection h dialogue.within_hold
      refine .inr ⟨rfl, same ?_⟩
      show (world.withConnection h dialogue.hold).2.handles = _
      rw [after]
    | drop h =>
      refine .inl ⟨h, .dropped, rfl, Stage.noConfusion, ?_⟩
      show (world.giveBack h .dropped).2.tearDown.handles = _
      rw [tearDown_handles, giveBack_handles]
    | change change =>
      refine .inr ⟨rfl, same ?_⟩
      show (world.reconfigure change).2.handles = _
      unfold World.reconfigure
      dsimp only
      split
      · rfl
      · rfl
    | dropClone => exact .inr ⟨rfl, same (tearDown_handles _)⟩
    | forceCloseAll | shutDown | addClone | elapse | disturb => exact .inr ⟨rfl, same rfl⟩

/-- Each handle that is issued in a step is one that was granted in it. -/
theorem size_take (world : World σ) (step : Step σ) :
    (world.take step).handles.size = world.handles.size + world.grants step := by
  unfold grants
  rcases world.handles_take step with ⟨h, stage, returns, -, handles⟩ | ⟨-, handles⟩
  · rw [progress_of_quiet (asks_of_returns returns), handles, Array.size_modify]
    rfl
  · rw [← Array.length_toList, handles, List.length_append, List.length_map, Array.length_toList]
    cases world.progress step <;> rfl

/-- Each handle that is given back in a step counts as such from then on. -/
theorem released_take (world : World σ) (step : Step σ) :
    (world.take step).released = world.released + world.returned step := by
  unfold released returned
  rcases world.handles_take step with ⟨h, stage, returns, gone, handles⟩ | ⟨none, handles⟩
  · rw [handles, Array.toList_modify, countP_modify _ _ gone, returns, Option.bind_some,
      Array.getElem?_toList]
    unfold checkout
    cases world.handles[h]? with
    | none => rfl
    | some handle =>
      obtain ⟨wrapper, stage⟩ := handle
      cases stage <;> rfl
  · have none_gone : ((((world.progress step).elim [] Progress.grant).map fun w =>
        ({ wrapper := w } : Handle)).countP fun handle => handle.stage != .held) = 0 := by
      rw [List.countP_eq_zero]
      intro handle issued
      obtain ⟨w, -, rfl⟩ := List.mem_map.1 issued
      exact Bool.false_ne_true
    rw [handles, none, List.countP_append, none_gone]
    rfl

/-- A handle that is given back is good, so that its stay ends, or it is refused. -/
theorem returned_eq (world : World σ) (step : Step σ) :
    world.returned step = world.refusals step +
      (world.stays step).countP fun stay => !stay.isClaimed := by
  cases returns : step.returns with
  | some h =>
    rw [stays_of_returns returns]
    unfold returned refusals
    rw [returns, Option.bind_some]
    cases world.checkout h with
    | none => rfl
    | some w =>
      rw [Option.elim_some, Option.elim_some, Option.elim_some]
      unfold Pool.givenBack
      cases world.pool.isGood world.settings.policy w <;> rfl
  | none =>
    have claimed : (world.stays step).countP (fun stay => !stay.isClaimed) = 0 := by
      rw [List.countP_eq_zero]
      intro stay ended
      cases asks : world.asks step with
      | none =>
        unfold stays at ended
        rw [returns, asks] at ended
        cases ended
      | some who =>
        rw [stays_of_asks asks] at ended
        obtain ⟨found, -, taken⟩ := List.mem_flatMap.1 ended
        obtain ⟨w, -, rfl⟩ := Pool.mem_taken.1 taken
        exact Bool.false_ne_true
    rw [claimed]
    unfold returned refusals
    rw [returns]
    rfl

/-! ## Runs -/

section

variable {first last : World σ} {past : List (World σ × Step σ)} (leads : first.Leads past last)

include leads

theorem Leads.size_eq : last.handles.size = first.handles.size + tally grants past := by
  induction leads with
  | refl => rfl
  | step _ step _ ih => rw [size_take, ih, Nat.add_assoc, tally]

theorem Leads.released_eq : last.released = first.released + tally returned past := by
  induction leads with
  | refl => rfl
  | step _ step _ ih => rw [released_take, ih, Nat.add_assoc, tally]

end

theorem tally_returned (past : List (World σ × Step σ)) :
    tally returned past =
      tally refusals past + (ledger past).countP fun stay => !stay.isClaimed := by
  induction past with
  | nil => rfl
  | cons last past ih =>
    obtain ⟨world, step⟩ := last
    unfold tally ledger
    rw [ih, returned_eq, List.countP_append, Nat.add_add_add_comm]

/-- The totals of requests and of bad connections agree with what became of the handles. -/
structure Conserves (past : List (World σ × Step σ)) (world : World σ) : Prop where
  /-- For each request that was granted there is a handle: its connection is checked out, or
  it was not given back and has lost its connection, or it was given back. -/
  requests : world.pool.counters.requests =
    world.pool.active.length + world.stale + world.released
  /-- A handle is given back in one step only. -/
  once : world.released = tally returned past
  /-- A connection counts as bad for each candidate that is rejected, and for each handle
  that is given back without a connection or with one that fails its check. -/
  badConnections :
    world.pool.counters.badConnections = tally rejections past + tally refusals past
  /-- When all handles were given back, nothing is checked out, and each claim was followed
  by a refusal. -/
  none_held : (∀ h, world.checkout h = none) → world.pool.active = [] ∧
    world.pool.counters.overdueClaims ≤ world.pool.counters.badConnections

/-- In every run the totals agree with what became of the handles. -/
theorem conserves_of_leads {settings : Settings} {driver : σ}
    {past : List (World σ × Step σ)} {world : World σ}
    (leads : (World.start settings driver).Leads past world) : Conserves past world := by
  have start := sound_start settings driver
  have sound := leads.sound start
  have books := leads.books start
  have granted : world.pool.counters.requests = world.handles.size :=
    books.requests.trans leads.size_eq.symm
  have requests : world.pool.counters.requests =
      world.pool.active.length + world.stale + world.released := by
    rw [granted, ← world.length_fresh_add, sound.toOrderly.length_fresh]
  have once : world.released = tally returned past :=
    leads.released_eq.trans (Nat.zero_add _)
  have bad : world.pool.counters.badConnections = tally rejections past + tally refusals past :=
    books.badConnections.trans (Nat.zero_add _)
  refine ⟨requests, once, bad, fun none => ?_⟩
  have active : world.pool.active = [] := by
    rw [List.eq_nil_iff_forall_not_mem]
    intro w listed
    obtain ⟨h, out, -⟩ := sound.toOrderly.exists_valid listed
    rw [none h] at out
    cases out
  have stale : world.stale = 0 := by
    unfold stale
    rw [List.countP_eq_zero]
    intro handle listed held
    obtain ⟨h, found⟩ := List.mem_iff_getElem?.1 listed
    rw [Array.getElem?_toList] at found
    have out := checkout_eq_some.2
      ⟨handle, found, eq_of_beq (Bool.and_eq_true_iff.1 held).1, rfl⟩
    rw [none h] at out
    cases out
  have ends : (ledger past).length =
      (Stay.claims (ledger past)).length +
        (ledger past).countP fun stay => !stay.isClaimed := by
    rw [Stay.claims, ← List.countP_eq_length_filter,
      List.length_eq_countP_add_countP Stay.isClaimed]
    simp only [Bool.not_eq_true, Bool.decide_eq_false]
  -- Each handle was given back once, but no more checkouts ended with a stay.
  have places : world.pool.active.length + (ledger past).length ≤ tally grants past :=
    Nat.le_trans books.places (Nat.le_of_eq (Nat.zero_add _))
  have size : world.handles.size = tally grants past := leads.size_eq.trans (Nat.zero_add _)
  have claims : world.pool.counters.overdueClaims = (Stay.claims (ledger past)).length :=
    books.overdueClaims.trans (Nat.zero_add _)
  have balance := tally_returned past
  rw [active, List.length_nil] at requests places
  exact ⟨active, by omega⟩

/-- After all five checkouts have ended, only the handle on the one that was closed by force
and not dropped was not given back. A claimed handle was given back late, another one after
its connection was closed by force, and a third one with a dead connection. -/
theorem conserves_varied : ∃ world,
    (World.start tightSettings {}).follow variedSteps = some world ∧
    world.pool.counters.requests = 5 ∧ world.pool.active = [] ∧ world.stale = 1 ∧
    world.released = 4 ∧ world.pool.counters.badConnections = 3 ∧
    Conserves ((World.start tightSettings {}).trail variedSteps []) world := by
  have run : ((World.start tightSettings ({} : Simulation.State)).follow variedSteps).map
      (fun world => (world.pool.counters.requests, world.pool.active, world.stale,
        world.released, world.pool.counters.badConnections)) = some (5, [], 1, 4, 3) := by
    decide +kernel
  obtain ⟨world, found, seen⟩ := Option.map_eq_some_iff.1 run
  simp only [Prod.mk.injEq] at seen
  obtain ⟨requests, active, stale, released, bad⟩ := seen
  exact ⟨world, found, requests, active, stale, released, bad,
    conserves_of_leads (Leads.refl.follow found)⟩

end World

end ConnectionPooling
