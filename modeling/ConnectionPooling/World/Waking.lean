/-
# Waking sleepers

When sleeping acquisitions go on: because they are notified, or because their
deadline has come. One runs after the other, each until it is finished or sleeps
again. An acquisition that sleeps again goes to the end of the queue.

Deadlines are served in the order of time until none is left that has come. That
this ends is the main statement here: an acquisition that sleeps again has either
used up some of its tolerance for bad connections, or no time has passed and its
new deadline is later than the one that woke it.
-/

import ConnectionPooling.World.Basic

namespace ConnectionPooling

namespace Pool

variable {σ : Type} [Driver σ]

/-- A search that ends in having to wait has changed nothing. -/
theorem nextCandidate_mustWait {settings : Settings} {who : Credentials} {pool after : Pool σ}
    (h : pool.nextCandidate settings who = (.ok .mustWait, after)) : after = pool := by
  unfold nextCandidate at h
  split at h
  · simp [takeIdle] at h
  · split at h
    · unfold openFresh at h
      split at h <;> simp at h
    · split at h
      · simp at h
      · dsimp only at h
        split at h
        · simpa using h.symm
        · unfold claim at h
          dsimp only at h
          split at h <;> simp at h

/-- An acquisition that falls asleep has not rejected any candidate and no time
has passed, or it has rejected some but not more than its budget. -/
theorem attempt_asleep {settings : Settings} {budget : Nat} :
    ∀ {acquisition asleep : Acquisition} {pool after : Pool σ},
      pool.attempt settings acquisition budget = (.asleep asleep, after) →
        (asleep.rejected = acquisition.rejected ∧ after.now = pool.now) ∨
          (acquisition.rejected < asleep.rejected ∧
            asleep.rejected ≤ acquisition.rejected + budget) := by
  induction budget with
  | zero =>
    intro acquisition asleep pool after h
    unfold attempt at h
    split at h
    · simp at h
    · rename_i candidate next
      cases nextCandidate_mustWait next
      simp only [fallAsleep, Prod.mk.injEq, Progress.asleep.injEq] at h
      obtain ⟨rfl, rfl⟩ := h
      refine .inl ⟨rfl, ?_⟩
      split <;> rfl
    · split at h <;> simp at h
  | succ budget ih =>
    intro acquisition asleep pool after h
    unfold attempt at h
    split at h
    · simp at h
    · rename_i candidate next
      cases nextCandidate_mustWait next
      simp only [fallAsleep, Prod.mk.injEq, Progress.asleep.injEq] at h
      obtain ⟨rfl, rfl⟩ := h
      refine .inl ⟨rfl, ?_⟩
      split <;> rfl
    · split at h
      · simp at h
      · rcases ih h with ⟨same, -⟩ | ⟨more, most⟩
        · right
          simp only at same
          omega
        · right
          simp only at more most
          omega

end Pool

namespace World

variable {σ : Type}

/-- The place and the deadline of the sleeper whose deadline comes first among
those up to `bound`; of equal deadlines, the place nearer to the front. -/
def earliestDue (bound : Instant) : List Sleeper → Option (Nat × Instant)
  | [] => none
  | sleeper :: rest =>
      let later := (earliestDue bound rest).map fun due => (due.1 + 1, due.2)
      match sleeper.deadline with
      | none => later
      | some deadline =>
          if deadline ≤ bound ∧ ∀ due ∈ later, deadline ≤ due.2 then some (0, deadline) else later

/-- What `earliestDue` finds is a place in the queue, the deadline of the
sleeper there, and not later than the bound. -/
theorem earliestDue_some {bound : Instant} {sleepers : List Sleeper} {place : Nat}
    {deadline : Instant} (h : earliestDue bound sleepers = some (place, deadline)) :
    deadline ≤ bound ∧
      ∃ sleeper, sleepers[place]? = some sleeper ∧ sleeper.deadline = some deadline := by
  induction sleepers generalizing place with
  | nil => simp [earliestDue] at h
  | cons first rest ih =>
    have later : ∀ {place}, (earliestDue bound rest).map (fun due => (due.1 + 1, due.2)) =
        some (place, deadline) → deadline ≤ bound ∧ ∃ sleeper,
          (first :: rest)[place]? = some sleeper ∧ sleeper.deadline = some deadline := by
      intro place h
      rw [Option.map_eq_some_iff] at h
      obtain ⟨⟨i, d⟩, found, same⟩ := h
      cases same
      simpa using ih found
    unfold earliestDue at h
    dsimp only at h
    split at h
    · exact later h
    · rename_i own
      split at h
      · rename_i due
        cases h
        exact ⟨due.1, first, rfl, own⟩
      · exact later h

/-- How many bad connections a sleeper may still reject, and one more. -/
def patience (limit : Nat) (sleeper : Sleeper) : Nat :=
  limit + 1 - sleeper.acquisition.rejected

/-- How far a sleeper's deadline lies before `bound`, and one more; nothing if
it lies behind it or there is none. -/
def slack (bound : Instant) (sleeper : Sleeper) : Nat :=
  match sleeper.deadline with
  | none => 0
  | some deadline => bound + 1 - deadline

/-- What the sleepers of a queue weigh together. -/
def total (weight : Sleeper → Nat) : List Sleeper → Nat
  | [] => 0
  | sleeper :: rest => weight sleeper + total weight rest

theorem total_append_singleton (weight : Sleeper → Nat) (sleepers : List Sleeper)
    (last : Sleeper) : total weight (sleepers ++ [last]) = total weight sleepers + weight last := by
  induction sleepers with
  | nil => simp only [List.nil_append, total, Nat.zero_add, Nat.add_zero]
  | cons first rest ih => simp only [List.cons_append, total, ih, Nat.add_assoc]

/-- Taking out the sleeper at one place takes its weight out of the total. -/
theorem total_eraseIdx {weight : Sleeper → Nat} {sleepers : List Sleeper} {place : Nat}
    {sleeper : Sleeper} (h : sleepers[place]? = some sleeper) :
    total weight sleepers = total weight (sleepers.eraseIdx place) + weight sleeper := by
  induction sleepers generalizing place with
  | nil => simp at h
  | cons first rest ih =>
    cases place with
    | zero =>
      obtain rfl : first = sleeper := by simpa using h
      exact Nat.add_comm _ _
    | succ place =>
      rw [List.getElem?_cons_succ] at h
      simp only [List.eraseIdx_cons_succ, total, ih h, Nat.add_assoc]

variable [Driver σ]

/-- Ending an abandoned pool wakes nobody and leaves the settings alone. -/
theorem tearDown_frame (world : World σ) :
    world.tearDown.sleepers = world.sleepers ∧ world.tearDown.settings = world.settings := by
  unfold tearDown
  split <;> exact ⟨rfl, rfl⟩

/-- An abandoned pool has no sleepers, so ending it does not matter to a world
that has some. -/
theorem tearDown_of_sleepers {world : World σ} (h : world.sleepers ≠ []) :
    world.tearDown = world := by
  unfold tearDown isAbandoned
  simp [h]

/-- How a world goes on after a sleeper has left the queue: the sleeper is
gone, or it sleeps again at the end of the queue. In the second case it has used
up some of its patience; or it has kept all of it, no time has passed, and its
deadline is as far away as the policy says. -/
theorem resume_cases (sleeper : Sleeper) (world : World σ) :
    (world.resume sleeper).settings = world.settings ∧
      ((world.resume sleeper).sleepers = world.sleepers ∨
        ∃ again : Sleeper, (world.resume sleeper).sleepers = world.sleepers ++ [again] ∧
          ((again.acquisition.rejected = sleeper.acquisition.rejected ∧
              (world.resume sleeper).pool.now = world.pool.now ∧
              again.deadline = (if world.settings.policy.timeToWait = 0 then none
                else some (world.pool.now + world.settings.policy.timeToWait))) ∨
            (sleeper.acquisition.rejected < again.acquisition.rejected ∧
              again.acquisition.rejected ≤ world.settings.policy.badConnectionLimit))) := by
  unfold resume
  dsimp only
  generalize run : Pool.acquire (σ := σ) world.settings sleeper.acquisition _ = result
  obtain ⟨progress, pool⟩ := result
  refine ⟨by rw [(tearDown_frame _).2]; cases progress <;> rfl, ?_⟩
  cases progress with
  | granted w => left; rw [(tearDown_frame _).1]; rfl
  | failed error => left; rw [(tearDown_frame _).1]; rfl
  | asleep asleep =>
    right
    rw [tearDown_of_sleepers (by simp [record])]
    refine ⟨_, rfl, ?_⟩
    unfold Pool.acquire at run
    split at run
    · simp at run
    · rcases Pool.attempt_asleep run with ⟨same, still⟩ | ⟨more, most⟩
      · left
        have still : pool.now = world.pool.now := still
        refine ⟨same, still, ?_⟩
        simp only [still]
      · right
        refine ⟨more, ?_⟩
        simp only at most ⊢
        omega

/-- The later of two moments does not change when a moment before it is added. -/
theorem max_max_of_le {a b c : Nat} (h : c ≤ max a b) : max a (max b c) = max a b := by
  omega

/-- A moment after a positive time is later than any of two. -/
theorem lt_max_add {a b c : Nat} (h : 0 < c) : b < max a b + c := by
  omega

/-- What is still to be done before no deadline up to `target` is left, as three
numbers of falling weight: the sleepers, the bad connections that they may still
reject, and the time that lies between their deadlines and the end. -/
def pending (target : Instant) (world : World σ) : Nat × Nat × Nat :=
  (world.sleepers.length,
    total (patience world.settings.policy.badConnectionLimit) world.sleepers,
    total (slack (max target world.pool.now)) world.sleepers)

/-- Serving the deadline of a sleeper leaves less to be done. -/
theorem pending_resume {target deadline : Instant} {place : Nat} {sleeper : Sleeper}
    {world ready : World σ} (found : world.sleepers[place]? = some sleeper)
    (own : sleeper.deadline = some deadline) (due : deadline ≤ max target world.pool.now)
    (settings : ready.settings = world.settings)
    (clock : ready.pool.now = max world.pool.now deadline)
    (rest : ready.sleepers = world.sleepers.eraseIdx place) :
    Prod.Lex (· < ·) (Prod.Lex (· < ·) (· < ·))
      ((ready.resume sleeper).pending target) (world.pending target) := by
  have inside : place < world.sleepers.length := (List.getElem?_eq_some_iff.1 found).1
  have shorter := List.length_eraseIdx_of_lt inside
  obtain ⟨kept, cases⟩ := resume_cases sleeper ready
  rw [settings] at kept cases
  rw [rest] at cases
  unfold pending
  rw [kept]
  rcases cases with gone | ⟨again, sleepers, cases⟩
  · apply Prod.Lex.left
    rw [gone]
    omega
  · rw [sleepers]
    apply Prod.Lex.right'
    · simp only [List.length_append, List.length_singleton]
      omega
    · simp only [total_append_singleton, total_eraseIdx found]
      rcases cases with ⟨same, still, next⟩ | ⟨more, most⟩
      · have bound : max target (ready.resume sleeper).pool.now = max target world.pool.now := by
          rw [still, clock]
          exact max_max_of_le due
        rw [bound]
        apply Prod.Lex.right'
        · simp only [patience, same]
          omega
        · have later : slack (max target world.pool.now) again <
              slack (max target world.pool.now) sleeper := by
            unfold slack
            rw [own, next, clock]
            by_cases endless : world.settings.policy.timeToWait = 0
            · rw [if_pos endless]
              exact Nat.sub_pos_of_lt (Nat.lt_succ_of_le due)
            · rw [if_neg endless]
              exact Nat.sub_lt_sub_left (Nat.lt_succ_of_le due)
                (lt_max_add (Nat.pos_of_ne_zero endless))
          omega
      · apply Prod.Lex.left
        simp only [patience]
        omega

/-- Serve all deadlines up to `target`, or up to now if that is later, one after
the other and the earliest first. The clock is moved up to each of them. -/
def serveDeadlines (target : Instant) (world : World σ) : World σ :=
  match _h : earliestDue (max target world.pool.now) world.sleepers with
  | none => world
  | some (place, deadline) => serveDeadlines target ((world.advanceTo deadline).wakeAt place)
termination_by world.pending target
decreasing_by
  obtain ⟨due, sleeper, found, own⟩ := earliestDue_some _h
  have wake : (world.advanceTo deadline).wakeAt place =
      ({ world.advanceTo deadline with sleepers := world.sleepers.eraseIdx place }).resume
        sleeper := by
    unfold wakeAt
    simp only [advanceTo, found]
  rw [wake]
  exact pending_resume found own due rfl rfl rfl

/-- Serve the deadlines that have come. -/
def settle (world : World σ) : World σ :=
  world.serveDeadlines world.pool.now

/-- Let time pass, and serve every deadline at its time. -/
def advance (time : Duration) (world : World σ) : World σ :=
  let target := world.pool.now + time
  (world.serveDeadlines target).advanceTo target

/-- Wake the sleeper in front, so many times. An acquisition that sleeps again
joins the end of the queue, so that as many different ones are woken as there
are in the queue at first. -/
def wakeFront : Nat → World σ → World σ
  | 0, world => world
  | count + 1, world => wakeFront count (world.wakeAt 0)

/-- Pass a notification on to those whom it is for. -/
def notify (signal : Signal) (world : World σ) : World σ :=
  match signal with
  | .none => world
  | .one => world.wakeFront 1
  | .all => world.wakeFront world.sleepers.length

end World

end ConnectionPooling
