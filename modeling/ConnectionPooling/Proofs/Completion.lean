/-
# Completed steps

What somebody does may notify sleepers, and time that passes makes deadlines come. A
step is completed when all those sleepers have gone on. In which order they do so is
left open, others may wake among them, and time may pass in between.

The order in which notified sleepers are woken from the front of the queue, and
deadlines are then served, is one such order. Every step that is possible can
therefore be completed.
-/

import ConnectionPooling.Proofs.Run
import ConnectionPooling.World.Waking

namespace ConnectionPooling

/-- Whether the moment has come at which a sleeper wakes by itself. -/
def Sleeper.isDue (now : Instant) (sleeper : Sleeper) : Bool :=
  sleeper.deadline.any fun deadline => decide (deadline ≤ now)

theorem Sleeper.isDue_of_le {now later : Instant} {sleeper : Sleeper} (h : now ≤ later)
    (notDue : sleeper.isDue later = false) : sleeper.isDue now = false := by
  unfold Sleeper.isDue at notDue ⊢
  cases own : sleeper.deadline with
  | none => rfl
  | some deadline =>
    rw [own] at notDue
    exact decide_eq_false fun due => of_decide_eq_false notDue (Nat.le_trans due h)

/-- Whether a signal may notify just the acquisitions `called` among `sleepers`. Any
one sleeper may be the one that is notified. -/
def Signal.Calls (signal : Signal) (sleepers : List Sleeper) (called : List Ticket) : Prop :=
  match signal with
  | .none => called = []
  | .one => (sleepers = [] ∧ called = []) ∨ ∃ sleeper ∈ sleepers, called = [sleeper.ticket]
  | .all => called = sleepers.map Sleeper.ticket

namespace World

variable {σ : Type}

theorem earliestDue_eq_none {bound : Instant} {sleepers : List Sleeper}
    (h : earliestDue bound sleepers = none) :
    ∀ sleeper ∈ sleepers, sleeper.isDue bound = false := by
  induction sleepers with
  | nil => simp
  | cons first rest ih =>
    unfold earliestDue at h
    dsimp only at h
    cases own : first.deadline with
    | none =>
      rw [own] at h
      have later := ih (Option.map_eq_none_iff.1 h)
      exact List.forall_mem_cons.2 ⟨by simp [Sleeper.isDue, own], later⟩
    | some deadline =>
      rw [own] at h
      dsimp only at h
      split at h
      · cases h
      · rename_i notDue
        have none := Option.map_eq_none_iff.1 h
        refine List.forall_mem_cons.2 ⟨?_, ih none⟩
        simpa [Sleeper.isDue, own, none] using notDue

variable [Driver σ]

/-- From a world in which the acquisitions `called` were notified, sleepers wake one
after the other, while time may pass, until every one that was notified, and every one
whose deadline has come, has gone on. -/
inductive Settles : List Ticket → World σ → World σ → Prop
  /-- Nobody has to go on. -/
  | done {called : List Ticket} {world : World σ}
      (quiet : ∀ sleeper ∈ world.sleepers,
        sleeper.ticket ∉ called ∧ sleeper.isDue world.pool.now = false) :
      Settles called world world
  /-- Time passes. -/
  | pass {called : List Ticket} {world after : World σ} (target : Instant)
      (rest : Settles called (world.advanceTo target) after) : Settles called world after
  /-- A sleeper wakes. Whether or not it was notified, it is not any more. -/
  | wake {called : List Ticket} {world after : World σ} {place : Nat} {sleeper : Sleeper}
      (found : world.sleepers[place]? = some sleeper)
      (rest : Settles (called.filter (· ≠ sleeper.ticket)) (world.wakeAt place) after) :
      Settles called world after

/-- Somebody does something, and then all those go on whom it concerns. Only the
acquisitions that end in this step are remembered as finished. -/
def Completes (action : Action σ) (world after : World σ) : Prop :=
  world.permits action = true ∧
    ∃ called, (({ world with finished := [] }).act action).1.Calls
        (({ world with finished := [] }).act action).2.sleepers called ∧
      Settles called (({ world with finished := [] }).act action).2 after

/-- A run of completed steps from a new pool, with the worlds after each of them, the
latest first. -/
inductive Run (settings : Settings) (driver : σ) : World σ → List (World σ) → Prop
  /-- Nothing has happened. -/
  | start : Run settings driver (.start settings driver) []
  /-- One more step was completed. -/
  | step {world after : World σ} {history : List (World σ)} {action : Action σ}
      (run : Run settings driver world history) (completes : Completes action world after) :
      Run settings driver after (after :: history)

/-! ## Completing a step -/

/-- Serving deadlines is one way to go on when nobody is called. -/
theorem settles_serveDeadlines (target : Instant) (world : World σ) :
    Settles [] world (world.serveDeadlines target) := by
  fun_induction World.serveDeadlines target world with
  | case1 world none =>
    refine .done fun sleeper mem => ⟨List.not_mem_nil, ?_⟩
    exact Sleeper.isDue_of_le (Nat.le_max_right _ _) (earliestDue_eq_none none sleeper mem)
  | case2 world place deadline found ih =>
    obtain ⟨-, sleeper, atPlace, -⟩ := earliestDue_some found
    exact .pass deadline (.wake atPlace ih)

/-- Those who were called go on when everybody up to the last of them is woken from
the front of the queue. -/
theorem settles_wakeFront (front back : List Sleeper) {called : List Ticket}
    {world after : World σ} (sleepers : world.sleepers = front ++ back)
    (among : called ⊆ front.map Sleeper.ticket)
    (rest : Settles [] (world.wakeFront front.length) after) : Settles called world after := by
  induction front generalizing called back world with
  | nil =>
    rw [List.map_nil, List.subset_nil] at among
    rw [among]
    exact rest
  | cons first front ih =>
    have found : world.sleepers[0]? = some first := by rw [sleepers]; rfl
    have erased : world.sleepers.eraseIdx 0 = front ++ back := by rw [sleepers]; rfl
    have among' : called.filter (· ≠ first.ticket) ⊆ front.map Sleeper.ticket := by
      intro ticket mem
      obtain ⟨isCalled, different⟩ := List.mem_filter.1 mem
      rcases List.mem_cons.1 (among isCalled) with same | other
      · exact absurd same (by simpa using different)
      · exact other
    have wake : world.wakeAt 0 = { world with sleepers := front ++ back }.resume first := by
      unfold World.wakeAt
      rw [found, ← erased]
    refine .wake found ?_
    rcases (resume_cases first { world with sleepers := front ++ back }).2 with
      gone | ⟨again, later, -⟩
    · exact ih back (wake ▸ gone) among' rest
    · refine ih (back ++ [again]) ?_ among' rest
      rw [wake, later, List.append_assoc]

/-- A step is completed when those notified are woken from the front of the queue and
then all deadlines that have come are served. Every step that is possible can thus be
completed. -/
theorem completes_settle {action : Action σ} {world : World σ}
    (permitted : world.permits action = true) :
    Completes action world
      (((({ world with finished := [] }).act action).2.notify
        (({ world with finished := [] }).act action).1).settle) := by
  refine ⟨permitted, ?_⟩
  generalize (({ world with finished := [] }).act action).2 = acted
  cases (({ world with finished := [] }).act action).1 with
  | none => exact ⟨[], rfl, settles_serveDeadlines _ acted⟩
  | all =>
    refine ⟨_, rfl, settles_wakeFront _ [] (List.append_nil _).symm (List.Subset.refl _) ?_⟩
    exact settles_serveDeadlines _ _
  | one =>
    cases sleepers : acted.sleepers with
    | nil =>
      refine ⟨[], .inl ⟨rfl, rfl⟩, ?_⟩
      have same : acted.notify .one = acted := by
        show acted.wakeAt 0 = acted
        unfold World.wakeAt
        rw [sleepers]
        rfl
      rw [same]
      exact settles_serveDeadlines _ acted
    | cons first rest =>
      refine ⟨[first.ticket], .inr ⟨first, List.mem_cons_self, rfl⟩, ?_⟩
      have front : acted.sleepers = [first] ++ rest := sleepers
      exact settles_wakeFront [first] rest front (List.Subset.refl _) (settles_serveDeadlines _ _)

/-! ## Steps that concern no sleeper -/

/-- Complete steps that notify nobody and after which no deadline has come, one after
the other. -/
def completeQuietly (actions : List (Action σ)) (world : World σ) (history : List (World σ)) :
    Option (World σ × List (World σ)) :=
  match actions with
  | [] => some (world, history)
  | action :: rest =>
      let (signal, after) := ({ world with finished := [] }).act action
      if world.permits action ∧ signal = .none ∧
          ∀ sleeper ∈ after.sleepers, sleeper.isDue after.pool.now = false then
        completeQuietly rest after (after :: history)
      else none

theorem Run.completeQuietly {settings : Settings} {driver : σ} {actions : List (Action σ)}
    {world after : World σ} {history later : List (World σ)}
    (run : Run settings driver world history)
    (done : World.completeQuietly actions world history = some (after, later)) :
    Run settings driver after later := by
  induction actions generalizing world history with
  | nil =>
    cases done
    exact run
  | cons action rest ih =>
    unfold World.completeQuietly at done
    dsimp only at done
    split at done
    · rename_i quiet
      obtain ⟨permitted, nobody, notDue⟩ := quiet
      refine ih (run.step ⟨permitted, [], by rw [nobody]; rfl, .done ?_⟩) done
      exact fun sleeper mem => ⟨List.not_mem_nil, notDue sleeper mem⟩
    · cases done

end World

end ConnectionPooling
