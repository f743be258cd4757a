/-
# Runs of a world

What can happen to a pool and its callers, one step at a time, and the worlds that
come about in this way from a new pool. A step is something that a caller or the
outside world does, or that a sleeping acquisition wakes up. Which acquisition
wakes, when, and how often is left open, and so is what the driver answers: the
outside world may change the state of the driver between any two steps.
-/

import ConnectionPooling.World.Basic
import ConnectionPooling.Proofs.Journal

namespace ConnectionPooling

/-- What the holder of a connection says to it when it works with it directly. What
is asked next may depend on the answers so far. -/
inductive Dialogue
  | done
  /-- One thing is asked, and the dialogue goes on after the answer. -/
  | ask (request : Request) (next : Except ConnectionError request.Reply → Dialogue)

/-- Hold a dialogue with a connection. -/
def Dialogue.hold {σ : Type} [Driver σ] (conn : ConnId) : Dialogue → Exchange σ Unit
  | .done => pure ()
  | .ask request next =>
      Exchange.attempt (Exchange.call .holder conn request) >>= fun answer =>
        (next answer).hold conn

/-- Whatever its holder says to a connection, it is said by its holder. -/
theorem Dialogue.hold_within {σ : Type} [Driver σ] (dialogue : Dialogue) {conn : ConnId}
    {P : Entry → Prop} (say : ∀ request result, P (.call .holder conn request result)) :
    Exchange.Within P (dialogue.hold conn : Exchange σ Unit) := by
  induction dialogue with
  | done => exact Exchange.within_pure ()
  | ask request next ih => exact (Exchange.within_call (say request)).attempt.bind ih

/-- What a holder says in a dialogue counts as talk. -/
theorem Dialogue.within_hold {σ : Type} [Driver σ] (dialogue : Dialogue) (conn : ConnId) :
    Exchange.Within Entry.IsTalk (dialogue.hold conn : Exchange σ Unit) :=
  dialogue.hold_within (Entry.isTalk_holder conn)

/-- What a caller or the outside world may do. -/
inductive Action (σ : Type)
  /-- Ask for a connection, under given or under the default credentials. -/
  | acquire (who : Option Credentials)
  /-- Use a handle like a connection, closing it included. -/
  | request (h : HandleId) (request : Request)
  /-- Work directly with the physical connection of a handle. -/
  | converse (h : HandleId) (dialogue : Dialogue)
  | drop (h : HandleId)
  | forceCloseAll
  | shutDown
  | change (change : Change)
  | addClone
  | dropClone
  /-- Let time pass until the given moment. -/
  | elapse (target : Instant)
  /-- Change the state of the driver from outside. -/
  | disturb (update : σ → σ)

/-- One step of a run. -/
inductive Step (σ : Type)
  | act (action : Action σ)
  /-- The sleeper at one place of the queue wakes up. -/
  | wake (place : Nat)

namespace World

variable {σ : Type}

/-- Whether a handle is still with its holder, who may have closed it. -/
def hasHandle (world : World σ) (h : HandleId) : Bool :=
  world.handles[h]?.any fun handle => handle.stage != .dropped

/-- Whether there is somebody who can do this: what concerns the pool needs an
owner, and what concerns a handle needs its holder. -/
def permits (world : World σ) : Action σ → Bool
  | .acquire _ | .forceCloseAll | .shutDown | .change _ | .addClone | .dropClone =>
      world.clones != 0
  | .request h _ | .converse h _ | .drop h => world.hasHandle h
  | .elapse _ | .disturb _ => true

/-- Whether a step is possible. A sleeper may wake at any time. -/
def allows (world : World σ) : Step σ → Bool
  | .act action => world.permits action
  | .wake _ => true

variable [Driver σ]

/-- What an action comes to, and whom it notifies. -/
def act (action : Action σ) (world : World σ) : Signal × World σ :=
  match action with
  | .acquire who => (.none, (world.acquire (who.getD world.settings.source.who)).2)
  | .request h request => (world.request h request).2
  | .converse h dialogue => (.none, (world.withConnection h dialogue.hold).2)
  | .drop h => world.drop h
  | .forceCloseAll => world.forceCloseAll
  | .shutDown => world.shutDown
  | .change change => world.reconfigure change
  | .addClone => (.none, world.addClone)
  | .dropClone => (.none, world.dropClone)
  | .elapse target => (.none, world.advanceTo target)
  | .disturb update => (.none, { world with pool.env.driver := update world.pool.env.driver })

/-- The world after a step. -/
def take (step : Step σ) (world : World σ) : World σ :=
  match step with
  | .act action => (world.act action).2
  | .wake place => world.wakeAt place

/-- The worlds that a new pool may come to. -/
inductive Reachable (settings : Settings) (driver : σ) : World σ → Prop
  /-- Nothing has happened. -/
  | start : Reachable settings driver (.start settings driver)
  /-- One more step was taken. -/
  | step {world : World σ} (reachable : Reachable settings driver world) (step : Step σ)
      (allowed : world.allows step = true) : Reachable settings driver (world.take step)

/-- Take one step after the other, as long as they are possible. -/
def follow (steps : List (Step σ)) (world : World σ) : Option (World σ) :=
  match steps with
  | [] => some world
  | step :: rest => if world.allows step then (world.take step).follow rest else none

/-- Following steps from a reachable world leads to a reachable world. -/
theorem Reachable.follow {settings : Settings} {driver : σ} {steps : List (Step σ)}
    {world after : World σ} (reachable : Reachable settings driver world)
    (run : world.follow steps = some after) : Reachable settings driver after := by
  induction steps generalizing world with
  | nil =>
    cases run
    exact reachable
  | cons step rest ih =>
    unfold World.follow at run
    split at run
    · rename_i allowed
      exact ih (reachable.step step allowed) run
    · cases run

end World

end ConnectionPooling
