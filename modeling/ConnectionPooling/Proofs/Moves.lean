/-
# What an operation does, move by move

Whatever an operation of the pool comes to, it is made up of a few kinds of moves. A
wrapper is taken out of a list, talked to while it stands in none, and then discarded
or put into a list again; a connection is opened; an overdue checkout is claimed; the
holder of a connection talks to it. `Move` lists these with all that is known at the
moment, so that a law about the pool needs one look at each of them and none at the
operations.

What a move may do depends on what the operation is about, which is its `Errand`: a
connection is opened only if one is asked for, and a checkout comes back only if it is
given back.
-/

import ConnectionPooling.Proofs.Origin
import ConnectionPooling.Proofs.Return
import Mathlib.Logic.Relation

namespace ConnectionPooling

/-- What an operation of the pool is about. -/
structure Errand (σ : Type) where
  /-- What is set about the pool meanwhile. -/
  settings : Settings
  /-- Under which credentials a connection is wanted. -/
  who : Option Credentials := none
  /-- The pools in which a candidate is looked for. -/
  searched : List (Pool σ) := []
  /-- The connection whose holder may speak. -/
  speaks : Option ConnId := none
  /-- The wrapper that is given back. -/
  returned : Option WrapperId := none

namespace Pool

variable {σ α : Type}

variable [Driver σ]

/-- A search under the credentials `who` takes the checkout of the wrapper `w` away. -/
structure Claims (settings : Settings) (who : Credentials) (w : WrapperId)
    (pool : Pool σ) : Prop where
  before : w ∈ pool.active
  after : w ∉ (pool.nextCandidate settings who).2.active

/-- One move of an operation. A wrapper is in hand if it stands in no list. -/
inductive Move (errand : Errand σ) (pool : Pool σ) : Pool σ → Prop
  /-- Time passes, the driver changes from outside, or something is logged. -/
  | look {env : Environment σ} (grows : pool.env.Grows Entry.IsEvent env) :
      Move errand pool { pool with env := env }
  /-- The running totals change. -/
  | count (update : Counters → Counters) : Move errand pool (pool.count update)
  /-- A connection counts as used. -/
  | touch (w : WrapperId) : Move errand pool (pool.touch w)
  /-- The holder of a connection talks to it. -/
  | speak {w : WrapperId} {conn : ConnId} {env : Environment σ}
      (speaks : errand.speaks = some conn) (slot : pool.slot w = some conn)
      (busy : w ∉ pool.idle) (grows : pool.env.Grows (Entry.ByHolder conn) env) :
      Move errand pool { pool with env := env }
  /-- The pool talks to the connection of a wrapper in hand. -/
  | ask {w : WrapperId} {conn : ConnId} {env : Environment σ} (slot : pool.slot w = some conn)
      (inHand : w ∉ pool.idle ++ pool.active) (talks : pool.env.Talks env)
      (grows : pool.env.Grows (Entry.ByPool conn) env) :
      Move errand pool { pool with env := env }
  /-- The connection that has been idle longest is taken in hand. -/
  | takeIdle {w : WrapperId} {rest : List WrapperId} (idle : pool.idle = w :: rest) :
      Move errand pool { pool with idle := rest }
  /-- A connection is opened under the credentials that are asked for. -/
  | opened {who : Credentials} {env : Environment σ} (asked : errand.who = some who)
      (idle : pool.idle = [])
      (connect : (errand.settings.source.connect who).perform pool.env =
        (.ok pool.env.opened, env))
      (opens : pool.env.Opens env) :
      Move errand pool (pool.enrol pool.env.opened env)
  /-- No connection can be opened. -/
  | refused {who : Credentials} {env : Environment σ} {error : ConnectionError}
      (idle : pool.idle = [])
      (connect : (errand.settings.source.connect who).perform pool.env = (.error error, env))
      (refuses : pool.env.Refuses env) :
      Move errand pool { pool with env := env }
  /-- The oldest checkout is claimed: the pool undoes what its holder began, and the
  connection is in hand in a new wrapper. -/
  | claimed {who : Credentials} {w : WrapperId} {rest : List WrapperId} {old : Wrapper}
      {conn : ConnId} {env : Environment σ} (asked : errand.who = some who)
      (searched : pool ∈ errand.searched) (claims : pool.Claims errand.settings who w)
      (idle : pool.idle = []) (active : pool.active = w :: rest)
      (holds : pool.Holds w old conn) (talks : pool.env.Talks env)
      (grows : pool.env.Grows (Entry.ByPool conn) env) :
      Move errand pool { pool.renew w old conn with active := rest, env := env }
  /-- The connection of a wrapper in hand is closed. -/
  | discarded {w : WrapperId} {conn : ConnId} {env : Environment σ}
      (slot : pool.slot w = some conn) (inHand : w ∉ pool.idle ++ pool.active)
      (shuts : pool.env.Shuts conn env) (grows : pool.env.Grows (Entry.ByPool conn) env) :
      Move errand pool (pool.spend w env)
  /-- A clean connection in hand is handed out. -/
  | handedOut {who : Credentials} {w : WrapperId} {conn : ConnId}
      (asked : errand.who = some who) (slot : pool.slot w = some conn)
      (inHand : w ∉ pool.idle ++ pool.active) (clean : pool.env.Clean conn)
      (started : Instant) :
      Move errand pool (pool.handOut (errand.settings.source.fingerprintFor who) started w)
  /-- A checkout is taken in hand when it is given back. -/
  | takenBack {w : WrapperId} (returned : errand.returned = some w) :
      Move errand pool { pool with active := pool.active.erase w }
  /-- A clean connection in hand becomes idle, in a new wrapper: it was checked out
  under the credentials that are expected. -/
  | kept {w : WrapperId} {old : Wrapper} {conn : ConnId} (holds : pool.Holds w old conn)
      (inHand : w ∉ pool.idle ++ pool.active) (clean : pool.env.Clean conn)
      (code : old.fingerprint = some pool.expected) :
      Move errand pool
        { pool.renew w old conn with idle := pool.idle ++ [pool.wrappers.size] }

/-- Any number of moves. -/
abbrev Moves (errand : Errand σ) : Pool σ → Pool σ → Prop :=
  Relation.ReflTransGen (Move errand)

variable {errand : Errand σ}

theorem Moves.note {before after : Pool σ} (moves : Moves errand before after) (event : Event) :
    Moves errand before (after.note event) :=
  moves.tail (.look (Environment.grows_write (.event event) after.env))

theorem Moves.count {before after : Pool σ} (moves : Moves errand before after)
    (update : Counters → Counters) : Moves errand before (after.count update) :=
  moves.tail (.count update)

/-! ## Checking -/

namespace Holds

variable {pool : Pool σ} {w : WrapperId} {wrapper : Wrapper} {conn : ConnId}

theorem moves_ask (holds : pool.Holds w wrapper conn) (inHand : w ∉ pool.idle ++ pool.active)
    {work : Exchange σ α} (talks : Exchange.Within Entry.IsTalk work)
    (own : Exchange.Within (Entry.ByPool conn) work) :
    Move errand pool { pool with env := (work.perform pool.env).2 } :=
  .ask holds.slot inHand (talks pool.env) (own pool.env)

theorem moves_dispose (holds : pool.Holds w wrapper conn)
    (inHand : w ∉ pool.idle ++ pool.active) (ending : ConnId → Exchange σ Unit)
    (ends : Exchange.Ends conn (ending conn))
    (own : Exchange.Within (Entry.ByPool conn) (ending conn))
    (complaint : ConnectionError → Event) :
    Move errand pool (pool.dispose w ending complaint) := by
  rw [holds.dispose]
  exact .discarded holds.slot inHand (ends.orComplain complaint pool.env)
    (own.orComplain (fun _ => .event _) pool.env)

theorem moves_check (holds : pool.Holds w wrapper conn) (inHand : w ∉ pool.idle ++ pool.active)
    (policy : Policy) : Moves errand pool (pool.check policy w).2 := by
  have asked : Move errand pool _ :=
    holds.moves_ask inHand
      (Exchange.checkAlive_talks (pool.realId w) (pool.pingQuery policy w) conn)
      (Exchange.within_checkAlive .event fun _ _ => .call _)
  unfold check
  dsimp only
  rw [holds.withConnection]
  cases run : (Exchange.checkAlive (pool.realId w) (pool.pingQuery policy w) conn).perform
      pool.env with
  | mk outcome env =>
    rw [run] at asked
    cases outcome with
    | ok _ => exact .single asked
    | error cause =>
      have closed : Move errand { pool with env := env } _ :=
        (holds.talk env).moves_dispose inHand (Exchange.ask · .close) (Exchange.ends_close conn)
          (Exchange.within_ask conn .close) (.badCloseFailed (pool.realId w))
      exact Moves.note ((Relation.ReflTransGen.single asked).tail closed) _

theorem moves_vet (holds : pool.Holds w wrapper conn) (inHand : w ∉ pool.idle ++ pool.active)
    (policy : Policy) : Moves errand pool (pool.vet policy w).2 := by
  have checked : Moves errand pool _ := holds.moves_check inHand policy
  have checks := check_checks policy holds
  unfold vet
  dsimp only
  cases run : pool.check policy w with
  | mk outcome mid =>
    rw [run] at checked checks
    cases checks with
    | bad => exact checked
    | @good env talks =>
      have asked : Move errand { pool with env := env } _ :=
        (holds.talk env).moves_ask inHand (Exchange.rollbackIfNeeded_talks conn)
          (Exchange.within_rollbackIfNeeded (.call _) (.call _))
      dsimp only
      rw [(holds.talk env).withConnection]
      cases back : (Exchange.rollbackIfNeeded conn).perform env with
      | mk outcome later =>
        rw [back] at asked
        cases outcome with
        | ok _ => exact checked.tail asked
        | error cause =>
          apply (checked.tail asked).tail
          exact (holds.talk later).moves_dispose inHand (Exchange.ask · .close)
            (Exchange.ends_close conn) (Exchange.within_ask conn .close) _

/-- A connection that passed its check is clean. -/
theorem clean_of_vet (holds : pool.Holds w wrapper conn) {policy : Policy} {vetted : Pool σ}
    (vet : pool.vet policy w = (.ok (), vetted)) : vetted.env.Clean conn := by
  have checks := check_checks policy holds
  unfold Pool.vet at vet
  dsimp only at vet
  cases run : pool.check policy w with
  | mk outcome mid =>
    rw [run] at checks vet
    cases checks with
    | bad => cases vet
    | @good env talks =>
      dsimp only at vet
      rw [(holds.talk env).withConnection] at vet
      cases back : (Exchange.rollbackIfNeeded conn).perform env with
      | mk outcome later =>
        rw [back] at vet
        cases outcome with
        | error cause => cases vet
        | ok _ =>
          cases vet
          exact Exchange.clean_of_rollbackIfNeeded back

end Holds

/-! ## Searching -/

/-- A search that finds all checked out and the oldest checkout overdue claims that
one. -/
theorem nextCandidate_of_overdue {settings : Settings} {who : Credentials} {pool : Pool σ}
    {w : WrapperId} {rest : List WrapperId} (idle : pool.idle = [])
    (active : pool.active = w :: rest) (full : settings.policy.maxActive ≤ pool.active.length)
    (overdue : settings.policy.maxCheckoutTime < pool.checkoutTime w) :
    pool.nextCandidate settings who = pool.claim w rest (pool.checkoutTime w) := by
  unfold nextCandidate
  rw [idle]
  dsimp only
  rw [if_neg (Nat.not_lt.2 full), active]
  dsimp only
  rw [if_neg (Nat.not_le.2 overdue)]

/-- What a search does is made up of moves. -/
theorem Owns.moves_search {pool found : Pool σ} (owns : pool.Owns []) {who : Credentials}
    (asked : errand.who = some who) (searched : pool ∈ errand.searched)
    {result : Except PoolError Candidate}
    (search : pool.nextCandidate errand.settings who = (result, found)) :
    Moves errand pool found := by
  cases owns.search search with
  | idle idle => exact Moves.note (.single (.takeIdle idle)) _
  | opened idle _ connect opens =>
    exact Moves.note (.single (.opened asked idle connect opens)) _
  | refused idle _ connect refuses => exact .single (.refused idle connect refuses)
  | noCapacity => exact .refl
  | mustWait => exact .refl
  | @claimed w rest old conn env idle active full overdue holds talks =>
    -- That the pool spoke to the claimed connection only has to be read off the claim.
    obtain ⟨later, said, claimed⟩ := claim_cases
      (P := fun entry => entry.IsTalk ∧ entry.ByPool conn)
      (fun event => ⟨Entry.isTalk_event event, .event event⟩)
      (fun result => ⟨Entry.isTalk_pool conn (by decide) result, .call _ result⟩)
      (fun result => ⟨Entry.isTalk_pool conn (by decide) result, .call _ result⟩)
      holds rest (pool.checkoutTime w)
    have claim : pool.nextCandidate errand.settings who = _ :=
      nextCandidate_of_overdue idle active full overdue
    rw [claim, claimed] at search
    obtain ⟨-, same⟩ := Prod.mk.inj search
    rw [← same]
    have claims : pool.Claims errand.settings who w := by
      constructor
      · rw [active]
        exact List.mem_cons_self
      · rw [claim, claimed]
        have nodup := owns.nodup
        rw [idle, active, List.nil_append, List.append_nil, List.nodup_cons] at nodup
        exact nodup.1
    have moved : Move errand pool
        { pool.renew w old conn with active := rest, env := later } :=
      .claimed asked searched claims idle active holds (said.mono fun _ => And.left)
        (said.mono fun _ => And.right)
    exact Moves.count (.single moved) _

omit [Driver σ] in
/-- A wrapper in hand stands in no list. -/
theorem Owns.not_mem_hand {pool : Pool σ} {w : WrapperId} (owns : pool.Owns [w]) :
    w ∉ pool.idle ++ pool.active := by
  have fresh := owns.hand_fresh.1
  rwa [List.append_nil] at fresh

/-- What a check of a candidate does is made up of moves. -/
theorem Owns.moves_vet {pool vetted : Pool σ} {w : WrapperId} (owns : pool.Owns [w])
    {policy : Policy} {outcome : Except Rejection Unit}
    (vet : pool.vet policy w = (outcome, vetted)) : Moves errand pool vetted := by
  obtain ⟨wrapper, conn, holds⟩ := owns.exists_holds_hand
  have moves : Moves errand pool _ := holds.moves_vet owns.not_mem_hand policy
  rwa [vet] at moves

/-- A search with the check of its candidate is made up of moves, if the candidate is bad. -/
theorem Owns.moves_reject {pool found vetted : Pool σ} (owns : pool.Owns []) {who : Credentials}
    (asked : errand.who = some who) (searched : pool ∈ errand.searched) {w : WrapperId}
    {rejection : Rejection}
    (search : pool.nextCandidate errand.settings who = (.ok (.ready w), found))
    (vet : found.vet errand.settings.policy w = (.error rejection, vetted)) :
    Moves errand pool (vetted.countBad.note (.candidateRejected rejection)) := by
  have hand := (owns.search search).owns owns
  apply Moves.note
  apply Moves.count
  exact (owns.moves_search asked searched search).trans (hand.moves_vet vet)

/-- A search with the hand-out of its candidate is made up of moves: a good candidate is clean.
-/
theorem Owns.moves_grant {pool found vetted : Pool σ} (owns : pool.Owns []) {who : Credentials}
    (asked : errand.who = some who) (searched : pool ∈ errand.searched) {w : WrapperId}
    (search : pool.nextCandidate errand.settings who = (.ok (.ready w), found))
    (vet : found.vet errand.settings.policy w = (.ok (), vetted)) (started : Instant) :
    Moves errand pool
      (vetted.handOut (errand.settings.source.fingerprintFor who) started w) := by
  have hand := (owns.search search).owns owns
  obtain ⟨wrapper, conn, holds⟩ := hand.exists_holds_hand
  have clean := holds.clean_of_vet vet
  have checks := hand.vet vet
  have slot : vetted.slot w = some conn := by
    cases checks with
    | good => exact holds.slot
  apply ((owns.moves_search asked searched search).trans (hand.moves_vet vet)).tail
  exact .handedOut asked slot (checks.owns_good hand).not_mem_hand clean started

/-- What an acquisition does is made up of moves, and moves lead to each pool in which
it looks for a candidate. -/
theorem Acquires.moves {acquisition : Acquisition} {budget : Nat} {pool after : Pool σ}
    {progress : Progress}
    (acquires : Acquires errand.settings acquisition budget pool progress after)
    (owns : pool.Owns []) (asked : errand.who = some acquisition.who)
    (searched : ∀ found ∈ pool.searches errand.settings acquisition budget,
      found ∈ errand.searched) :
    Moves errand pool after ∧
      ∀ found ∈ pool.searches errand.settings acquisition budget, Moves errand pool found := by
  have here (pool : Pool σ) : ∀ found ∈ [pool], Moves errand pool found :=
    List.forall_mem_singleton.2 .refl
  induction acquires with
  | @failed _ budget _ _ _ search =>
    rw [searches_of_end budget search rfl] at searched ⊢
    exact ⟨owns.moves_search asked (searched _ List.mem_cons_self) search, here _⟩
  | @asleep acquisition budget pool found search =>
    rw [searches_of_end budget search rfl] at searched ⊢
    refine ⟨?_, here _⟩
    apply (owns.moves_search asked (searched _ List.mem_cons_self) search).trans
    unfold fallAsleep
    split
    · exact Moves.note .refl _
    · exact (Moves.count .refl _).note _
  | @granted _ budget _ _ _ _ search vet =>
    rw [searches_of_good budget search vet] at searched ⊢
    exact ⟨owns.moves_grant asked (searched _ List.mem_cons_self) search vet _, here _⟩
  | gaveUp search vet =>
    rw [searches_of_one_too_many search vet] at searched ⊢
    exact ⟨(owns.moves_reject asked (searched _ List.mem_cons_self) search vet).note _, here _⟩
  | @again _ budget _ _ _ _ _ _ _ search vet _ ih =>
    rw [searches_of_bad budget search vet] at searched ⊢
    obtain ⟨first, others⟩ := List.forall_mem_cons.1 searched
    have rejected := owns.moves_reject asked first search vet
    obtain ⟨rest, later⟩ := ih (owns.reject search vet).1 asked others
    refine ⟨rejected.trans rest, List.forall_mem_cons.2 ⟨.refl, ?_⟩⟩
    exact fun found hfound => rejected.trans (later found hfound)

/-- Whatever an acquisition gets is checked out then, and the connection is clean. -/
theorem Acquires.clean_grant {settings : Settings} {acquisition : Acquisition} {budget : Nat}
    {pool after : Pool σ} {progress : Progress}
    (acquires : Acquires settings acquisition budget pool progress after)
    (owns : pool.Owns []) : ∀ w ∈ progress.grant, w ∈ after.active ∧
      ∃ conn, after.slot w = some conn ∧ after.env.Clean conn := by
  induction acquires with
  | failed | asleep | gaveUp => simp [Progress.grant]
  | again search vet _ ih => exact ih (owns.reject search vet).1
  | @granted acquisition _ pool found vetted w search vet =>
    intro v hv
    obtain rfl := List.mem_singleton.1 hv
    have hand := (owns.search search).owns owns
    obtain ⟨wrapper, conn, holds⟩ := hand.exists_holds_hand
    have slot : vetted.slot v = some conn := by
      cases hand.vet vet with
      | good => exact holds.slot
    have clean := holds.clean_of_vet vet
    refine ⟨List.mem_append_right _ hv, conn, ?_, clean⟩
    rw [slot_handOut, slot]

theorem Owns.clean_grant {pool : Pool σ} (owns : pool.Owns []) (settings : Settings)
    (acquisition : Acquisition) : ∀ w ∈ (pool.acquire settings acquisition).1.grant,
      w ∈ (pool.acquire settings acquisition).2.active ∧
        ∃ conn, (pool.acquire settings acquisition).2.slot w = some conn ∧
          (pool.acquire settings acquisition).2.env.Clean conn := by
  rcases acquire_cases settings acquisition pool with ⟨-, refused⟩ | ⟨-, acquires⟩
  · rw [refused]
    simp [Progress.grant]
  · exact acquires.clean_grant owns

theorem Owns.moves_acquire {pool : Pool σ} (owns : pool.Owns []) (errand : Errand σ)
    {acquisition : Acquisition}
    (asked : errand.who = some acquisition.who)
    (searched : errand.searched = pool.lookups errand.settings acquisition) :
    Moves errand pool (pool.acquire errand.settings acquisition).2 ∧
      ∀ found ∈ errand.searched, Moves errand pool found := by
  rw [searched]
  rcases lookups_cases errand.settings acquisition pool with ⟨none, refused⟩ | ⟨made, acquires⟩
  · rw [refused, none]
    exact ⟨.refl, by simp⟩
  · rw [made] at searched ⊢
    exact acquires.moves owns asked fun found hfound => searched ▸ hfound

/-! ## Giving back -/

namespace Holds

variable {pool : Pool σ} {w : WrapperId} {wrapper : Wrapper} {conn : ConnId}

theorem moves_retire (holds : pool.Holds w wrapper conn)
    (inHand : w ∉ pool.idle ++ pool.active) : Moves errand pool (pool.retire w) := by
  have closed : Move errand pool _ :=
    holds.moves_dispose inHand Exchange.shutDown (Exchange.ends_shutDown conn)
      (Exchange.within_shutDown .call) (.returnCloseFailed (pool.realId w))
  exact Moves.note (.single closed) _

theorem moves_makeIdle (holds : pool.Holds w wrapper conn)
    (inHand : w ∉ pool.idle ++ pool.active) (clean : pool.env.Clean conn)
    (code : wrapper.fingerprint = some pool.expected) :
    Moves errand pool (pool.makeIdle w) := by
  unfold Pool.makeIdle
  dsimp only
  rw [holds.rewrap]
  exact Moves.note (.single (.kept holds inHand clean code)) _

theorem moves_putAway (holds : pool.Holds w wrapper conn)
    (inHand : w ∉ pool.idle ++ pool.active) (policy : Policy) :
    Moves errand pool (pool.putAway policy w) := by
  unfold Pool.putAway
  by_cases reusable : pool.isReusable policy w = true
  · have code : wrapper.fingerprint = some pool.expected := by
      unfold isReusable Pool.fingerprint at reusable
      rw [holds.found, Option.bind_some] at reusable
      exact eq_of_beq (Bool.and_eq_true_iff.1 reusable).2
    have asked : Move errand pool _ :=
      holds.moves_ask inHand (Exchange.rollbackIfNeeded_talks conn)
        (Exchange.within_rollbackIfNeeded (.call _) (.call _))
    rw [if_pos reusable, holds.withConnection]
    cases back : (Exchange.rollbackIfNeeded conn).perform pool.env with
    | mk outcome env =>
      rw [back] at asked
      cases outcome with
      | ok _ =>
        have clean := Exchange.clean_of_rollbackIfNeeded back
        exact (Relation.ReflTransGen.single asked).trans
          ((holds.talk env).moves_makeIdle inHand clean code)
      | error error =>
        have said : Moves errand pool _ := Moves.note (.single asked)
          (.returnRollbackFailed (pool.realId w) error)
        exact said.trans ((holds.talk _).moves_retire inHand)
  · rw [if_neg reusable]
    exact holds.moves_retire inHand

end Holds

/-- What giving back a wrapper does is made up of moves. -/
theorem Owns.moves_release {pool : Pool σ} (owns : pool.Owns []) (policy : Policy)
    {w : WrapperId} (busy : w ∉ pool.idle) (returned : errand.returned = some w) :
    Moves errand pool (pool.release policy w) := by
  have taken : Moves errand pool { pool with active := pool.active.erase w } :=
    .single (.takenBack returned)
  unfold Pool.release
  dsimp only
  cases valid : pool.isValid w with
  | false =>
    rw [if_neg]
    · exact (Moves.count taken _).note _
    · exact Bool.eq_false_iff.1 valid
  | true =>
    obtain ⟨wrapper, conn, found⟩ := owns.toCoherent.exists_holds valid
    have holds : Holds { pool with active := pool.active.erase w } w wrapper conn :=
      ⟨found.found, found.valid, found.held⟩
    have inHand : w ∉ pool.idle ++ pool.active.erase w := by
      have nodup := owns.nodup
      rw [List.append_nil] at nodup
      rw [List.mem_append, not_or]
      exact ⟨busy, nodup.of_append_right.not_mem_erase⟩
    have checked : Moves errand _ _ := holds.moves_check inHand policy
    have checks := check_checks policy holds
    rw [if_pos holds.isValid]
    cases run : Pool.check policy w { pool with active := pool.active.erase w } with
    | mk outcome mid =>
      rw [run] at checked checks
      cases checks with
      | bad => exact (Moves.count (taken.trans checked) _).note _
      | @good env talks =>
        have still : ∀ counters, Holds
            { pool with active := pool.active.erase w, env := env, counters := counters }
            w wrapper conn := fun _ => ⟨holds.found, holds.valid, holds.held⟩
        let checkedOut :=
          Pool.checkoutTime { pool with active := pool.active.erase w, env := env } w
        have tallied := Moves.count (taken.trans checked) fun c =>
          { c with checkoutTime := c.checkoutTime + checkedOut }
        exact tallied.trans ((still _).moves_putAway inHand policy)

/-! ## Use by a holder -/

omit [Driver σ] in
theorem slot_of_reach {pool : Pool σ} {w : WrapperId} {conn : ConnId}
    (h : pool.reach w = some conn) : pool.slot w = some conn := by
  obtain ⟨wrapper, found, reach⟩ := Option.bind_eq_some_iff.1 h
  unfold Wrapper.reach at reach
  split at reach
  · simp only [slot, found, Option.bind_some, reach]
  · cases reach

/-- What a holder does with its connection is made up of moves. -/
theorem moves_withConnection (pool : Pool σ) {w : WrapperId} (busy : w ∉ pool.idle)
    (speaks : ∀ conn, pool.reach w = some conn → errand.speaks = some conn)
    {work : ConnId → Exchange σ α}
    (own : ∀ conn, Exchange.Within (Entry.ByHolder conn) (work conn)) :
    Moves errand pool ((pool.withConnection w work).2.touch w) := by
  unfold withConnection
  cases reach : pool.reach w with
  | none => exact .single (.touch w)
  | some conn =>
    have spoken : Move errand pool { pool with env := ((work conn).perform pool.env).2 } :=
      .speak (speaks conn reach) (slot_of_reach reach) busy (own conn pool.env)
    exact (Relation.ReflTransGen.single spoken).tail (.touch w)

/-! ## Closing by force -/

/-- From `before` to `after` the pool lost all its connections, and nobody but the pool
spoke. It expects the fingerprint of the data source. -/
structure Drains (source : DataSource) (before after : Pool σ) : Prop
    extends Empties before after where
  goesOn : before.env.Extends Entry.IsOwn after.env
  expected : after.expected = source.fingerprint

omit [Driver σ] in
theorem Drains.note {source : DataSource} {before after : Pool σ}
    (drains : before.Drains source after) (event : Event) :
    before.Drains source (after.note event) where
  toEmpties := drains.toEmpties.note event
  goesOn := by
    have logged := Environment.grows_write (Entry.IsEvent.isOwn (.event event)) after.env
    exact drains.goesOn.trans (logged.extends fun _ own => own.opens)
  expected := drains.expected

theorem forceClose_frame (pool : Pool σ) (w : WrapperId) :
    pool.env.Grows Entry.IsOwn (pool.forceClose w).env ∧
      (pool.forceClose w).expected = pool.expected := by
  unfold forceClose dispose invalidate
  cases pool.wrappers[w]?.bind Wrapper.slot with
  | none => exact ⟨.refl _ _, rfl⟩
  | some conn =>
    refine ⟨?_, rfl⟩
    have own : Exchange.Within (Entry.ByPool conn) (Exchange.shutDown conn : Exchange σ Unit) :=
      Exchange.within_shutDown .call
    exact (own.orComplain (fun _ => .event _) pool.env).mono fun _ said => said.isOwn

theorem foldl_forceClose_frame (wrappers : List WrapperId) (pool : Pool σ) :
    pool.env.Grows Entry.IsOwn (wrappers.foldl forceClose pool).env ∧
      (wrappers.foldl forceClose pool).expected = pool.expected := by
  induction wrappers generalizing pool with
  | nil => exact ⟨.refl _ _, rfl⟩
  | cons w rest ih =>
    obtain ⟨first, same⟩ := pool.forceClose_frame w
    obtain ⟨later, still⟩ := ih (pool.forceClose w)
    exact ⟨first.trans later, still.trans same⟩

theorem foldl_forceClose_same (wrappers : List WrapperId) (pool : Pool σ) :
    (wrappers.foldl forceClose pool).counters = pool.counters ∧
      (wrappers.foldl forceClose pool).closed = pool.closed := by
  induction wrappers generalizing pool with
  | nil => exact ⟨rfl, rfl⟩
  | cons w rest ih =>
    obtain ⟨counters, closed⟩ := ih (pool.forceClose w)
    rw [List.foldl_cons, counters, closed]
    unfold forceClose dispose invalidate
    cases pool.wrappers[w]?.bind Wrapper.slot <;> exact ⟨rfl, rfl⟩

/-- Closing all connections by force counts nothing, and it neither closes a pool nor opens
it again. -/
theorem forceCloseAll_same (pool : Pool σ) (source : DataSource) :
    (pool.forceCloseAll source).counters = pool.counters ∧
      (pool.forceCloseAll source).closed = pool.closed :=
  foldl_forceClose_same (pool.active ++ pool.idle)
    { pool with expected := source.fingerprint, active := [], idle := [] }

/-- Closing all connections by force drains the pool. -/
theorem Owns.drains {pool : Pool σ} (owns : pool.Owns []) (source : DataSource) :
    pool.Drains source (pool.forceCloseAll source) where
  toEmpties := owns.forceCloseAll source
  goesOn := by
    obtain ⟨closed, -⟩ := foldl_forceClose_frame (pool.active ++ pool.idle)
      { pool with expected := source.fingerprint, active := [], idle := [] }
    have logged := closed.trans (Environment.grows_write
      (Entry.IsEvent.isOwn (.event (.forceClosed pool.active.length pool.idle.length))) _)
    exact logged.extends fun _ own => own.opens
  expected := (foldl_forceClose_frame (pool.active ++ pool.idle)
    { pool with expected := source.fingerprint, active := [], idle := [] }).2

end Pool

end ConnectionPooling
