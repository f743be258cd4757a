/-
# Whose connection it is

A connection that comes back becomes idle only if it carries the fingerprint of the
default credentials. But what a wrapper carries is the fingerprint of the credentials
that it was checked out under, and whoever claims an overdue checkout is handed a
connection that was opened for somebody else. Given back, that connection is as good as
any other: an idle connection was opened under the default credentials, or an
acquisition under them claimed it from a checkout under others.

Fingerprints are short, so this holds of runs in which no two logins share one.
-/

import ConnectionPooling.Proofs.Barrier

namespace ConnectionPooling

variable {σ : Type}

namespace Pool

/-! ## Fingerprints -/

theorem fingerprint_spend (pool : Pool σ) (w v : WrapperId) (env : Environment σ) :
    (pool.spend w env).fingerprint v = pool.fingerprint v :=
  pool.bind_wrappers_alter w v fun _ => rfl

theorem fingerprint_touch (pool : Pool σ) (w v : WrapperId) :
    (pool.touch w).fingerprint v = pool.fingerprint v :=
  pool.bind_wrappers_alter w v fun _ => rfl

theorem fingerprint_renew (pool : Pool σ) (w v : WrapperId) (old : Wrapper) (conn : ConnId) :
    (pool.renew w old conn).fingerprint v =
      if v = pool.wrappers.size then none else pool.fingerprint v := by
  rw [← pool.fingerprint_spend w v pool.env]
  simp only [fingerprint, wrappers_renew]
  split
  · rfl
  · rfl

theorem fingerprint_enrol (pool : Pool σ) (v : WrapperId) (conn : ConnId)
    (env : Environment σ) : (pool.enrol conn env).fingerprint v =
      if v = pool.wrappers.size then none else pool.fingerprint v := by
  simp only [fingerprint, enrol, wrappers_push]
  split
  · rfl
  · rfl

/-- Whoever is checked out carries the fingerprint that was asked for, and the others
carry what they carried. -/
theorem fingerprint_handOut {pool : Pool σ} {asked code : Fingerprint} {started : Instant}
    {w v : WrapperId} (carries : (pool.handOut asked started w).fingerprint v = some code) :
    w = v ∧ code = asked ∨ pool.fingerprint v = some code := by
  obtain ⟨wrapper, found, stamp⟩ := Option.bind_eq_some_iff.1 carries
  have found : (pool.alter w (·.checkedOut asked pool.now)).wrappers[v]? = some wrapper := found
  rw [wrappers_alter] at found
  split at found
  · obtain ⟨old, -, rfl⟩ := Option.map_eq_some_iff.1 found
    exact .inl ⟨‹_›, (Option.some.inj stamp).symm⟩
  · right
    rw [fingerprint, found]
    exact stamp

end Pool

variable [Driver σ]

namespace Pool

variable {errand : Errand σ} {pool after : Pool σ}

/-- A wrapper gets a fingerprint when its connection is handed out, and only then. -/
theorem Move.fingerprint_cases (move : Move errand pool after) {v : WrapperId} {conn : ConnId}
    {code : Fingerprint} (held : after.slot v = some conn)
    (carries : after.fingerprint v = some code) :
    pool.slot v = some conn ∧ (pool.fingerprint v = some code ∨
      v ∉ pool.idle ++ pool.active ∧ ∃ who, errand.who = some who ∧
        code = errand.settings.source.fingerprintFor who) := by
  have renewed {w : WrapperId} {old : Wrapper} {other : ConnId}
      (held : (pool.renew w old other).slot v = some conn)
      (carries : (pool.renew w old other).fingerprint v = some code) :
      pool.slot v = some conn ∧ pool.fingerprint v = some code := by
    rw [fingerprint_renew] at carries
    rw [slot_renew] at held
    split at carries
    · cases carries
    · rw [if_neg ‹_›, slot_spend] at held
      split at held
      · cases held
      · exact ⟨held, carries⟩
  cases move with
  | look | count | speak | ask | takeIdle | refused | takenBack =>
    exact ⟨held, .inl carries⟩
  | touch =>
    rw [fingerprint_touch] at carries
    rw [slot_touch] at held
    exact ⟨held, .inl carries⟩
  | opened =>
    rw [fingerprint_enrol] at carries
    rw [slot_enrol] at held
    split at carries
    · cases carries
    · rw [if_neg ‹_›] at held
      exact ⟨held, .inl carries⟩
  | claimed =>
    obtain ⟨before, same⟩ := renewed held carries
    exact ⟨before, .inl same⟩
  | kept =>
    obtain ⟨before, same⟩ := renewed held carries
    exact ⟨before, .inl same⟩
  | discarded =>
    rw [fingerprint_spend] at carries
    rw [slot_spend] at held
    split at held
    · cases held
    · exact ⟨held, .inl carries⟩
  | @handedOut who w _ asked _ inHand =>
    rw [slot_handOut] at held
    refine ⟨held, ?_⟩
    rcases fingerprint_handOut carries with ⟨rfl, same⟩ | same
    · exact .inr ⟨inHand, who, asked, same⟩
    · exact .inl same

/-- A connection becomes idle only out of a wrapper that carries the fingerprint that
is expected. -/
theorem Move.idle_cases (move : Move errand pool after) {v : WrapperId} {conn : ConnId}
    (listed : v ∈ after.idle) (held : after.slot v = some conn) :
    ∃ u, pool.slot u = some conn ∧
      (u ∈ pool.idle ∨ pool.fingerprint u = some pool.expected) := by
  cases move with
  | look | count | speak | ask | refused | takenBack => exact ⟨v, held, .inl listed⟩
  | takeIdle front =>
    refine ⟨v, held, .inl ?_⟩
    rw [front]
    exact List.mem_cons_of_mem _ listed
  | touch =>
    rw [slot_touch] at held
    exact ⟨v, held, .inl listed⟩
  | handedOut =>
    rw [slot_handOut] at held
    exact ⟨v, held, .inl listed⟩
  | opened _ none => simp [enrol, none] at listed
  | claimed _ _ _ none => simp [renew, wrap, alter, none] at listed
  | discarded =>
    rw [slot_spend] at held
    split at held
    · cases held
    · exact ⟨v, held, .inl listed⟩
  | @kept w old own holds _ _ code =>
    obtain ⟨u, before, ⟨-, rfl⟩ | ⟨-, rfl⟩⟩ := holds.exists_slot_of_renew held
    · refine ⟨u, before, .inr ?_⟩
      simp only [fingerprint, holds.found, Option.bind_some, code]
    · refine ⟨u, before, ?_⟩
      rcases List.mem_append.1 listed with old | new
      · exact .inl old
      · -- The wrapper that is new has no connection yet.
        rw [List.mem_singleton.1 new, slot, Array.getElem?_eq_none (Nat.le_refl _)] at before
        cases before

/-- A connection comes in hand out of a list, or when it is given back, opened or
claimed. -/
theorem Move.hand_cases (move : Move errand pool after) {v : WrapperId} {conn : ConnId}
    (inHand : v ∉ after.idle ++ after.active) (held : after.slot v = some conn) :
    (pool.slot v = some conn ∧
      (v ∉ pool.idle ++ pool.active ∨ v ∈ pool.idle ∨ errand.returned = some v)) ∨
      ∃ who, errand.who = some who ∧ (after.env.Made errand.settings.source who conn ∨
        ∃ w, pool ∈ errand.searched ∧ pool.Claims errand.settings who w ∧
          pool.slot w = some conn) := by
  cases move with
  | look | count | speak | ask | refused => exact .inl ⟨held, .inl inHand⟩
  | @takeIdle w rest front =>
    by_cases listed : v ∈ pool.idle
    · exact .inl ⟨held, .inr (.inl listed)⟩
    · refine .inl ⟨held, .inl ?_⟩
      intro either
      rcases List.mem_append.1 either with idle | active
      · exact listed idle
      · exact inHand (List.mem_append_right _ active)
  | touch =>
    rw [slot_touch] at held
    exact .inl ⟨held, .inl inHand⟩
  | opened asked _ connect =>
    rw [slot_enrol] at held
    split at held
    · cases held
      exact .inr ⟨_, asked, .inl (DataSource.made_of_connect connect)⟩
    · exact .inl ⟨held, .inl inHand⟩
  | @claimed who w rest old other env asked searched claims idle active holds =>
    obtain ⟨u, before, ⟨-, rfl⟩ | ⟨different, rfl⟩⟩ := holds.exists_slot_of_renew held
    · exact .inr ⟨who, asked, .inr ⟨u, searched, claims, before⟩⟩
    · refine .inl ⟨before, .inl ?_⟩
      have outside : u ∉ pool.idle ++ rest := inHand
      rw [active]
      simp only [List.mem_append, List.mem_cons, not_or] at outside ⊢
      exact ⟨outside.1, different, outside.2⟩
  | discarded =>
    rw [slot_spend] at held
    split at held
    · cases held
    · exact .inl ⟨held, .inl inHand⟩
  | handedOut =>
    rw [slot_handOut] at held
    refine .inl ⟨held, .inl ?_⟩
    intro either
    apply inHand
    rcases List.mem_append.1 either with idle | active
    · exact List.mem_append_left _ idle
    · exact List.mem_append_right _ (List.mem_append_left _ active)
  | @takenBack w returned =>
    by_cases same : w = v
    · exact .inl ⟨held, .inr (.inr (same ▸ returned))⟩
    · refine .inl ⟨held, .inl ?_⟩
      intro either
      apply inHand
      rcases List.mem_append.1 either with idle | active
      · exact List.mem_append_left _ idle
      · exact List.mem_append_right _ ((List.mem_erase_of_ne (Ne.symm same)).2 active)
  | kept holds =>
    obtain ⟨u, before, ⟨rfl, -⟩ | ⟨-, rfl⟩⟩ := holds.exists_slot_of_renew held
    · exact absurd (List.mem_append_left _ (List.mem_append_right _ List.mem_cons_self)) inHand
    · refine .inl ⟨before, .inl ?_⟩
      intro either
      apply inHand
      rcases List.mem_append.1 either with idle | active
      · exact List.mem_append_left _ (List.mem_append_left _ idle)
      · exact List.mem_append_right _ active

/-! ## Connections of the default user -/

/-- The connection was opened under the default credentials, or it is one of those that
an acquisition under them claimed. -/
def Belongs (source : DataSource) (reclaimed : ConnId → Prop) (conn : ConnId)
    (pool : Pool σ) : Prop :=
  pool.env.Made source source.who conn ∨ reclaimed conn

/-- Idle connections belong to the default user, and so do those that were checked out
under the fingerprint of the default credentials. -/
structure Attributed (source : DataSource) (reclaimed : ConnId → Prop) (pool : Pool σ) :
    Prop where
  idle : ∀ w ∈ pool.idle, ∀ conn, pool.slot w = some conn →
    pool.Belongs source reclaimed conn
  stamped : ∀ w conn, pool.slot w = some conn → pool.fingerprint w = some source.fingerprint →
    pool.Belongs source reclaimed conn

omit [Driver σ] in
theorem Attributed.mono {source : DataSource} {reclaimed more : ConnId → Prop}
    {pool : Pool σ} (attributed : pool.Attributed source reclaimed)
    (h : ∀ conn, reclaimed conn → more conn) : pool.Attributed source more where
  idle w listed conn held := (attributed.idle w listed conn held).imp_right (h conn)
  stamped w conn held code := (attributed.stamped w conn held code).imp_right (h conn)

/-- In the middle of an operation, a connection in hand that is not given back belongs
to the default user, unless a connection is wanted by another one. -/
structure Attributing (errand : Errand σ) (reclaimed : ConnId → Prop) (pool : Pool σ) : Prop
    extends Attributed errand.settings.source reclaimed pool where
  inHand : ∀ w conn, pool.slot w = some conn → w ∉ pool.idle ++ pool.active →
    errand.returned = some w ∨ pool.Belongs errand.settings.source reclaimed conn ∨
      ∃ who, errand.who = some who ∧ who ≠ errand.settings.source.who

end Pool

/-- What has to be known of an operation to tell whose a connection is. -/
structure Errand.IsTold (errand : Errand σ) (reclaimed : ConnId → Prop) : Prop where
  /-- Whoever asks for a connection gives none back. -/
  alone : ∀ who, errand.who = some who → errand.returned = none
  /-- The fingerprint of the default credentials is that of no others. -/
  distinct : ∀ who, errand.who = some who →
    errand.settings.source.fingerprintFor who = errand.settings.source.fingerprint →
      who = errand.settings.source.who
  /-- It is on record what was claimed for the default user from a checkout under other
  credentials. -/
  recorded : errand.who = some errand.settings.source.who → ∀ pool ∈ errand.searched, ∀ w,
    pool.Claims errand.settings errand.settings.source.who w →
      pool.fingerprint w ≠ some errand.settings.source.fingerprint →
        ∀ conn, pool.slot w = some conn → reclaimed conn

namespace Pool

variable {errand : Errand σ} {reclaimed : ConnId → Prop} {pool after : Pool σ}

theorem Move.belongs (move : Move errand pool after) (coherent : pool.Coherent)
    {source : DataSource} {w : WrapperId} {conn : ConnId} (held : pool.slot w = some conn)
    (belongs : pool.Belongs source reclaimed conn) : after.Belongs source reclaimed conn :=
  belongs.imp_left (move.extends.made (coherent.accounts.held_lt ⟨w, held⟩))

theorem Move.attributing (move : Move errand pool after)
    (tended : pool.Tended errand.settings.source) (told : errand.IsTold reclaimed)
    (known : pool.Attributing errand reclaimed) : after.Attributing errand reclaimed where
  idle v listed conn held := by
    obtain ⟨u, was, idle | code⟩ := move.idle_cases listed held
    · exact move.belongs tended.toCoherent was (known.idle u idle conn was)
    · rw [tended.expected] at code
      exact move.belongs tended.toCoherent was (known.stamped u conn was code)
  stamped v conn held carries := by
    obtain ⟨was, same | ⟨inHand, who, asked, code⟩⟩ := move.fingerprint_cases held carries
    · exact move.belongs tended.toCoherent was (known.stamped v conn was same)
    · rcases known.inHand v conn was inHand with returned | belongs | ⟨other, wants, foreign⟩
      · rw [told.alone who asked] at returned
        cases returned
      · exact move.belongs tended.toCoherent was belongs
      · -- The fingerprint is that of the default credentials, so these were asked for.
        obtain rfl : who = other := Option.some.inj (asked.symm.trans wants)
        exact absurd (told.distinct who asked code.symm) foreign
  inHand v conn held outside := by
    rcases move.hand_cases outside held with ⟨was, place⟩ | ⟨who, asked, how⟩
    · rcases place with inHand | idle | returned
      · rcases known.inHand v conn was inHand with returned | belongs | foreign
        · exact .inl returned
        · exact .inr (.inl (move.belongs tended.toCoherent was belongs))
        · exact .inr (.inr foreign)
      · exact .inr (.inl (move.belongs tended.toCoherent was (known.idle v idle conn was)))
      · exact .inl returned
    · right
      by_cases own : who = errand.settings.source.who
      · left
        subst own
        rcases how with made | ⟨w, searched, claims, was⟩
        · exact .inl made
        · by_cases code : pool.fingerprint w = some errand.settings.source.fingerprint
          · exact move.belongs tended.toCoherent was (known.stamped w conn was code)
          · exact .inr (told.recorded asked pool searched w claims code conn was)
      · exact .inr ⟨who, asked, own⟩

theorem Moves.attributing (moves : Moves errand pool after)
    (tended : pool.Tended errand.settings.source) (told : errand.IsTold reclaimed)
    (known : pool.Attributing errand reclaimed) : after.Attributing errand reclaimed := by
  induction moves with
  | refl => exact known
  | tail earlier move ih => exact move.attributing (Moves.tended earlier tended) told ih

omit [Driver σ] in
/-- Between operations none is in hand. -/
theorem Owns.attributing (owns : pool.Owns [])
    (attributed : pool.Attributed errand.settings.source reclaimed) :
    pool.Attributing errand reclaimed where
  toAttributed := attributed
  inHand w conn held outside := by
    have listed := owns.mem_of_slot held
    rw [List.append_nil] at listed
    exact absurd listed outside

end Pool

namespace World

/-! ## Runs -/

/-- The connection was opened where the data source points to, under the credentials
`who`. -/
def OpenedUnder (who : Credentials) (conn : ConnId) (world : World σ) : Prop :=
  ∃ request, world.pool.env.origin conn = some request ∧
    request.url = world.settings.source.url ∧ request.who = who

/-- Every idle connection was opened under the credentials that are the defaults now. -/
def IdlePure (world : World σ) : Prop :=
  ∀ w ∈ world.pool.idle, ∃ conn, world.pool.slot w = some conn ∧
    world.OpenedUnder world.settings.source.who conn

/-- In the step an acquisition under the default credentials claims the connection from
an overdue checkout that was made under others. -/
def Reclaims (step : Step σ) (conn : ConnId) (world : World σ) : Prop :=
  world.asks step = some world.settings.source.who ∧
    ∃ pool ∈ world.searches step, ∃ w,
      pool.Claims world.settings world.settings.source.who w ∧ pool.slot w = some conn ∧
      pool.fingerprint w ≠ some world.settings.source.fingerprint

/-- In a run, a step reclaimed the connection under the defaults of this data source. -/
def Reclaimed (past : List (World σ × Step σ)) (source : DataSource) (conn : ConnId) : Prop :=
  ∃ mid step, (mid, step) ∈ past ∧ mid.settings.source = source ∧ mid.Reclaims step conn

/-- Every idle connection was opened under the credentials that are the defaults now, or
under others and then reclaimed. -/
def IdleTraced (past : List (World σ × Step σ)) (world : World σ) : Prop :=
  ∀ w ∈ world.pool.idle, ∃ conn who, world.pool.slot w = some conn ∧
    world.OpenedUnder who conn ∧
    (who = world.settings.source.who ∨ Reclaimed past world.settings.source conn)

/-- All urls that were in force in a run, with the credentials that were the defaults
then or were asked for. -/
def logins (past : List (World σ × Step σ)) (world : World σ) : List (String × Credentials) :=
  (world.settings.source.url, world.settings.source.who) ::
    past.flatMap fun (mid, step) =>
      (mid.settings.source.who :: (mid.asks step).toList).map (mid.settings.source.url, ·)

/-- No two logins of the run have the same fingerprint. -/
def HasDistinctFingerprints (past : List (World σ × Step σ)) (world : World σ) : Prop :=
  ∀ a ∈ world.logins past, ∀ b ∈ world.logins past,
    Fingerprint.of a.1 a.2 = Fingerprint.of b.1 b.2 → a = b

omit [Driver σ] in
theorem HasDistinctFingerprints.tail {past : List (World σ × Step σ)} {world after : World σ}
    {step : Step σ} (distinct : after.HasDistinctFingerprints ((world, step) :: past)) :
    world.HasDistinctFingerprints past ∧ ∀ who, world.asks step = some who →
      world.settings.source.fingerprintFor who = world.settings.source.fingerprint →
        who = world.settings.source.who := by
  have own : (world.settings.source.url, world.settings.source.who) ∈
      after.logins ((world, step) :: past) := by
    simp [logins]
  constructor
  · have fewer : ∀ login ∈ world.logins past, login ∈ after.logins ((world, step) :: past) := by
      intro login h
      rcases List.mem_cons.1 h with rfl | earlier
      · exact own
      · unfold logins
        rw [List.flatMap_cons]
        exact List.mem_cons_of_mem _ (List.mem_append_right _ earlier)
    intro a ha b hb same
    exact distinct a (fewer a ha) b (fewer b hb) same
  · intro who asks same
    have asked : (world.settings.source.url, who) ∈ after.logins ((world, step) :: past) := by
      simp [logins, asks]
    exact (Prod.mk.inj (distinct _ asked _ own same)).2

/-- Whoever asks for a connection gives none back. -/
theorem errand_alone (step : Step σ) (world : World σ) (who : Credentials)
    (asks : (world.errand step).who = some who) : (world.errand step).returned = none := by
  cases step with
  | wake => rfl
  | act action =>
    cases action with
    | acquire => rfl
    | _ => cases asks

theorem isTold_errand {past : List (World σ × Step σ)} {world : World σ} {step : Step σ}
    (distinct : ∀ who, world.asks step = some who →
      world.settings.source.fingerprintFor who = world.settings.source.fingerprint →
        who = world.settings.source.who) :
    (world.errand step).IsTold (Reclaimed ((world, step) :: past) world.settings.source) where
  alone := world.errand_alone step
  distinct := distinct
  recorded asks pool searched w claims code _ held :=
    ⟨world, step, List.mem_cons_self, rfl, asks, pool, searched, w, claims, held, code⟩

theorem Reclaimed.cons {past : List (World σ × Step σ)} {source : DataSource} {conn : ConnId}
    (reclaimed : Reclaimed past source conn) (last : World σ × Step σ) :
    Reclaimed (last :: past) source conn := by
  obtain ⟨mid, step, listed, rest⟩ := reclaimed
  exact ⟨mid, step, List.mem_cons_of_mem _ listed, rest⟩

/-- Along a run, what is idle or was checked out under the default credentials belongs
to the default user. -/
theorem Leads.attributed {settings : Settings} {driver : σ} {world : World σ}
    {past : List (World σ × Step σ)} (leads : (World.start settings driver).Leads past world)
    (distinct : world.HasDistinctFingerprints past) :
    world.pool.Attributed world.settings.source (Reclaimed past world.settings.source) := by
  induction leads with
  | refl => exact ⟨by simp [World.start], by simp [World.start, Pool.slot]⟩
  | @step past world earlier step _ ih =>
    obtain ⟨before, own⟩ := distinct.tail
    have reachable := earlier.reachable .start
    cases reachable.sound.turn step with
    | drained _ drains =>
      exact ⟨by simp [drains.idle], fun w conn held => absurd held (drains.slot_ne w conn)⟩
    | moved moves source =>
      -- What the step itself reclaims has to count as reclaimed while its moves are made.
      have known := (ih before).mono fun _ reclaimed => reclaimed.cons (world, step)
      rw [source]
      exact (moves.attributing reachable.tended (isTold_errand own)
        (reachable.sound.owns.attributing known)).toAttributed

/-- If no two logins of a run have the same fingerprint, then every idle connection in
the end was opened under the credentials that are the defaults now, or it was opened
under others and an acquisition under the defaults claimed it from an overdue checkout
under others. -/
theorem idleTraced_of_leads {settings : Settings} {driver : σ} {world : World σ}
    {past : List (World σ × Step σ)} (leads : (World.start settings driver).Leads past world)
    (distinct : world.HasDistinctFingerprints past) : world.IdleTraced past := by
  intro w idle
  have reachable := leads.reachable .start
  obtain ⟨conn, who, held, made⟩ := reachable.listed_current w (List.mem_append_left _ idle)
  have opened (who : Credentials)
      (made : world.pool.env.Made world.settings.source who conn) : world.OpenedUnder who conn :=
    ⟨_, made.origin, rfl, rfl⟩
  rcases (leads.attributed distinct).idle w idle conn held with own | reclaimed
  · exact ⟨conn, _, held, opened _ own, .inl rfl⟩
  · exact ⟨conn, who, held, opened who made, .inr reclaimed⟩

/-! ## A connection that is lent on -/

/-- One connection may be checked out, and a checkout is overdue after a moment. -/
def lendingSettings : Settings :=
  { tightSettings with policy.maxActive := 1 }

/-- Credentials that are not the defaults of the example. -/
def alice : Credentials where
  user := some "alice"
  password := some "secret"

/-- A caller with credentials of her own gets the only connection and keeps it too long.
Another one claims it under the default credentials and gives it back. -/
def lendingSteps : List (Step Simulation.State) :=
  [.act (.acquire (some alice)), .act (.elapse 7), .act (.acquire none), .act (.drop 1)]

/-- The run that these steps make up. -/
def lendingPast : List (World Simulation.State × Step Simulation.State) :=
  (World.start lendingSettings {}).trail lendingSteps []

/-- What the steps come to: the connection that is idle in the end was opened for the
first caller. -/
theorem exists_lent : ∃ world,
    (World.start lendingSettings {}).follow lendingSteps = some world ∧
    world.HasDistinctFingerprints lendingPast ∧ world.pool.idle = [2] ∧
    world.pool.slot 2 = some 0 ∧ world.settings.source = lendingSettings.source ∧
    world.pool.env.origin 0 = some ⟨"db", alice, {}⟩ := by
  have listed : ((World.start lendingSettings ({} : Simulation.State)).follow lendingSteps).map
      (fun world => (world.pool.idle, world.pool.slot 2)) = some ([2], some 0) := by
    decide +kernel
  have sources : ((World.start lendingSettings ({} : Simulation.State)).follow lendingSteps).map
      (fun world => (world.settings.source, world.pool.env.origin 0)) =
      some (lendingSettings.source, some ⟨"db", alice, {}⟩) := by
    decide +kernel
  have logins : ((World.start lendingSettings ({} : Simulation.State)).follow lendingSteps).map
      (fun world => world.logins lendingPast) =
      some (List.replicate 6 ("db", ({} : Credentials)) ++ [("db", alice)]) := by
    decide +kernel
  obtain ⟨world, found, seen⟩ := Option.map_eq_some_iff.1 listed
  obtain ⟨idle, slot⟩ := Prod.mk.inj seen
  rw [found, Option.map_some, Option.some.injEq] at sources logins
  obtain ⟨source, origin⟩ := Prod.mk.inj sources
  refine ⟨world, found, ?_, idle, slot, source, origin⟩
  unfold HasDistinctFingerprints
  rw [logins]
  decide +kernel

/-- The fingerprints of the run `lendingSteps` are distinct, and yet it leaves a connection idle
that was not opened under the default credentials. -/
theorem lent_not_idlePure : ∃ world,
    (World.start lendingSettings {}).follow lendingSteps = some world ∧
    (World.start lendingSettings {}).Leads lendingPast world ∧
    world.HasDistinctFingerprints lendingPast ∧ ¬ world.IdlePure := by
  obtain ⟨world, found, distinct, idle, slot, source, origin⟩ := exists_lent
  refine ⟨world, found, Leads.refl.follow found, distinct, ?_⟩
  intro pure
  obtain ⟨conn, held, request, opened, -, asked⟩ := pure 2 (by simp [idle])
  obtain rfl : conn = 0 := Option.some.inj (held.symm.trans slot)
  obtain rfl := Option.some.inj (opened.symm.trans origin)
  rw [source] at asked
  exact absurd asked (by decide)

/-- The connection that the run `lendingSteps` leaves idle is traced to the step that claimed
it. -/
theorem lent_idleTraced : ∃ world,
    (World.start lendingSettings {}).follow lendingSteps = some world ∧
    (World.start lendingSettings {}).Leads lendingPast world ∧
    world.HasDistinctFingerprints lendingPast ∧ world.pool.idle = [2] ∧
    world.pool.slot 2 = some 0 ∧ world.OpenedUnder alice 0 ∧
    world.settings.source.who = {} ∧ world.IdleTraced lendingPast := by
  obtain ⟨world, found, distinct, idle, slot, source, origin⟩ := exists_lent
  have leads : (World.start lendingSettings {}).Leads lendingPast world :=
    Leads.refl.follow found
  refine ⟨world, found, leads, distinct, idle, slot, ⟨_, origin, ?_, rfl⟩, ?_,
    idleTraced_of_leads leads distinct⟩
  · rw [source]
    rfl
  · rw [source]
    rfl

end World

end ConnectionPooling
