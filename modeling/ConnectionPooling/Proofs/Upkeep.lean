/-
# What every move keeps

The laws that a pool keeps with every move, whatever operation the move belongs to:
each connection that is held was opened and set up as the data source asks, the last
thing said to an idle connection made sure that no transaction is open on it, and the
checkouts stand in the order in which they were made. `Tended` collects them.

A move also leaves the past alone. A wrapper that lost its connection never gets one
again, and a checkout stays where it is until it is given back or claimed.
-/

import ConnectionPooling.Proofs.Moves

namespace ConnectionPooling

/-- The entry is one that the operation may write: a holder speaks only if it is the
one to whom the operation leaves the word. -/
def Errand.Lets {σ : Type} (errand : Errand σ) (entry : Entry) : Prop :=
  ∀ conn, entry.isSpoken conn = true → errand.speaks = some conn

theorem Entry.IsOwn.lets {σ : Type} {entry : Entry} (own : entry.IsOwn) (errand : Errand σ) :
    errand.Lets entry := by
  intro conn spoken
  rw [own.isSpoken conn] at spoken
  cases spoken

namespace Pool

variable {σ : Type} [Driver σ] {errand : Errand σ} {pool after : Pool σ}

/-! ## Wrappers and journal -/

theorem Move.coherent (move : Move errand pool after) (coherent : pool.Coherent) :
    after.Coherent := by
  cases move with
  | look grows => exact coherent.talk (grows.mono fun _ event => event.isTalk)
  | count => exact coherent.relist _ _ _ _ _
  | touch w => exact (keepsHolding_used pool.now).coherent pool coherent w
  | speak _ _ _ grows => exact coherent.talk (grows.mono fun _ spoken => spoken.isTalk)
  | ask _ _ talks => exact coherent.talk talks
  | takeIdle => exact coherent.relist _ _ _ _ _
  | opened _ _ _ opens => exact coherent.enrol opens
  | refused _ _ refuses => exact coherent.refuse refuses
  | @claimed _ w rest old conn _ _ _ _ _ _ holds talks =>
    have listed : Coherent { pool.renew w old conn with active := rest } :=
      (coherent.renew holds).relist _ _ _ _ _
    exact listed.talk talks
  | discarded slot _ shuts => exact coherent.spend slot shuts
  | @handedOut who w =>
    exact ((keepsHolding_checkedOut (errand.settings.source.fingerprintFor who) pool.now).coherent
      pool coherent w).relist _ _ _ _ _
  | takenBack => exact coherent.relist _ _ _ _ _
  | kept holds => exact (coherent.renew holds).relist _ _ _ _ _

/-- The journal goes on with every move. -/
theorem Move.extends (move : Move errand pool after) :
    pool.env.Extends errand.Lets after.env := by
  have own {P : Entry → Prop} {env : Environment σ} (grows : pool.env.Grows P env)
      (all : ∀ entry, P entry → entry.IsOwn) : pool.env.Extends errand.Lets env :=
    (grows.extends fun entry said => (all entry said).opens).mono
      fun entry said => (all entry said).lets errand
  have connect {who : Credentials} {outcome : Except ConnectionError ConnId}
      {env : Environment σ}
      (h : (errand.settings.source.connect who).perform pool.env = (outcome, env)) :
      pool.env.Extends errand.Lets env := by
    have goesOn := errand.settings.source.extends_connect who pool.env
    rw [h] at goesOn
    apply goesOn.mono
    intro entry silent conn spoken
    rw [silent conn] at spoken
    cases spoken
  cases move with
  | look grows => exact own grows fun _ event => event.isOwn
  | speak speaks _ _ grows =>
    apply (grows.extends fun _ spoken => spoken.opens).mono
    intro entry spoken conn heard
    rw [spoken.isSpoken heard, speaks]
  | ask _ _ _ grows => exact own grows fun _ said => said.isOwn
  | opened _ _ connected => exact connect connected
  | refused _ connected => exact connect connected
  | claimed _ _ _ _ _ _ _ grows => exact own grows fun _ said => said.isOwn
  | discarded _ _ _ grows => exact own grows fun _ said => said.isOwn
  | count | touch | takeIdle | handedOut | takenBack | kept => exact .refl _ _

/-- Whoever holds a connection after a move held it before, or has a new wrapper: the
connection moved into that one, or it was opened for it. -/
theorem Move.slot_cases (move : Move errand pool after) {v : WrapperId} {conn : ConnId}
    (held : after.slot v = some conn) :
    (∃ u, pool.slot u = some conn ∧ (u = v ∨ pool.wrappers.size ≤ v)) ∨
      (pool.wrappers.size ≤ v ∧ ∃ who, errand.who = some who ∧
        after.env.Made errand.settings.source who conn) := by
  cases move with
  | look | count | speak | ask | takeIdle | refused | takenBack =>
    exact .inl ⟨v, held, .inl rfl⟩
  | touch =>
    rw [slot_touch] at held
    exact .inl ⟨v, held, .inl rfl⟩
  | handedOut =>
    rw [slot_handOut] at held
    exact .inl ⟨v, held, .inl rfl⟩
  | opened asked _ connect =>
    rw [slot_enrol] at held
    split at held
    · cases held
      exact .inr ⟨Nat.le_of_eq (Eq.symm ‹_›), _, asked, DataSource.made_of_connect connect⟩
    · exact .inl ⟨v, held, .inl rfl⟩
  | claimed _ _ _ _ _ holds =>
    obtain ⟨u, before, ⟨new, -⟩ | ⟨-, same⟩⟩ := holds.exists_slot_of_renew held
    · exact .inl ⟨u, before, .inr (Nat.le_of_eq new.symm)⟩
    · exact .inl ⟨u, before, .inl same⟩
  | kept holds =>
    obtain ⟨u, before, ⟨new, -⟩ | ⟨-, same⟩⟩ := holds.exists_slot_of_renew held
    · exact .inl ⟨u, before, .inr (Nat.le_of_eq new.symm)⟩
    · exact .inl ⟨u, before, .inl same⟩
  | discarded =>
    rw [slot_spend] at held
    split at held
    · cases held
    · exact .inl ⟨v, held, .inl rfl⟩

theorem Move.size_le (move : Move errand pool after) :
    pool.wrappers.size ≤ after.wrappers.size := by
  cases move with
  | look | count | speak | ask | takeIdle | refused | takenBack => exact Nat.le_refl _
  | touch | handedOut | discarded => exact Nat.le_of_eq (size_alter pool _ _).symm
  | opened => simp [enrol]
  | claimed | kept => simp [renew, wrap, size_alter]

/-- An old wrapper gets no connection. -/
theorem Move.slot_old (move : Move errand pool after) {w : WrapperId} {conn : ConnId}
    (old : w < pool.wrappers.size) (held : after.slot w = some conn) :
    pool.slot w = some conn := by
  rcases move.slot_cases held with ⟨u, before, rfl | new⟩ | ⟨new, -⟩
  · exact before
  · exact absurd old (Nat.not_lt.2 new)
  · exact absurd old (Nat.not_lt.2 new)

/-! ## Idle connections -/

omit [Driver σ] in
/-- What is said to a connection that a listed wrapper does not hold leaves the
connection of that wrapper clean. -/
theorem Coherent.clean_of_grow (coherent : pool.Coherent) {P : Entry → Prop} {v w : WrapperId}
    {conn said : ConnId} {env : Environment σ} (held : pool.slot v = some conn)
    (other : pool.slot w = some said) (different : w ≠ v) (clean : pool.env.Clean conn)
    (grows : pool.env.Grows P env)
    (silent : said ≠ conn → ∀ entry, P entry → entry.calls conn = false) : env.Clean conn := by
  apply clean.grow grows
  apply silent
  rintro rfl
  exact different (coherent.slot_inj other held)

theorem Move.clean (move : Move errand pool after) (coherent : pool.Coherent)
    (clean : ∀ v ∈ pool.idle, ∀ conn, pool.slot v = some conn → pool.env.Clean conn) :
    ∀ v ∈ after.idle, ∀ conn, after.slot v = some conn → after.env.Clean conn := by
  intro v idle conn held
  cases move with
  | count => exact clean v idle conn held
  | takenBack => exact clean v idle conn held
  | look grows =>
    exact (clean v idle conn held).grow grows fun _ event => event.calls conn
  | touch =>
    rw [slot_touch] at held
    exact clean v idle conn held
  | handedOut =>
    rw [slot_handOut] at held
    exact clean v idle conn held
  | @speak w said _ _ slot busy grows =>
    apply coherent.clean_of_grow held slot _ (clean v idle conn held) grows
    · exact fun different _ spoken => spoken.calls different
    · rintro rfl
      exact busy idle
  | @ask w said _ slot inHand _ grows =>
    apply coherent.clean_of_grow held slot _ (clean v idle conn held) grows
    · exact fun different _ asked => asked.calls different
    · rintro rfl
      exact inHand (List.mem_append_left _ idle)
  | @takeIdle w rest front =>
    apply clean v _ conn held
    rw [front]
    exact List.mem_cons_of_mem w idle
  | opened _ none => simp [enrol, none] at idle
  | refused none => simp [none] at idle
  | claimed _ _ _ none => simp [renew, wrap, alter, none] at idle
  | @discarded w said _ slot inHand _ grows =>
    have different : w ≠ v := by
      rintro rfl
      exact inHand (List.mem_append_left _ idle)
    rw [slot_spend, if_neg different] at held
    exact coherent.clean_of_grow held slot different (clean v idle conn held) grows
      fun different _ asked => asked.calls different
  | @kept w old own holds inHand ownClean =>
    have held : (pool.renew w old own).slot v = some conn := held
    rw [slot_renew] at held
    split at held
    · cases held
      exact ownClean
    · rename_i old
      have wasIdle : v ∈ pool.idle := by
        rcases List.mem_append.1 idle with h | h
        · exact h
        · exact absurd (List.mem_singleton.1 h) old
      rw [slot_spend] at held
      split at held
      · cases held
      · exact clean v wasIdle conn held

/-! ## Checkouts -/

/-- When a wrapper was checked out last. -/
def checkoutAt (pool : Pool σ) (w : WrapperId) : Instant :=
  (pool.wrappers[w]?.map Wrapper.checkoutAt).getD 0

/-- The checkouts stand in the order in which they were made. -/
structure Queued (pool : Pool σ) : Prop where
  sorted : pool.active.Pairwise fun v w => pool.checkoutAt v ≤ pool.checkoutAt w
  past : ∀ w ∈ pool.active, pool.checkoutAt w ≤ pool.now
  exist : ∀ w ∈ pool.active, w < pool.wrappers.size

omit [Driver σ] in
/-- Of the checkouts, the first one has lasted longest. -/
theorem Queued.checkoutTime_le (queued : pool.Queued) {v w : WrapperId} {rest : List WrapperId}
    (active : pool.active = w :: rest) (listed : v ∈ pool.active) :
    pool.checkoutTime v ≤ pool.checkoutTime w := by
  have sorted := queued.sorted
  rw [active] at sorted listed
  apply Nat.sub_le_sub_left
  rcases List.mem_cons.1 listed with rfl | later
  · exact Nat.le_refl _
  · exact List.rel_of_pairwise_cons sorted later

omit [Driver σ] in
/-- Checkouts may leave the list while time passes. -/
theorem Queued.thin (queued : pool.Queued) (fewer : after.active.Sublist pool.active)
    (same : ∀ w ∈ pool.active, after.checkoutAt w = pool.checkoutAt w)
    (clock : pool.now ≤ after.now) (size : pool.wrappers.size ≤ after.wrappers.size) :
    after.Queued where
  sorted := by
    apply (queued.sorted.sublist fewer).imp_of_mem
    intro v w hv hw h
    rwa [same v (fewer.subset hv), same w (fewer.subset hw)]
  past w hw := by
    rw [same w (fewer.subset hw)]
    exact Nat.le_trans (queued.past w (fewer.subset hw)) clock
  exist w hw := Nat.lt_of_lt_of_le (queued.exist w (fewer.subset hw)) size

omit [Driver σ] in
theorem checkoutAt_alter (pool : Pool σ) {w v : WrapperId} {update : Wrapper → Wrapper}
    (keeps : ∀ wrapper, (update wrapper).checkoutAt = wrapper.checkoutAt) :
    (pool.alter w update).checkoutAt v = pool.checkoutAt v :=
  congrArg (Option.getD · 0) (pool.map_wrappers_alter w v keeps)

omit [Driver σ] in
theorem checkoutAt_renew (pool : Pool σ) {w v : WrapperId} (old : Wrapper) (conn : ConnId)
    (exist : v < pool.wrappers.size) :
    (pool.renew w old conn).checkoutAt v = pool.checkoutAt v := by
  have same : (pool.renew w old conn).wrappers[v]? = (pool.alter w Wrapper.spent).wrappers[v]? := by
    rw [wrappers_renew, if_neg (Nat.ne_of_lt exist)]
    rfl
  rw [checkoutAt, same]
  exact pool.checkoutAt_alter fun _ => rfl

theorem Move.queued (move : Move errand pool after) (coherent : pool.Coherent)
    (queued : pool.Queued) : after.Queued := by
  have clock := move.extends.clock
  have size := move.size_le
  cases move with
  | look | count | speak | ask | takeIdle | refused =>
    exact queued.thin (List.Sublist.refl _) (fun _ _ => rfl) clock size
  | touch w =>
    refine queued.thin (List.Sublist.refl pool.active) (fun v _ => ?_) clock size
    exact pool.checkoutAt_alter fun _ => rfl
  | discarded =>
    refine queued.thin ?_ (fun v _ => ?_) clock size
    · exact List.Sublist.refl pool.active
    · exact pool.checkoutAt_alter fun _ => rfl
  | opened =>
    refine queued.thin ?_ (fun v hv => ?_) clock size
    · exact List.Sublist.refl pool.active
    · simp only [checkoutAt, enrol, wrappers_push, if_neg (Nat.ne_of_lt (queued.exist v hv))]
  | claimed _ _ _ _ active =>
    refine queued.thin ?_ (fun v hv => ?_) clock size
    · rw [active]
      exact List.sublist_cons_self _ _
    · exact pool.checkoutAt_renew _ _ (queued.exist v hv)
  | takenBack =>
    exact queued.thin List.erase_sublist (fun _ _ => rfl) clock size
  | kept =>
    refine queued.thin ?_ (fun v hv => ?_) clock size
    · exact List.Sublist.refl pool.active
    · exact pool.checkoutAt_renew _ _ (queued.exist v hv)
  | @handedOut who w conn asked slot inHand clean started =>
    have exist := coherent.lt_size_of_slot slot
    have now : (pool.alter w (·.checkedOut (errand.settings.source.fingerprintFor who)
        pool.now)).checkoutAt w = pool.now := by
      simp only [checkoutAt, wrappers_alter, if_pos, Array.getElem?_eq_getElem exist,
        Option.map_some, Option.getD_some, Wrapper.checkedOut]
    have same : ∀ v ∈ pool.active, (pool.alter w (·.checkedOut
        (errand.settings.source.fingerprintFor who) pool.now)).checkoutAt v =
          pool.checkoutAt v := by
      intro v hv
      have different : w ≠ v := by
        rintro rfl
        exact inHand (List.mem_append_right _ hv)
      simp only [checkoutAt, wrappers_alter, if_neg different]
    have before : Queued (pool.alter w (·.checkedOut
        (errand.settings.source.fingerprintFor who) pool.now)) :=
      queued.thin (List.Sublist.refl _) same clock size
    constructor
    case sorted =>
      show (pool.active ++ [w]).Pairwise _
      rw [List.pairwise_append]
      refine ⟨before.sorted, List.pairwise_singleton _ _, ?_⟩
      intro v hv u hu
      rw [List.mem_singleton.1 hu]
      exact Nat.le_trans (before.past v hv) (Nat.le_of_eq now.symm)
    case past =>
      intro v hv
      rcases List.mem_append.1 hv with hv | hv
      · exact before.past v hv
      · rw [List.mem_singleton.1 hv]
        exact Nat.le_of_eq now
    case exist =>
      intro v hv
      rcases List.mem_append.1 hv with hv | hv
      · exact before.exist v hv
      · rw [List.mem_singleton.1 hv]
        exact Nat.lt_of_lt_of_le exist size

/-- A checkout stays what it is unless it is given back or a search claims it. -/
theorem Move.checkout (move : Move errand pool after) (coherent : pool.Coherent)
    {w : WrapperId} {conn : ConnId} (listed : w ∈ pool.active)
    (held : pool.slot w = some conn) :
    (w ∈ after.active ∧ after.slot w = some conn) ∨ errand.returned = some w ∨
      ∃ who, errand.who = some who ∧ pool ∈ errand.searched ∧
        pool.Claims errand.settings who w := by
  have exist := Nat.ne_of_lt (coherent.lt_size_of_slot held)
  have renewed {v : WrapperId} {old : Wrapper} {other : ConnId} (different : v ≠ w) :
      (pool.renew v old other).slot w = some conn := by
    rw [slot_renew, if_neg exist, slot_spend, if_neg different, held]
  cases move with
  | look | count | speak | ask | takeIdle | refused => exact .inl ⟨listed, held⟩
  | touch v =>
    exact .inl ⟨listed, (pool.slot_touch v w).trans held⟩
  | opened =>
    refine .inl ⟨listed, ?_⟩
    rw [slot_enrol, if_neg exist, held]
  | @claimed who v rest old other _ asked searched claims idle active =>
    by_cases same : v = w
    · subst same
      exact .inr (.inr ⟨who, asked, searched, claims⟩)
    · rw [active, List.mem_cons] at listed
      exact .inl ⟨listed.resolve_left (Ne.symm same), renewed same⟩
  | @discarded v _ _ _ inHand =>
    refine .inl ⟨listed, ?_⟩
    rw [slot_spend, if_neg, held]
    rintro rfl
    exact inHand (List.mem_append_right _ listed)
  | @handedOut who v =>
    refine .inl ⟨List.mem_append_left _ listed, ?_⟩
    rw [slot_handOut, held]
  | @takenBack v returned =>
    by_cases same : v = w
    · exact .inr (.inl (same ▸ returned))
    · exact .inl ⟨(List.mem_erase_of_ne (Ne.symm same)).2 listed, held⟩
  | @kept v _ _ _ inHand =>
    refine .inl ⟨listed, renewed ?_⟩
    rintro rfl
    exact inHand (List.mem_append_right _ listed)

/-! ## All laws together -/

/-- The wrappers agree with the journal, each connection that is held was set up as the
data source asks, the idle ones are clean, and the checkouts stand in order. -/
structure Tended (source : DataSource) (pool : Pool σ) : Prop
    extends Coherent pool, Queued pool where
  made : ∀ w conn, pool.slot w = some conn → ∃ who, pool.env.Made source who conn
  clean : ∀ w ∈ pool.idle, ∀ conn, pool.slot w = some conn → pool.env.Clean conn
  expected : pool.expected = source.fingerprint

theorem Move.expected (move : Move errand pool after) : after.expected = pool.expected := by
  cases move <;> rfl

theorem Move.tended (move : Move errand pool after)
    (tended : pool.Tended errand.settings.source) : after.Tended errand.settings.source where
  toCoherent := move.coherent tended.toCoherent
  toQueued := move.queued tended.toCoherent tended.toQueued
  made w conn held := by
    rcases move.slot_cases held with ⟨u, before, -⟩ | ⟨-, who, -, made⟩
    · obtain ⟨who, made⟩ := tended.made u conn before
      exact ⟨who, move.extends.made (tended.accounts.held_lt ⟨u, before⟩) made⟩
    · exact ⟨who, made⟩
  clean := move.clean tended.toCoherent tended.clean
  expected := move.expected.trans tended.expected

theorem Moves.tended (moves : Moves errand pool after)
    (tended : pool.Tended errand.settings.source) : after.Tended errand.settings.source := by
  induction moves with
  | refl => exact tended
  | tail _ move ih => exact move.tended ih

theorem Moves.extends (moves : Moves errand pool after) :
    pool.env.Extends errand.Lets after.env := by
  induction moves with
  | refl => exact .refl _ _
  | tail _ move ih => exact ih.trans move.extends

theorem Moves.size_le (moves : Moves errand pool after) :
    pool.wrappers.size ≤ after.wrappers.size := by
  induction moves with
  | refl => exact Nat.le_refl _
  | tail _ move ih => exact Nat.le_trans ih move.size_le

/-- An old wrapper gets no connection. -/
theorem Moves.slot_old (moves : Moves errand pool after) {w : WrapperId} {conn : ConnId}
    (old : w < pool.wrappers.size) (held : after.slot w = some conn) :
    pool.slot w = some conn := by
  induction moves with
  | refl => exact held
  | tail earlier move ih =>
    exact ih (move.slot_old (Nat.lt_of_lt_of_le old (Moves.size_le earlier)) held)

/-- A checkout stays what it is unless it is given back or one of the searches claims
it. -/
theorem Moves.checkout (moves : Moves errand pool after) (coherent : pool.Coherent)
    {w : WrapperId} {conn : ConnId} (listed : w ∈ pool.active)
    (held : pool.slot w = some conn) :
    (w ∈ after.active ∧ after.slot w = some conn) ∨ errand.returned = some w ∨
      ∃ who, errand.who = some who ∧ ∃ found ∈ errand.searched,
        found.Claims errand.settings who w ∧ found.slot w = some conn := by
  have all : after.Coherent ∧ ((w ∈ after.active ∧ after.slot w = some conn) ∨
      errand.returned = some w ∨ ∃ who, errand.who = some who ∧ ∃ found ∈ errand.searched,
        found.Claims errand.settings who w ∧ found.slot w = some conn) := by
    induction moves with
    | refl => exact ⟨coherent, .inl ⟨listed, held⟩⟩
    | @tail mid _ _ move ih =>
      obtain ⟨sane, still | gone⟩ := ih
      · refine ⟨move.coherent sane, ?_⟩
        rcases move.checkout sane still.1 still.2 with kept | returned | claimed
        · exact .inl kept
        · exact .inr (.inl returned)
        · obtain ⟨who, asked, searched, claims⟩ := claimed
          exact .inr (.inr ⟨who, asked, mid, searched, claims, still.2⟩)
      · exact ⟨move.coherent sane, .inr gone⟩
  exact all.2

end Pool

end ConnectionPooling
