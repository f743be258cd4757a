/-
# Which handle has which checkout

Handles are numbered and never forgotten, like wrappers. `Assigns` says that every
checkout of a pool belongs to a handle that was not given back, and that no two
handles stand for the same wrapper, so that there is only one such handle. It is kept
when a connection is handed out, when one is given back, and when the pool merely
loses some of its connections.
-/

import ConnectionPooling.World.Basic
import ConnectionPooling.Proofs.Return

namespace ConnectionPooling

variable {σ : Type}

/-- The checkouts of a pool are those of the handles that were not given back. -/
structure Assigns (handles : Array Handle) (pool : Pool σ) : Prop where
  /-- No two handles stand for the same wrapper. -/
  inj : ∀ {g h : HandleId} {first second : Handle}, handles[g]? = some first →
    handles[h]? = some second → first.wrapper = second.wrapper → g = h
  /-- No handle stands for an idle wrapper or for one that does not exist yet. -/
  busy : ∀ {h : HandleId} {handle : Handle}, handles[h]? = some handle →
    handle.wrapper ∉ pool.idle ∧ handle.wrapper < pool.wrappers.size
  /-- Every checkout has a handle that was not given back. -/
  held : ∀ w ∈ pool.active, ∃ (h : HandleId) (handle : Handle),
    handles[h]? = some handle ∧ handle.wrapper = w ∧ handle.stage = .held

namespace Assigns

variable {handles : Array Handle} {before after : Pool σ}

theorem draw (assigns : Assigns handles before) (draws : before.Draws after) :
    Assigns handles after where
  inj := assigns.inj
  busy found := by
    obtain ⟨notIdle, inside⟩ := assigns.busy found
    exact ⟨fun idle => notIdle (draws.idle.subset idle), Nat.lt_of_lt_of_le inside draws.size⟩
  held w hw := assigns.held w (draws.active.subset hw)

/-- A wrapper that an acquisition got is not that of any earlier handle. -/
theorem ne_grant (assigns : Assigns handles before) {w : WrapperId}
    (leaves : before.Leaves (.granted w) after) {h : HandleId} {handle : Handle}
    (found : handles[h]? = some handle) : handle.wrapper ≠ w := by
  intro same
  obtain ⟨notIdle, inside⟩ := assigns.busy found
  rcases leaves.fresh w List.mem_cons_self with wasIdle | new
  · exact notIdle (same ▸ wasIdle)
  · lia

/-- A connection is handed out with a new handle. -/
theorem grant (assigns : Assigns handles before) {w : WrapperId} (owns : after.Owns [])
    (leaves : before.Leaves (.granted w) after) :
    Assigns (handles.push { wrapper := w }) after := by
  obtain ⟨kept, suffix, active⟩ := leaves.active
  have listed : w ∈ after.active := by simp [active, Progress.grant]
  have valid : after.isValid w = true := (owns.isValid_iff w).2 (by simp [listed])
  have cases : ∀ {h : HandleId} {handle : Handle},
      (handles.push { wrapper := w })[h]? = some handle →
        (h = handles.size ∧ handle.wrapper = w) ∨ handles[h]? = some handle := by
    intro h handle found
    rw [Array.getElem?_push] at found
    split at found
    · cases found
      exact .inl ⟨‹_›, rfl⟩
    · exact .inr found
  constructor
  case inj =>
    intro g h first second hg hh same
    rcases cases hg with ⟨rfl, new⟩ | oldG
    · rcases cases hh with ⟨rfl, -⟩ | oldH
      · rfl
      · exact absurd (same.symm.trans new) (assigns.ne_grant leaves oldH)
    · rcases cases hh with ⟨rfl, new⟩ | oldH
      · exact absurd (same.trans new) (assigns.ne_grant leaves oldG)
      · exact assigns.inj oldG oldH same
  case busy =>
    intro h handle found
    rcases cases found with ⟨-, same⟩ | found
    · rw [same]
      refine ⟨fun idle => ?_, Pool.lt_size_of_isValid valid⟩
      have nodup := owns.nodup
      rw [List.append_nil] at nodup
      exact List.disjoint_of_nodup_append nodup idle listed
    · obtain ⟨notIdle, inside⟩ := assigns.busy found
      exact ⟨fun idle => notIdle (leaves.idle.subset idle),
        Nat.lt_of_lt_of_le inside leaves.size⟩
  case held =>
    intro v hv
    rw [active, List.mem_append] at hv
    rcases hv with hv | hv
    · obtain ⟨h, handle, found, same, stage⟩ := assigns.held v (suffix.subset hv)
      refine ⟨h, handle, ?_, same, stage⟩
      obtain ⟨inside, -⟩ := Array.getElem?_eq_some_iff.1 found
      rw [Array.getElem?_push, if_neg (Nat.ne_of_lt inside), found]
    · obtain rfl := List.mem_singleton.1 hv
      exact ⟨handles.size, { wrapper := v }, Array.getElem?_push_size, rfl, rfl⟩

/-- A handle goes into a new stage. If it was not given back before, its wrapper must
have left the checkouts. -/
theorem giveBack (assigns : Assigns handles before) {h : HandleId} {handle : Handle}
    (found : handles[h]? = some handle) (stage : Stage)
    (idle : ∀ w ∈ after.idle, w ∈ before.idle ∨ before.wrappers.size ≤ w)
    (size : before.wrappers.size ≤ after.wrappers.size)
    (active : ∀ w ∈ after.active,
      w ∈ before.active ∧ (handle.stage = .held → w ≠ handle.wrapper)) :
    Assigns (handles.modify h ({ · with stage := stage })) after := by
  have earlier : ∀ {g : HandleId} {other : Handle},
      (handles.modify h ({ · with stage := stage }))[g]? = some other →
        ∃ same, handles[g]? = some same ∧ same.wrapper = other.wrapper := by
    intro g other hg
    rw [Array.getElem?_modify] at hg
    split at hg
    · obtain ⟨same, hsame, rfl⟩ := Option.map_eq_some_iff.1 hg
      exact ⟨same, hsame, rfl⟩
    · exact ⟨other, hg, rfl⟩
  constructor
  case inj =>
    intro g g' first second hg hg' same
    obtain ⟨a, ha, sameA⟩ := earlier hg
    obtain ⟨b, hb, sameB⟩ := earlier hg'
    exact assigns.inj ha hb (sameA.trans (same.trans sameB.symm))
  case busy =>
    intro g other hg
    obtain ⟨same, hsame, wrapper⟩ := earlier hg
    obtain ⟨notIdle, inside⟩ := assigns.busy hsame
    rw [wrapper] at notIdle inside
    refine ⟨fun isIdle => ?_, Nat.lt_of_lt_of_le inside size⟩
    rcases idle _ isIdle with wasIdle | new
    · exact notIdle wasIdle
    · lia
  case held =>
    intro w hw
    obtain ⟨wasActive, left⟩ := active w hw
    obtain ⟨g, other, hg, wrapper, otherStage⟩ := assigns.held w wasActive
    have different : g ≠ h := by
      rintro rfl
      rw [found] at hg
      cases hg
      exact left otherStage wrapper.symm
    refine ⟨g, other, ?_, wrapper, otherStage⟩
    rw [Array.getElem?_modify, if_neg (Ne.symm different), hg]

end Assigns

end ConnectionPooling
