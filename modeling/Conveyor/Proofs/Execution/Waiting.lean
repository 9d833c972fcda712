/-
**Who still waits in the open stage.**

Those who wait for a slot are let in one by one, and nobody is taken out of the queue except by an
abort, which takes out everybody.

Main definitions:

* `Conveyor.OpenStage.SentAwayTogether` — where somebody was taken out of the queue before it was
  started, nobody waits any more.

Main results:

* `Conveyor.Worker.Sound.point_of_pending` — a worker whose instance is pending waits, or was taken
  out of the queue;
* `Conveyor.Execution.Change.sentAwayTogether` — every change but an abort keeps this.
-/

import Conveyor.Proofs.Execution.Change

set_option autoImplicit false

namespace Conveyor

/-- A worker whose instance is pending waits for a slot, or was aborted while it did. -/
theorem Worker.Sound.point_of_pending {w : Worker} (h : w.Sound) (hp : w.inst.status = .pending) :
    w.point = .queued ∨ w.point = .ended true := by
  rcases w.point.queued_or_holdsSlot_or_ended with hpt | hslot | ⟨aborted, hpt⟩
  · exact .inl hpt
  · exact absurd hp (carries_self h hslot).touched
  · have hfits := h.fits
    rw [hpt, hp] at hfits
    rcases hfits with hended | ⟨rfl, _⟩
    · cases hended
    · exact .inr hpt

/-- Whoever is given its slot is not pending any more. -/
theorem Worker.touched_begin {w : Worker} (wd : String) (halted : Bool) (h : w.Sound)
    (hp : w.point = .queued) : (w.begin wd halted).worker.inst.status ≠ .pending := by
  rcases begin_cases wd halted h hp with ⟨hs, he⟩ | ⟨_, _, he⟩ | ⟨_, _, he⟩
  · simp [he, hs]
  · rw [he]
    exact StageReport.status_cancelIfPending_ne_pending _ w.inst
  · have hc : Carries { w with inst := w.inst.enter .startingServices }
        (nextService { w with inst := w.inst.enter .startingServices } wd false []
          w.inst.job.services).worker := carries_nextService h.refused rfl
    rw [he]
    exact hc.touched

/-- A turn that is no abort does nothing, or it leaves a worker that neither waits nor is
pending. -/
theorem Worker.act_eq_self_or_left {w : Worker} (wd : String) (halted : Bool) {a : Act}
    (h : w.Sound) (hb : a = .begin → w.point = .queued) (ha : a ≠ .abort) :
    (w.act wd halted a).worker = w ∨ ((w.act wd halted a).worker.point ≠ .queued ∧
      (w.act wd halted a).worker.inst.status ≠ .pending) := by
  have hne {p : Point} (hp : p.isQueued = false) : p ≠ .queued := by
    rintro rfl
    cases hp
  by_cases hbegin : a = .begin
  · have hpt := hb hbegin
    rw [hbegin, act]
    exact .inr ⟨hne (sound_begin wd halted h hpt).2.1, touched_begin wd halted h hpt⟩
  · rcases w.point.queued_or_holdsSlot_or_ended with hpt | hslot | ⟨aborted, hpt⟩
    · exact .inl (by rw [act_of_queued wd halted hpt hbegin ha])
    · have hc : w.Carries (w.act wd halted a).worker := carries_act h hslot hbegin
      exact .inr ⟨hne hc.left, hc.touched⟩
    · exact .inl (by rw [act_of_ended wd halted hpt hbegin])

/-- Whoever is aborted does not wait any more. -/
theorem Worker.point_abort_ne_queued {w : Worker} (h : w.Sound) :
    w.abort.worker.point ≠ .queued := by
  intro hq
  rcases w.point.queued_or_holdsSlot_or_ended with hpt | hslot | ⟨aborted, hpt⟩
  · simp [abort_of_queued hpt] at hq
  · have hleft := (carries_abort h hslot).left
    simp [hq, Point.isQueued] at hleft
  · simp [abort, hpt] at hq

namespace OpenStage

/-- Where somebody was taken out of the queue before it was started, nobody waits any more. -/
def SentAwayTogether (s : OpenStage) : Prop :=
  ∀ v ∈ s.workers, v.point = .ended true → v.inst.status = .pending →
    ∀ w ∈ s.workers, w.point ≠ .queued

end OpenStage

namespace Execution

/-- In the open stage of an execution, if there is one. -/
def SentAwayTogether (e : Execution) : Prop := ∀ s, e.current = some s → s.SentAwayTogether

variable {may : Act → Prop} {wd : String} {halted failFast : Bool} {e e' : Execution}

/-- Every change but an abort keeps this: nobody else is taken out of the queue. -/
theorem Change.sentAwayTogether (hsound : e.Sound) (hmay : ∀ a, may a → a ≠ .abort)
    (h : e.SentAwayTogether) (hc : Change may wd halted failFast e e') : e'.SentAwayTogether := by
  cases hc with
  | @turn s w a ha hs hw hb =>
      intro s' hs' v hv hended hpending u hu hqueued
      obtain rfl := Option.some.inj hs'
      have hws := hsound.workers s hs w hw
      -- neither of the two has moved, so that they stood like this before
      have hbefore {x : Worker} (hx : x ∈ ((s.put (w.act wd halted a).worker).noteOutcome failFast
          (w.act wd halted a).worker).workers)
          (hstay : x.point = .queued ∨ x.inst.status = .pending) :
          ∃ y ∈ s.workers, x.point = y.point ∧
            (x.inst.status = .pending → y.inst.status = .pending) := by
        obtain ⟨y, hy, hxy⟩ := OpenStage.mem_workers_turn hx
        obtain ⟨hpoint, hpend⟩ : x.point = y.point ∧
            (x.inst.status = .pending → y.inst.status = .pending) := by
          rcases hxy with rfl | ⟨reason, rfl⟩
          · exact ⟨rfl, fun hp => hp⟩
          · exact ⟨rfl, fun hp =>
              absurd hp (StageReport.status_cancelIfPending_ne_pending reason y.inst)⟩
        rcases hy with rfl | ⟨hy, _⟩
        · rcases Worker.act_eq_self_or_left wd halted hws hb (hmay a ha) with hstill | hleft
          · exact ⟨w, hw, hstill ▸ hpoint, fun hp => hstill ▸ hpend hp⟩
          · rcases hstay with hq | hp
            · exact absurd (hpoint ▸ hq) hleft.1
            · exact absurd (hpend hp) hleft.2
        · exact ⟨y, hy, hpoint, hpend⟩
      obtain ⟨v', hv', hvpoint, hvpending⟩ := hbefore hv (.inr hpending)
      obtain ⟨u', hu', hupoint, _⟩ := hbefore hu (.inl hqueued)
      exact h s hs v' hv' (hvpoint.symm.trans hended) (hvpending hpending) u' hu'
        (hupoint.symm.trans hqueued)
  | cancelPending reason _ =>
      intro s' hs' v hv _ hpending
      obtain ⟨s, _, rfl⟩ := Option.map_eq_some_iff.1 hs'
      obtain ⟨x, _, rfl⟩ := List.mem_map.1 hv
      exact absurd hpending (StageReport.status_cancelIfPending_ne_pending reason x.inst)
  | close _ _ _ _ =>
      intro s' hs'
      cases hs'
  | skip _ hcur _ _ _ =>
      intro s' hs'
      cases hcur.symm.trans hs'
  | openStage _ _ _ _ _ =>
      intro s' hs' v hv hended
      obtain rfl := Option.some.inj hs'
      obtain ⟨i, _, rfl⟩ := List.mem_map.1 hv
      cases hended
  | conclude _ _ _ => exact h
  | giveUp _ _ _ => exact h

end Execution

end Conveyor
