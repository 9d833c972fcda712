/-
**When an instance is started, and by what.**

An instance is started by the first turn of its worker, when the run was not cancelled, and by
nothing else.  One that was never started is pending or cancelled.

Main definitions:

* `Conveyor.JobInstance.Traced` — the status of an instance tells whether it was started;
* `Conveyor.Worker.Traced` — so does that of the instance of a worker, and one that failed was not
  aborted.

Main results:

* `Conveyor.Worker.started_act`, `Conveyor.Worker.started_begin` — the only way to be started;
* `Conveyor.Worker.traced_act` — every turn leaves a traced worker.
-/

import Conveyor.Proofs.Plan
import Conveyor.Proofs.Worker.Leads

set_option autoImplicit false

namespace Conveyor

/-! ### Instances -/

/-- The status of an instance tells whether it was started. -/
structure JobInstance.Traced (i : JobInstance) : Prop where
  pending : i.status = .pending → i.started = false
  unstarted : i.started = false → i.status = .pending ∨ i.status = .cancelled

/-- An instance that was started and is not pending. -/
theorem JobInstance.Traced.of_started {i : JobInstance} (hs : i.started = true)
    (hp : i.status ≠ .pending) : i.Traced :=
  ⟨fun h => absurd h hp, fun h => by simp [hs] at h⟩

theorem JobInstance.WellPlanned.started_eq {n : String} {i : JobInstance} (h : i.WellPlanned n) :
    i.started = false := by
  rw [← h.untouched]
  rfl

theorem JobInstance.WellPlanned.traced {n : String} {i : JobInstance} (h : i.WellPlanned n) :
    i.Traced :=
  ⟨fun _ => h.started_eq, fun _ => .inl h.status_eq⟩

@[simp] theorem StageReport.started_cancelIfPending (reason : String) (i : JobInstance) :
    (cancelIfPending reason i).started = i.started := by
  by_cases h : i.status = .pending
  · rw [cancelIfPending_of_pending h]
    simp [JobInstance.enter]
  · rw [cancelIfPending_of_ne h]

theorem JobInstance.Traced.cancelIfPending {i : JobInstance} (h : i.Traced) (reason : String) :
    (StageReport.cancelIfPending reason i).Traced where
  pending hp := absurd hp (StageReport.status_cancelIfPending_ne_pending reason i)
  unstarted hs := by
    rw [StageReport.status_cancelIfPending]
    rcases h.unstarted (by simpa using hs) with hp | hc
    · exact .inr (if_pos hp)
    · exact .inr (by simp [hc])

namespace Worker

variable {w : Worker} {wd : String} {halted : Bool}

/-! ### The only way to be started -/

theorem started_conclude (w : Worker) (o : Outcome) :
    (w.conclude o).worker.inst.started = w.inst.started := by
  cases o with
  | succeeded =>
      have hlast : ((w.move .collectingArtifacts).collect.move .succeeded).inst.started =
          (w.move .collectingArtifacts).collect.inst.started := started_attempt (by simp)
      have hfirst : (w.move .collectingArtifacts).collect.inst.started = w.inst.started :=
        started_attempt (i := w.inst) (by simp)
      exact hlast.trans hfirst
  | failed f =>
      exact started_attempt (i := { w.inst with
        error := some f.message, errorKind := some f.kindName }) (by simp)
  | cancelled reason =>
      exact started_attempt (i := { w.inst with
        error := some reason, errorKind := some "CancellationError" }) (by simp)
  | aborted =>
      unfold conclude
      split
      rename_i heq
      obtain ⟨rfl, rfl⟩ := Prod.mk.inj heq
      split
      · rfl
      · exact started_attempt (i := { w.inst with
          error := some abortText, errorKind := some "CancellationError" }) (by simp)

theorem started_unwind (w : Worker) (up : List String) (o : Outcome) :
    (w.unwind up o).worker.inst.started = w.inst.started := by
  cases up with
  | nil => exact started_conclude w o
  | cons name rest => rfl

theorem Leads.started {t : Turn} (h : Leads wd halted w t) :
    t.worker.inst.started = w.inst.started := by
  cases h with
  | moves p notes _ _ => rfl
  | unwinds v up o ms hv _ => exact (started_unwind v up o).trans hv.started
  | runs v up r rest ms hv _ _ => exact hv.started
  | starts up r rest _ => rfl

/-- No turn but the first one starts an instance. -/
theorem started_act {a : Act} (ha : a ≠ .begin) :
    (w.act wd halted a).worker.inst.started = w.inst.started :=
  (leads_act ha).started

/-- The first turn starts an instance that is pending, unless the run was cancelled. -/
theorem started_begin (h : w.Sound) (hp : w.point = .queued) :
    (w.begin wd halted).worker.inst.started =
      (w.inst.started || (w.inst.status == .pending && !halted)) := by
  rcases begin_cases wd halted h hp with ⟨hs, he⟩ | ⟨hs, rfl, he⟩ | ⟨hs, rfl, he⟩
  · rw [he]
    simp [hs]
  · rw [he]
    simp
  · rw [he]
    refine ((leads_nextService
      { w with inst := w.inst.enter .startingServices } wd false []
      w.inst.job.services).started).trans ?_
    simp [JobInstance.enter, hs]

/-! ### What the status tells -/

/-- The status of the instance of a worker tells whether it was started, and if it failed the worker
was not aborted. -/
structure Traced (w : Worker) : Prop where
  inst : w.inst.Traced
  failed : w.inst.status = .failed → w.point.wasAborted = false

theorem Traced.cancelIfPending (h : w.Traced) (reason : String) :
    Worker.Traced { w with inst := StageReport.cancelIfPending reason w.inst } :=
  ⟨h.inst.cancelIfPending reason,
    fun hf => h.failed (StageReport.failed_of_cancelIfPending hf)⟩

/-- Whoever stops the services after an abort does not fail. -/
theorem failed_unwind {up : List String} {o : Outcome} (hlive : w.inst.isTerminal = false) :
    (w.unwind up o).worker.inst.status = .failed →
      (w.unwind up o).worker.point.wasAborted = false := by
  cases up with
  | cons name rest => exact fun _ => rfl
  | nil =>
      cases o with
      | succeeded => exact fun _ => rfl
      | failed f => exact fun _ => rfl
      | cancelled reason => exact fun _ => rfl
      | aborted =>
          -- it is cancelled, or that is refused and it is as live as before
          intro hf
          simp only [unwind, conclude, hlive, Bool.false_eq_true, if_false, become,
            JobInstance.cancel] at hf
          rcases status_attempt { w.inst with
            error := some abortText, errorKind := some "CancellationError" } .cancelled with hs | hs
          · have hkept : w.inst.status = .failed := hs.symm.trans hf
            simp [JobInstance.isTerminal, hkept, InstanceStatus.isTerminal] at hlive
          · exact absurd (hs.symm.trans hf) (by simp)

theorem Leads.failed {t : Turn} (hactive : w.inst.status.isActive = true)
    (h : Leads wd halted w t) :
    t.worker.inst.status = .failed → t.worker.point.wasAborted = false := by
  cases h with
  | moves p notes _ _ =>
      intro hf
      have hkept : w.inst.status = .failed := hf
      simp [hkept, InstanceStatus.isActive] at hactive
  | unwinds v up o ms hv _ =>
      refine failed_unwind (JobInstance.isTerminal_eq_false_of_isActive ?_)
      rcases hv.status with hs | hs
      · rw [hs]
        exact hactive
      · rw [hs]
        rfl
  | runs v up r rest ms _ _ _ => exact fun _ => rfl
  | starts up r rest _ => exact fun _ => rfl

theorem failed_begin (h : w.Sound) (hp : w.point = .queued) :
    (w.begin wd halted).worker.inst.status = .failed →
      (w.begin wd halted).worker.point.wasAborted = false := by
  rcases begin_cases wd halted h hp with ⟨_, he⟩ | ⟨_, _, he⟩ | ⟨_, _, he⟩
  · rw [he]
    exact fun _ => rfl
  · rw [he]
    exact fun _ => rfl
  · rw [he]
    have hfailed := (leads_nextService
      { w with inst := w.inst.enter .startingServices } wd false [] w.inst.job.services).failed rfl
    exact hfailed

/-- Every turn leaves a traced worker. -/
theorem traced_act {a : Act} (h : w.Sound) (ht : w.Traced) (hb : a = .begin → w.point = .queued) :
    (w.act wd halted a).worker.Traced := by
  by_cases hbegin : a = .begin
  · subst hbegin
    refine ⟨?_, failed_begin h (hb rfl)⟩
    rcases begin_cases wd halted h (hb rfl) with ⟨_, he⟩ | ⟨_, _, he⟩ | ⟨hs, hrun, he⟩
    · rw [act, he]
      exact ht.inst
    · rw [act, he]
      exact ht.inst.cancelIfPending _
    · refine .of_started ?_ fun hp => ?_
      · rw [act, started_begin h (hb rfl), hs, hrun]
        simp
      · have hback := (sound_begin wd halted h (hb rfl)).2.2.untouched hp
        have hunstarted := ht.inst.pending hs
        rw [← hback, started_begin h (hb rfl), hs, hrun] at hunstarted
        simp at hunstarted
  · rcases w.point.queued_or_holdsSlot_or_ended with hpt | hp | ⟨aborted, hpt⟩
    · by_cases habort : a = .abort
      · subst habort
        rw [act, abort_of_queued hpt]
        refine ⟨ht.inst, fun hf => ?_⟩
        have hfits : w.inst.status = .pending ∨ w.inst.status = .cancelled := by
          simpa [hpt, Point.Fits] using h.fits
        have hfailed : w.inst.status = .failed := hf
        simp [hfailed] at hfits
      · rw [act_of_queued wd halted hpt hbegin habort]
        exact ht
    · have hactive := h.fits.isActive hp
      refine ⟨.of_started ?_ (carries_act h hp hbegin).touched, (leads_act hbegin).failed hactive⟩
      rw [started_act hbegin]
      by_contra hunstarted
      rcases ht.inst.unstarted (by simpa using hunstarted) with hs | hs <;>
        simp [hs, InstanceStatus.isActive] at hactive
    · rw [act_of_ended wd halted hpt hbegin]
      exact ht

end Worker

end Conveyor
