/-
**The report of a run tells what happened.**

Calls may be answered in any way, the run may be cancelled and its task aborted: what an instance
notes of its steps, of its error and of its artifacts fits the status that it has.

Main results:

* `Conveyor.Execution.lasting_truthful` — what instances tell of themselves stays true;
* `Conveyor.Run.Reachable.instances_truthful` — **every instance tells what happened to it**.
-/

import Conveyor.Proofs.Run.FailurePolicy
import Conveyor.Proofs.Worker.Truthful

set_option autoImplicit false

namespace Conveyor

/-- What instances tell of themselves stays true. -/
theorem Execution.lasting_truthful :
    Lasting Worker.Truthful JobInstance.Truthful JobInstance.Truthful where
  planned h := JobInstance.truthful_of_planned h.untouched
  act _ _ _ hsound h hb := Worker.truthful_act h hsound hb
  cancelWorker hsound h reason := h.cancelIfPending hsound reason
  cancelPast h reason := h.cancelIfPending reason
  cancelFuture h reason := h.cancelIfPending reason
  opened h := h
  closed hsound h := h.inst hsound
  skipped h := h

namespace Run

/-- **Every instance tells what happened to it**, at all times, however calls were answered and
whatever was called off. -/
theorem Reachable.instances_truthful {r : Run} (h : r.Reachable) :
    ∀ e ∈ r.executions, ∀ i ∈ e.instances, i.Truthful := by
  obtain ⟨id, p, c, evs, hr⟩ := h
  have hsound : r.Sound := Reachable.sound ⟨id, p, c, evs, hr⟩
  intro e he
  exact (throughout_of_afterAll Execution.lasting_truthful hr e he).of_mem (hsound.executions e he)
    (fun _ hi => hi) (fun _ hw hi => hi.inst hw) fun _ hi => hi

/-- One check fails, one succeeds, and what was not started by then is cancelled: all three tell
so. -/
theorem truthful_of_failed_check :
    ∃ r : Run, r.Reachable ∧ ∃ e ∈ r.executions, ∃ i ∈ e.instances, ∃ j ∈ e.instances,
      ∃ k ∈ e.instances, i.status = .failed ∧ i.Truthful ∧ j.status = .succeeded ∧ j.Truthful ∧
        k.status = .cancelled ∧ k.Truthful := by
  have hrun : ((create "r" checksThenRelease { concurrencyLimit := 2 }).afterAll
      [.execute, .advance 0, .grant, .grant, .answer ⟨0, "check", "lint"⟩ (.run (.done 1 "")),
        .answer ⟨0, "check", "test"⟩ (.run (.done 0 ""))]).any (fun r =>
        r.executions.any fun e => (e.instances.any fun i => i.status == .failed) &&
          (e.instances.any fun j => j.status == .succeeded) &&
          e.instances.any fun k => k.status == .cancelled) = true := by
    decide +kernel
  obtain ⟨r, hr, hany⟩ := (Option.any_eq_true _ _).1 hrun
  obtain ⟨e, he, hany⟩ := List.any_eq_true.1 hany
  obtain ⟨hany, hcancelled⟩ := Bool.and_eq_true_iff.1 hany
  obtain ⟨hfailed, hsucceeded⟩ := Bool.and_eq_true_iff.1 hany
  obtain ⟨i, hi, hif⟩ := List.any_eq_true.1 hfailed
  obtain ⟨j, hj, hjs⟩ := List.any_eq_true.1 hsucceeded
  obtain ⟨k, hk, hkc⟩ := List.any_eq_true.1 hcancelled
  have hreach : r.Reachable := ⟨_, _, _, _, hr⟩
  exact ⟨r, hreach, e, he, i, hi, j, hj, k, hk, beq_iff_eq.1 hif,
    hreach.instances_truthful e he i hi, beq_iff_eq.1 hjs, hreach.instances_truthful e he j hj,
    beq_iff_eq.1 hkc, hreach.instances_truthful e he k hk⟩

end Run

end Conveyor
