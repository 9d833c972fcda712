/-
**After a cancel no work is asked for.**

Whatever happens to a worker of a run that was cancelled, it starts no service and runs no command;
and a call that is called off leads nowhere but to the end of its instance as cancelled.

Main definitions:

* `Conveyor.Worker.IsQuiet` — a turn in which no work is asked for;
* `Conveyor.Worker.IsCancelling` — a worker whose instance comes out as cancelled.

Main results:

* `Conveyor.Worker.isQuiet_act` — **every turn after a cancel is quiet**;
* `Conveyor.Worker.isCancelling_of_dropped` — a call that was called off is the beginning of the
  end;
* `Conveyor.Worker.IsCancelling.act` — and there is no way back.
-/

import Conveyor.Proofs.Run.Event
import Conveyor.Proofs.Worker.Started

set_option autoImplicit false

namespace Conveyor

@[simp] theorem StageReport.headings_cancelIfPending (reason : String) (i : JobInstance) :
    (cancelIfPending reason i).headings = i.headings := by
  by_cases h : i.status = .pending
  · rw [cancelIfPending_of_pending h]
    rfl
  · rw [cancelIfPending_of_ne h]

/-- An outcome of an instance that was called off. -/
def Outcome.IsCancelled : Outcome → Prop
  | .cancelled _ | .aborted => True
  | _ => False

namespace Worker

variable {w : Worker} {wd : String} {halted : Bool}

/-! ### Quiet turns -/

/-- A turn in which no work is asked for: nothing is started, and no step is noted. -/
structure IsQuiet (w : Worker) (t : Turn) : Prop where
  notes : ∀ n ∈ t.notes, n.asksForWork = false
  started : t.worker.inst.started = w.inst.started
  headings : t.worker.inst.headings = w.inst.headings

theorem headings_conclude (w : Worker) (o : Outcome) :
    (w.conclude o).worker.inst.headings = w.inst.headings := by
  cases o with
  | succeeded =>
      have hlast : ((w.move .collectingArtifacts).collect.move .succeeded).inst.headings =
          (w.move .collectingArtifacts).collect.inst.headings := headings_attempt _ _
      have hfirst : (w.move .collectingArtifacts).collect.inst.headings = w.inst.headings :=
        headings_attempt w.inst _
      exact hlast.trans hfirst
  | failed f =>
      exact headings_attempt { w.inst with
        error := some f.message, errorKind := some f.kindName } _
  | cancelled reason =>
      exact headings_attempt { w.inst with
        error := some reason, errorKind := some "CancellationError" } _
  | aborted =>
      cases hlive : w.inst.isTerminal with
      | true => simp [conclude, hlive]
      | false =>
          simp only [conclude, hlive, Bool.false_eq_true, if_false]
          exact headings_attempt { w.inst with
            error := some abortText, errorKind := some "CancellationError" } _

theorem isQuiet_unwind (w : Worker) (up : List String) (o : Outcome) :
    w.IsQuiet (w.unwind up o) := by
  refine ⟨fun n hn => ?_, started_unwind w up o, ?_⟩
  · cases up with
    | nil => cases o <;> cases hn
    | cons name rest =>
        obtain rfl : n = .called (.stop name) := by simpa [unwind] using hn
        rfl
  · cases up with
    | nil => exact headings_conclude w o
    | cons name rest => rfl

theorem Leads.isQuiet {t : Turn} (h : Leads wd true w t) : w.IsQuiet t := by
  cases h with
  | moves p notes _ hnotes => exact ⟨hnotes, rfl, rfl⟩
  | unwinds v up o ms hv _ =>
      have hquiet := isQuiet_unwind v up o
      exact ⟨hquiet.notes, hquiet.started.trans hv.started, hquiet.headings.trans hv.headings⟩
  | runs v up r rest ms _ _ hrun => cases hrun
  | starts up r rest hrun => cases hrun

/-- **Every turn after a cancel is quiet.** -/
theorem isQuiet_act {a : Act} (h : w.Sound) (hb : a = .begin → w.point = .queued) :
    w.IsQuiet (w.act wd true a) := by
  by_cases hbegin : a = .begin
  · subst hbegin
    rcases begin_cases wd true h (hb rfl) with ⟨_, he⟩ | ⟨_, _, he⟩ | ⟨_, hrun, _⟩
    · rw [act, he]
      exact ⟨List.forall_mem_nil _, rfl, rfl⟩
    · rw [act, he]
      exact ⟨List.forall_mem_nil _, by simp, by simp⟩
    · cases hrun
  · exact (leads_act hbegin).isQuiet

/-! ### The end of what was called off -/

/-- A worker whose instance was cancelled, or comes out so when its services are stopped. -/
def IsCancelling (w : Worker) : Prop :=
  match w.point with
  | .stopping _ _ _ o => o.IsCancelled
  | .ended _ => w.inst.status = .cancelled
  | _ => False

theorem isCancelling_unwind (hs : w.inst.status.isActive = true) (up : List String)
    {o : Outcome} (ho : o.IsCancelled) : (w.unwind up o).worker.IsCancelling := by
  cases up with
  | cons name rest => exact ho
  | nil =>
      have hmay : w.inst.status.mayBecome .cancelled = true := by
        cases hs' : w.inst.status <;> simp [hs', InstanceStatus.isActive] at hs <;> rfl
      have hcancel (reason : String) : (w.inst.cancel reason).1.status = .cancelled := by
        simp [JobInstance.cancel, JobInstance.attempt_of_mayBecome
          (i := { w.inst with error := some reason, errorKind := some "CancellationError" }) hmay]
      cases o with
      | succeeded => exact False.elim ho
      | failed f => exact False.elim ho
      | cancelled reason => exact hcancel reason
      | aborted =>
          have hlive := JobInstance.isTerminal_eq_false_of_isActive hs
          simp only [unwind, conclude, hlive, Bool.false_eq_true, if_false]
          exact hcancel abortText

/-- A call that was called off is the beginning of the end. -/
theorem isCancelling_of_dropped (h : w.Sound) {reply : Reply}
    (hw : w.point.awaits reply = true) (hd : reply = .start .dropped ∨ reply = .run .dropped) :
    (w.act wd halted reply.act).worker.IsCancelling := by
  rcases hd with rfl | rfl
  · cases hpt : w.point with
    | starting up r rest halt =>
        have hactive := h.fits.isActive (by rw [hpt]; rfl)
        simp only [act, Reply.act, served, hpt]
        split
        · exact isCancelling_unwind hactive up trivial
        · exact isCancelling_unwind hactive up trivial
    | queued => simp [hpt, Point.awaits] at hw
    | running => simp [hpt, Point.awaits] at hw
    | stopping => simp [hpt, Point.awaits] at hw
    | ended => simp [hpt, Point.awaits] at hw
  · cases hpt : w.point with
    | running up r rest halt =>
        have hactive := h.fits.isActive (by rw [hpt]; rfl)
        simp only [act, Reply.act, ran, hpt]
        split
        · exact isCancelling_unwind (w := w.modifyRecord _) hactive up (o := .aborted) trivial
        · exact isCancelling_unwind (w := w.modifyRecord _) hactive up (o := .cancelled _) trivial
    | queued => simp [hpt, Point.awaits] at hw
    | starting => simp [hpt, Point.awaits] at hw
    | stopping => simp [hpt, Point.awaits] at hw
    | ended => simp [hpt, Point.awaits] at hw

/-- There is no way back. -/
theorem IsCancelling.act {a : Act} (h : w.Sound) (hb : a ≠ .begin) (hc : w.IsCancelling) :
    (w.act wd halted a).worker.IsCancelling := by
  cases hpt : w.point with
  | queued => simp [IsCancelling, hpt] at hc
  | starting => simp [IsCancelling, hpt] at hc
  | running => simp [IsCancelling, hpt] at hc
  | ended aborted =>
      rw [act_of_ended wd halted hpt hb]
      exact hc
  | stopping service half rest o =>
      have ho : o.IsCancelled := by simpa [IsCancelling, hpt] using hc
      have hactive := h.fits.isActive (by rw [hpt]; rfl)
      cases a with
      | begin => exact absurd rfl hb
      | served reply => simpa [Worker.act, served, hpt] using hc
      | ran reply => simpa [Worker.act, ran, hpt] using hc
      | interrupt => simpa [Worker.act, interrupt, hpt] using hc
      | stopped reply =>
          rcases w.stopped_cases reply with ⟨hne, _⟩ | ⟨s', h', r', o', hp', hcases⟩
          · exact absurd hpt (hne service half rest o)
          · obtain ⟨rfl, rfl, rfl, rfl⟩ :
                service = s' ∧ half = h' ∧ rest = r' ∧ o = o' := by simpa [hpt] using hp'
            rcases hcases with ⟨_, he⟩ | ⟨_, he⟩
            · rw [Worker.act, he]
              exact isCancelling_unwind hactive rest ho
            · -- the stop is called off itself, and the worker is aborted
              rw [Worker.act, he]
              exact isCancelling_unwind hactive _ trivial
      | abort =>
          simp only [Worker.act, abort, hpt, dropStop_eq]
          exact isCancelling_unwind hactive _ trivial

end Worker

end Conveyor
