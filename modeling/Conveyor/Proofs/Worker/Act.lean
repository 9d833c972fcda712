/-
**What becomes of the instance of a worker.**

Whatever happens to a worker, the status of its instance fits the point that it has reached, so that
no status is ever refused.

Main definitions:

* `Conveyor.Point.Fits` — the statuses that an instance may have at a point;
* `Conveyor.Worker.Sound` — a worker whose status fits and was never refused;
* `Conveyor.Worker.Carries` — what a turn does with an instance that is under way.

Main results:

* `Conveyor.Worker.conclude_cases` — how a worker ends;
* `Conveyor.Worker.sound_act` — **every turn leaves a sound worker**;
* `Conveyor.Worker.becomes_act` — what a turn makes of the instance.
-/

import Conveyor.Proofs.Report.Becomes
import Conveyor.Proofs.Worker.Turns

set_option autoImplicit false

namespace Conveyor

/-! ### Statuses that fit -/

/-- Whether an instance of a status may come out so: only one that runs its steps succeeds. -/
def InstanceStatus.MayEnd (s : InstanceStatus) (o : Outcome) : Prop :=
  s = .runningSteps ∨ (s = .startingServices ∧ o ≠ .succeeded)

/-- The statuses that an instance may have when its worker has reached a point. -/
def Point.Fits : Point → InstanceStatus → Prop
  | .queued, s => s = .pending ∨ s = .cancelled
  | .starting .., s => s = .startingServices
  | .running .., s => s = .runningSteps
  | .stopping _ _ _ o, s => s.MayEnd o
  | .ended aborted, s => s.isTerminal = true ∨ (aborted = true ∧ s = .pending)

theorem InstanceStatus.MayEnd.isTerminal_eq {s : InstanceStatus} {o : Outcome} (h : s.MayEnd o) :
    s.isTerminal = false := by
  rcases h with rfl | ⟨rfl, _⟩ <;> rfl

theorem InstanceStatus.MayEnd.ne_pending {s : InstanceStatus} {o : Outcome} (h : s.MayEnd o) :
    s ≠ .pending := by
  rcases h with rfl | ⟨rfl, _⟩ <;> decide

/-- Whoever may end may end as failed or cancelled. -/
theorem InstanceStatus.MayEnd.mayBecome {s : InstanceStatus} {o : Outcome} (h : s.MayEnd o) :
    s.mayBecome .failed = true ∧ s.mayBecome .cancelled = true := by
  rcases h with rfl | ⟨rfl, _⟩ <;> exact ⟨rfl, rfl⟩

/-- Whoever may end may end by an abort. -/
theorem InstanceStatus.MayEnd.aborted {s : InstanceStatus} {o : Outcome} (h : s.MayEnd o) :
    s.MayEnd .aborted := by
  rcases h with h | ⟨h, _⟩
  · exact .inl h
  · exact .inr ⟨h, by simp⟩

/-- An instance at work is under way. -/
theorem Point.Fits.isActive {p : Point} {s : InstanceStatus} (h : p.Fits s)
    (hp : p.holdsSlot = true) : s.isActive = true := by
  cases p with
  | starting => exact h ▸ rfl
  | running => exact h ▸ rfl
  | stopping => rcases h with rfl | ⟨rfl, _⟩ <;> rfl
  | queued => simp [Point.holdsSlot] at hp
  | ended => simp [Point.holdsSlot] at hp

theorem JobInstance.attempt_of_mayBecome {i : JobInstance} {s : InstanceStatus}
    (h : i.status.mayBecome s = true) : i.attempt s = (i.enter s, none) := by
  simp [attempt, transition, h]

namespace Worker

theorem move_of_mayBecome {w : Worker} {s : InstanceStatus} (h : w.inst.status.mayBecome s = true) :
    w.move s = { w with inst := w.inst.enter s } := by
  simp [move, become, JobInstance.attempt_of_mayBecome h]

/-- A worker whose status fits the point that it has reached, and that was never refused one. -/
structure Sound (w : Worker) : Prop where
  fits : w.point.Fits w.inst.status
  refused : w.refused = []

/-- What a turn does with an instance that is under way: it keeps its plan, its status fits, and it
does not go back to the queue. -/
structure Carries (w w' : Worker) : Prop where
  planned : w'.inst.planned = w.inst.planned
  sound : w'.Sound
  touched : w'.inst.status ≠ .pending
  left : w'.point.isQueued = false

/-- What a worker carries on from does not matter, as long as it has the same plan. -/
theorem Carries.of_planned {v w w' : Worker} (h : v.Carries w')
    (hp : v.inst.planned = w.inst.planned) : w.Carries w' :=
  ⟨h.planned.trans hp, h.sound, h.touched, h.left⟩

/-! ### Turns of a worker that is under way -/

/-- How a worker ends: its instance succeeds with its artifacts, or it fails or is cancelled, and
what became of it is noted. -/
theorem conclude_cases {w : Worker} {o : Outcome} (hs : w.inst.status.MayEnd o) :
    (o = .succeeded ∧ (w.conclude o).worker =
      { w with
        inst := { w.inst.enter .collectingArtifacts with
          producedArtifacts := dedupe (w.inst.job.artifacts.map Artifact.path) }.enter .succeeded
        point := .ended false }) ∨
    (∃ f, o = .failed f ∧ (w.conclude o).worker =
      { w with
        inst := { w.inst with error := some f.message, errorKind := some f.kindName }.enter .failed
        point := .ended false }) ∨
    (∃ reason aborted, (o = .cancelled reason ∧ aborted = false ∨
        o = .aborted ∧ reason = abortText ∧ aborted = true) ∧ (w.conclude o).worker =
      { w with
        inst := { w.inst with
          error := some reason, errorKind := some "CancellationError" }.enter .cancelled
        point := .ended aborted }) := by
  obtain ⟨hfail, hcancel⟩ := hs.mayBecome
  have hcancelled (reason : String) : w.inst.cancel reason =
      ({ w.inst with error := some reason, errorKind := some "CancellationError" }.enter .cancelled,
        none) := JobInstance.attempt_of_mayBecome hcancel
  cases o with
  | succeeded =>
      have hrun : w.inst.status = .runningSteps := by simpa [InstanceStatus.MayEnd] using hs
      have hmove : w.move .collectingArtifacts =
          { w with inst := w.inst.enter .collectingArtifacts } :=
        move_of_mayBecome (by rw [hrun]; rfl)
      have hdone : (w.move .collectingArtifacts).collect.move .succeeded =
          { (w.move .collectingArtifacts).collect with
            inst := (w.move .collectingArtifacts).collect.inst.enter .succeeded } :=
        move_of_mayBecome (by rw [hmove]; rfl)
      refine .inl ⟨rfl, ?_⟩
      rw [conclude, hdone, hmove]
      rfl
  | failed f =>
      have hfailed : w.inst.fail f =
          ({ w.inst with error := some f.message, errorKind := some f.kindName }.enter .failed,
            none) := JobInstance.attempt_of_mayBecome hfail
      refine .inr (.inl ⟨f, rfl, ?_⟩)
      simp [conclude, hfailed, become]
  | cancelled reason =>
      refine .inr (.inr ⟨reason, false, .inl ⟨rfl, rfl⟩, ?_⟩)
      simp [conclude, hcancelled reason, become]
  | aborted =>
      have hlive : w.inst.isTerminal = false := hs.isTerminal_eq
      refine .inr (.inr ⟨abortText, true, .inr ⟨rfl, rfl, rfl⟩, ?_⟩)
      simp [conclude, hlive, hcancelled abortText, become]

theorem carries_conclude {w : Worker} {o : Outcome} (hr : w.refused = [])
    (hs : w.inst.status.MayEnd o) : w.Carries (w.conclude o).worker := by
  rcases conclude_cases hs with ⟨_, he⟩ | ⟨f, _, he⟩ | ⟨reason, aborted, _, he⟩
  · rw [he]
    exact ⟨rfl, ⟨.inl rfl, hr⟩, by simp, rfl⟩
  · rw [he]
    exact ⟨rfl, ⟨.inl rfl, hr⟩, by simp, rfl⟩
  · rw [he]
    exact ⟨rfl, ⟨.inl rfl, hr⟩, by simp, rfl⟩

theorem carries_unwind {w : Worker} {up : List String} {o : Outcome} (hr : w.refused = [])
    (hs : w.inst.status.MayEnd o) : w.Carries (w.unwind up o).worker := by
  cases up with
  | nil => exact carries_conclude hr hs
  | cons name rest => exact ⟨rfl, ⟨hs, hr⟩, hs.ne_pending, rfl⟩

theorem carries_nextStep {w : Worker} {wd : String} {halted : Bool} {up : List String} {n : Int}
    {steps : List Step} (hr : w.refused = []) (hs : w.inst.status = .runningSteps) :
    w.Carries (w.nextStep wd halted up n steps).worker := by
  rcases w.nextStep_cases wd halted up n steps with ⟨o, _, he⟩ | ⟨s, rest, r, _, _, _, he⟩
  · rw [he]
    exact carries_unwind hr (.inl hs)
  · rw [he]
    have hrec : (w.recordStep r).inst.status = .runningSteps := hs
    exact ⟨rfl, ⟨hs, hr⟩, by simp [hrec], rfl⟩

theorem carries_nextService {w : Worker} {wd : String} {halted : Bool} {up : List String}
    {services : List Service} (hr : w.refused = []) (hs : w.inst.status = .startingServices) :
    w.Carries (w.nextService wd halted up services).worker := by
  rcases w.nextService_cases wd halted up services with
    ⟨_, he⟩ | ⟨o, ho, _, he⟩ | ⟨s, rest, r, _, _, _, he⟩
  · rw [he, move_of_mayBecome (by rw [hs]; rfl)]
    have hrun : Carries { w with inst := w.inst.enter .runningSteps }
        (nextStep { w with inst := w.inst.enter .runningSteps } wd halted up 0
          w.inst.job.steps).worker := carries_nextStep hr rfl
    exact hrun.of_planned rfl
  · rw [he]
    exact carries_unwind hr (.inr ⟨hs, ho⟩)
  · rw [he]
    exact ⟨rfl, ⟨hs, hr⟩, by simp [hs], rfl⟩

/-- A worker that is at work and does nothing stays as it is. -/
theorem carries_self {w : Worker} (h : w.Sound) (hp : w.point.holdsSlot = true) :
    w.Carries w := by
  have hactive := h.fits.isActive hp
  refine ⟨rfl, h, ?_, ?_⟩
  · intro hs
    rw [hs] at hactive
    simp [InstanceStatus.isActive] at hactive
  · exact (Point.live_of_holdsSlot hp).1

theorem carries_served {w : Worker} {wd : String} {halted : Bool} {reply : StartReply}
    (h : w.Sound) (hp : w.point.holdsSlot = true) :
    w.Carries (w.served wd halted reply).worker := by
  rcases w.served_cases wd halted reply with ⟨_, he⟩ | ⟨up, r, rest, halt, hpt, hcases⟩
  · rw [he]
    exact carries_self h hp
  · have hs : w.inst.status = .startingServices := by simpa [hpt, Point.Fits] using h.fits
    rcases hcases with ⟨_, he⟩ | ⟨_, _, he⟩ | ⟨f, _, _, he⟩ | ⟨o, _, _, ho, _, he⟩
    · rw [he]
      exact carries_unwind h.refused (.inr ⟨hs, by simp⟩)
    · rw [he]
      exact carries_nextService h.refused hs
    · rw [he]
      exact ⟨rfl, ⟨.inr ⟨hs, (startOutcome_ne w r.name f).1⟩, h.refused⟩,
        (carries_self h hp).touched, rfl⟩
    · rw [he]
      exact carries_unwind h.refused (.inr ⟨hs, ho⟩)

theorem carries_ran {w : Worker} {wd : String} {halted : Bool} {reply : RunReply}
    (h : w.Sound) (hp : w.point.holdsSlot = true) :
    w.Carries (w.ran wd halted reply).worker := by
  rcases w.ran_cases wd halted reply with ⟨_, he⟩ | ⟨up, r, rest, halt, hpt, hcases⟩
  · rw [he]
    exact carries_self h hp
  · have hs : w.inst.status = .runningSteps := by simpa [hpt, Point.Fits] using h.fits
    rcases hcases with ⟨rs, o, ms, he, _⟩ | ⟨rs, output, _, he⟩
    · have hend : (w.withRecords rs).Carries ((w.withRecords rs).unwind up o).worker :=
        carries_unwind h.refused (.inl hs)
      rw [he]
      exact hend.of_planned rfl
    · have hnext : (w.withRecords rs).Carries
          ((w.withRecords rs).nextStep wd halted up (r.index + 1) rest).worker :=
        carries_nextStep h.refused hs
      rw [he]
      exact hnext.of_planned rfl

theorem carries_stopped {w : Worker} {reply : StopReply} (h : w.Sound)
    (hp : w.point.holdsSlot = true) : w.Carries (w.stopped reply).worker := by
  rcases w.stopped_cases reply with ⟨_, he⟩ | ⟨service, half, rest, o, hpt, hcases⟩
  · rw [he]
    exact carries_self h hp
  · have hs : w.inst.status.MayEnd o := by simpa [hpt, Point.Fits] using h.fits
    rcases hcases with ⟨_, he⟩ | ⟨_, he⟩
    · rw [he]
      exact carries_unwind h.refused hs
    · rw [he]
      exact carries_unwind h.refused hs.aborted

theorem carries_interrupt {w : Worker} (h : w.Sound) (hp : w.point.holdsSlot = true) :
    w.Carries w.interrupt.worker := by
  have hself := carries_self h hp
  unfold interrupt
  split
  case h_3 => exact hself
  case h_1 up r rest hpt =>
      have hs : w.inst.status = .startingServices := by simpa [hpt, Point.Fits] using h.fits
      exact ⟨rfl, ⟨hs, h.refused⟩, hself.touched, rfl⟩
  case h_2 up r rest hpt =>
      have hs : w.inst.status = .runningSteps := by simpa [hpt, Point.Fits] using h.fits
      exact ⟨rfl, ⟨hs, h.refused⟩, hself.touched, rfl⟩

theorem carries_abort {w : Worker} (h : w.Sound) (hp : w.point.holdsSlot = true) :
    w.Carries w.abort.worker := by
  have hself := carries_self h hp
  unfold abort
  split
  case h_1 hpt => simp [hpt, Point.holdsSlot] at hp
  case h_2 up r rest halt hpt =>
      have hs : w.inst.status = .startingServices := by simpa [hpt, Point.Fits] using h.fits
      exact ⟨rfl, ⟨hs, h.refused⟩, hself.touched, rfl⟩
  case h_3 up r rest halt hpt =>
      have hs : w.inst.status = .runningSteps := by simpa [hpt, Point.Fits] using h.fits
      exact ⟨rfl, ⟨hs, h.refused⟩, hself.touched, rfl⟩
  case h_4 service half rest o hpt =>
      have hs : w.inst.status.MayEnd o := by simpa [hpt, Point.Fits] using h.fits
      rw [dropStop_eq]
      exact carries_unwind h.refused hs.aborted
  case h_5 => exact hself

/-- A turn other than the first one carries on the instance of a worker that is at work. -/
theorem carries_act {w : Worker} {wd : String} {halted : Bool} {a : Act} (h : w.Sound)
    (hp : w.point.holdsSlot = true) (ha : a ≠ .begin) : w.Carries (w.act wd halted a).worker := by
  cases a with
  | begin => exact absurd rfl ha
  | served reply => exact carries_served h hp
  | ran reply => exact carries_ran h hp
  | stopped reply => exact carries_stopped h hp
  | interrupt => exact carries_interrupt h hp
  | abort => exact carries_abort h hp

/-! ### All turns -/

/-- The first turn ends a worker whose instance was cancelled, or carries the instance on. -/
theorem begin_cases {w : Worker} (wd : String) (halted : Bool) (h : w.Sound)
    (hp : w.point = .queued) :
    (w.inst.status = .cancelled ∧
      w.begin wd halted = { worker := { w with point := .ended false } }) ∨
    (w.inst.status = .pending ∧ halted = true ∧ w.begin wd halted =
      { worker := { w with
          inst := StageReport.cancelIfPending Fault.cancelText w.inst, point := .ended false } }) ∨
    (w.inst.status = .pending ∧ halted = false ∧ w.begin wd halted =
      (nextService { w with inst := w.inst.enter .startingServices } wd false []
        w.inst.job.services).after [.entered]) := by
  have hfits : w.inst.status = .pending ∨ w.inst.status = .cancelled := by
    simpa [hp, Point.Fits] using h.fits
  rcases hfits with hs | hs
  · cases halted with
    | true =>
        refine .inr (.inl ⟨hs, rfl, ?_⟩)
        simp [begin, hs, become, StageReport.cancelIfPending, JobInstance.cancel,
          JobInstance.attempt, JobInstance.transition, InstanceStatus.mayBecome]
    | false =>
        refine .inr (.inr ⟨hs, rfl, ?_⟩)
        simp only [begin, hs, ne_eq, not_true_eq_false, if_false, Bool.false_eq_true]
        rw [move_of_mayBecome (by rw [hs]; rfl)]
  · exact .inl ⟨hs, by simp [begin, hs]⟩

/-- What the first turn makes of a worker. -/
theorem sound_begin {w : Worker} (wd : String) (halted : Bool) (h : w.Sound)
    (hp : w.point = .queued) :
    (w.begin wd halted).worker.Sound ∧ (w.begin wd halted).worker.point.isQueued = false ∧
      w.inst.Becomes (w.begin wd halted).worker.inst := by
  rcases begin_cases wd halted h hp with ⟨hs, he⟩ | ⟨hs, _, he⟩ | ⟨hs, _, he⟩
  · rw [he]
    exact ⟨⟨.inl (by rw [hs]; rfl), h.refused⟩, rfl, .refl _⟩
  · rw [he]
    refine ⟨⟨.inl ?_, h.refused⟩, rfl, StageReport.becomes_cancelIfPending _ _⟩
    simp [StageReport.status_cancelIfPending, hs, InstanceStatus.isTerminal]
  · have hc : Carries { w with inst := w.inst.enter .startingServices }
        (nextService { w with inst := w.inst.enter .startingServices } wd false []
          w.inst.job.services).worker := carries_nextService h.refused rfl
    rw [he]
    have hlive : w.inst.isTerminal = false := by
      rw [JobInstance.isTerminal, hs]
      rfl
    exact ⟨hc.sound, hc.left, .of_active hc.planned hlive hc.touched⟩

theorem sound_abort_of_queued {w : Worker} (h : w.Sound) (hp : w.point = .queued) :
    w.abort.worker.Sound := by
  have hfits : w.inst.status = .pending ∨ w.inst.status = .cancelled := by
    simpa [hp, Point.Fits] using h.fits
  rw [abort_of_queued hp]
  refine ⟨?_, h.refused⟩
  rcases hfits with hs | hs
  · exact .inr ⟨rfl, hs⟩
  · exact .inl (by rw [hs]; rfl)

/-- **Every turn leaves a sound worker.**  Only a worker that waits for a slot is given one. -/
theorem sound_act {w : Worker} {wd : String} {halted : Bool} {a : Act} (h : w.Sound)
    (hb : a = .begin → w.point = .queued) : (w.act wd halted a).worker.Sound := by
  by_cases hbegin : a = .begin
  · rw [hbegin]
    exact (sound_begin wd halted h (hb hbegin)).1
  · rcases w.point.queued_or_holdsSlot_or_ended with hpt | hp | ⟨aborted, hpt⟩
    · by_cases habort : a = .abort
      · rw [habort]
        exact sound_abort_of_queued h hpt
      · rw [act_of_queued wd halted hpt hbegin habort]
        exact h
    · exact (carries_act h hp hbegin).sound
    · rw [act_of_ended wd halted hpt hbegin]
      exact h

theorem Carries.becomes {w w' : Worker} (hc : w.Carries w') (h : w.Sound)
    (hp : w.point.holdsSlot = true) : w.inst.Becomes w'.inst := by
  have hactive := h.fits.isActive hp
  exact .of_active hc.planned (JobInstance.isTerminal_eq_false_of_isActive hactive) hc.touched

/-- What a turn makes of the instance. -/
theorem becomes_act {w : Worker} {wd : String} {halted : Bool} {a : Act} (h : w.Sound)
    (hb : a = .begin → w.point = .queued) : w.inst.Becomes (w.act wd halted a).worker.inst := by
  by_cases hbegin : a = .begin
  · rw [hbegin]
    exact (sound_begin wd halted h (hb hbegin)).2.2
  · rcases w.point.queued_or_holdsSlot_or_ended with hpt | hp | ⟨aborted, hpt⟩
    · by_cases habort : a = .abort
      · rw [habort, act, abort_of_queued hpt]
      · rw [act_of_queued wd halted hpt hbegin habort]
    · exact (carries_act h hp hbegin).becomes h hp
    · rw [act_of_ended wd halted hpt hbegin]

end Worker

end Conveyor
