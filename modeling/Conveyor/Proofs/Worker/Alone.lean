/-
**An instance that is carried out alone.**

When the answer to every call is settled beforehand, what comes of an instance is settled too: its
services are started one after the other, its steps are run one after the other, and then it comes
to its end.  A worker that has got somewhere on this way will come out so from there.

Main definitions:

* `Conveyor.Replies` — the answers to all calls;
* `Conveyor.Replies.carryOut` — what comes of an instance that is carried out alone;
* `Conveyor.Replies.foreseen` — what comes of an instance whose worker goes on from a point;
* `Conveyor.Replies.IsCalm`, `Conveyor.Point.IsUndisturbed` — nobody calls anything off.

Main results:

* `Conveyor.Replies.foreseen_begin`, `Conveyor.Replies.foreseen_answer` — **a turn changes nothing
  of what will come of the instance**;
* `Conveyor.Replies.isUndisturbed_begin`, `Conveyor.Replies.isUndisturbed_answer` — and nobody is
  disturbed by it.
-/

import Conveyor.Engine.Rehearsal
import Conveyor.Proofs.Run.Event
import Conveyor.Proofs.Worker.Act

set_option autoImplicit false

namespace Conveyor

/-- The answers to all calls: they depend on the stage and the identity of an instance and on the
calls that it has made, of which the last one is answered. -/
structure Replies where
  start : String → String → List Call → StartReply
  run : String → String → List Call → RunReply
  stop : String → String → List Call → StopReply

/-- Whether the surroundings never call anything off by themselves. -/
structure Replies.IsCalm (σ : Replies) : Prop where
  run : ∀ stage identity calls f, σ.run stage identity calls = .unreadable f →
    f.kind ≠ .foreign "CancelledError"
  stop : ∀ stage identity calls, σ.stop stage identity calls ≠ .dropped

/-- Whether nothing was called off at a point. -/
def Point.IsUndisturbed : Point → Prop
  | .queued => True
  | .starting _ _ _ halt | .running _ _ _ halt => halt = none
  | .stopping _ _ _ o => o ≠ .aborted
  | .ended aborted => aborted = false

/-- The answer to the call that a worker waits for at a point. -/
def Replies.replyTo? (σ : Replies) (stage identity : String) (calls : List Call) :
    Point → Option Reply
  | .starting .. => some (.start (σ.start stage identity calls))
  | .running .. => some (.run (σ.run stage identity calls))
  | .stopping .. => some (.stop (σ.stop stage identity calls))
  | .queued | .ended _ => none

/-- The call that an entry of the log makes. -/
def Note.call? : Note → Option Call
  | .called c => some c
  | _ => none

/-! ### What comes of an instance -/

namespace JobInstance

/-- The instance as it comes out. -/
def endedAs (i : JobInstance) (o : Outcome) : JobInstance :=
  (Worker.conclude { inst := i } o).worker.inst

/-- How an instance comes out after the answer to starting a service, unless it goes on. -/
def afterStart (i : JobInstance) (r : ResolvedService) : StartReply → Option Outcome
  | .up => none
  | .down f | .half f => some (Worker.startOutcome { inst := i } r.name f)
  | .dropped => some (.cancelled (Worker.droppedText { inst := i }))

/-- The instance after the answer to running a step, and how it comes out, unless it goes on. -/
def afterRun (i : JobInstance) (r : ResolvedStep) (reply : RunReply) :
    JobInstance × Option Outcome :=
  let w := Worker.modifyRecord { inst := i } fun s => { s with timed := true }
  match reply with
  | .done status output =>
    ((w.modifyRecord fun s => { s with exitStatus := some status, output }).inst,
      if status = 0 then none
      else some (.failed (w.stepFault r ("exited with status " ++ toString status) (some status))))
  | .unreadable f => (w.inst, some (.ofFault i.identity f))
  | .raised f =>
    (w.inst, some (match f.kind with
      | .cancellation _ => .cancelled f.message
      | _ => .failed (w.stepFault r ("runtime error: " ++ f.message) none)))
  | .dropped => (w.inst, some (.cancelled w.droppedText))

end JobInstance

namespace Replies

variable (σ : Replies) (wd stage : String)

/-- What comes of an instance that goes on with steps. -/
def runSteps (i : JobInstance) (calls : List Call) (n : Int) : List Step → JobInstance
  | [] => i.endedAs .succeeded
  | s :: rest =>
    match s.resolve (Worker.context { inst := i }) n with
    | .error f => i.endedAs (.failed f)
    | .ok r =>
      let calls := calls ++ [.run r.command r.args wd]
      let begun := (Worker.recordStep { inst := i } r).inst
      match begun.afterRun r (σ.run stage i.identity calls) with
      | (j, some o) => j.endedAs o
      | (j, none) => runSteps j calls (r.index + 1) rest

/-- What comes of an instance that goes on with services. -/
def startServices (i : JobInstance) (calls : List Call) : List Service → JobInstance
  | [] => σ.runSteps wd stage (i.enter .runningSteps) calls 0 i.job.steps
  | s :: rest =>
    match s.resolve (Worker.context { inst := i }) with
    | .error f => i.endedAs (.failed f)
    | .ok r =>
      let calls := calls ++ [.start r]
      match i.afterStart r (σ.start stage i.identity calls) with
      | some o => i.endedAs o
      | none => startServices i calls rest

/-- What comes of an instance of a stage that is carried out alone. -/
def carryOut (i : JobInstance) : JobInstance :=
  σ.startServices wd stage (i.enter .startingServices) [] i.job.services

/-- What comes of an instance whose worker has made calls and goes on from its point. -/
def foreseen (w : Worker) (calls : List Call) : JobInstance :=
  match w.point with
  | .queued => σ.carryOut wd stage w.inst
  | .starting _ r rest _ =>
    match w.inst.afterStart r (σ.start stage w.inst.identity calls) with
    | some o => w.inst.endedAs o
    | none => σ.startServices wd stage w.inst calls rest
  | .running _ r rest _ =>
    match w.inst.afterRun r (σ.run stage w.inst.identity calls) with
    | (j, some o) => j.endedAs o
    | (j, none) => σ.runSteps wd stage j calls (r.index + 1) rest
  | .stopping _ _ _ o => w.inst.endedAs o
  | .ended _ => w.inst

/-- What comes of the instance after a turn of its worker. -/
def foreseenAfter (calls : List Call) (t : Turn) : JobInstance :=
  σ.foreseen wd stage t.worker (calls ++ t.notes.filterMap Note.call?)

end Replies

/-! ### Turns, and what will come of the instance -/

/-- What comes of an instance depends on nothing else of its worker. -/
theorem Worker.inst_conclude (w : Worker) (o : Outcome) :
    (w.conclude o).worker.inst = w.inst.endedAs o := by
  cases o with
  | succeeded => rfl
  | failed f => rfl
  | cancelled reason => rfl
  | aborted =>
      simp only [JobInstance.endedAs, conclude]
      cases w.inst.isTerminal <;> rfl

namespace Replies

section
variable {σ : Replies} {wd stage : String} {calls : List Call}

theorem foreseenAfter_after (ms : List Measurement) (t : Turn) :
    σ.foreseenAfter wd stage calls (t.after ms) = σ.foreseenAfter wd stage calls t := rfl

theorem foreseenAfter_conclude (w : Worker) (o : Outcome) :
    σ.foreseenAfter wd stage calls (w.conclude o) = w.inst.endedAs o := by
  rw [← Worker.inst_conclude]
  cases o <;> rfl

theorem foreseenAfter_unwind (w : Worker) (up : List String) (o : Outcome) :
    σ.foreseenAfter wd stage calls (w.unwind up o) = w.inst.endedAs o := by
  cases up with
  | nil => exact foreseenAfter_conclude w o
  | cons name rest => rfl

theorem foreseenAfter_nextStep (w : Worker) (up : List String) (n : Int) (steps : List Step) :
    σ.foreseenAfter wd stage calls (w.nextStep wd false up n steps) =
      σ.runSteps wd stage w.inst calls n steps := by
  cases steps with
  | nil => exact foreseenAfter_unwind w up .succeeded
  | cons s rest =>
      have hcontext : Worker.context { inst := w.inst } = w.context := rfl
      rw [runSteps, Worker.nextStep, hcontext]
      cases s.resolve w.context n with
      | error f => exact foreseenAfter_unwind w up (.failed f)
      | ok r => rfl

theorem foreseenAfter_nextService {w : Worker} (hs : w.inst.status = .startingServices)
    (up : List String) (services : List Service) :
    σ.foreseenAfter wd stage calls (w.nextService wd false up services) =
      σ.startServices wd stage w.inst calls services := by
  cases services with
  | nil =>
      rw [startServices, Worker.nextService, Worker.move_of_mayBecome (by rw [hs]; rfl)]
      exact foreseenAfter_nextStep _ up 0 w.inst.job.steps
  | cons s rest =>
      have hcontext : Worker.context { inst := w.inst } = w.context := rfl
      rw [startServices, Worker.nextService, hcontext]
      cases s.resolve w.context with
      | error f => exact foreseenAfter_unwind w up (.failed f)
      | ok r => rfl

theorem foreseenAfter_served {w : Worker} {up : List String} {r : ResolvedService}
    {rest : List Service} (hpt : w.point = .starting up r rest none)
    (hs : w.inst.status = .startingServices) (reply : StartReply) :
    σ.foreseenAfter wd stage calls (w.served wd false reply) =
      match w.inst.afterStart r reply with
      | some o => w.inst.endedAs o
      | none => σ.startServices wd stage w.inst calls rest := by
  cases reply with
  | up =>
      simp only [Worker.served, hpt]
      exact foreseenAfter_nextService hs (r.name :: up) rest
  | down f =>
      simp only [Worker.served, hpt]
      exact foreseenAfter_unwind w up _
  | half f =>
      simp only [Worker.served, hpt]
      rfl
  | dropped =>
      simp only [Worker.served, hpt]
      exact foreseenAfter_unwind w up _

theorem foreseenAfter_ran {w : Worker} {up : List String} {r : ResolvedStep} {rest : List Step}
    (hpt : w.point = .running up r rest none) (reply : RunReply) :
    σ.foreseenAfter wd stage calls (w.ran wd false reply) =
      match w.inst.afterRun r reply with
      | (j, some o) => j.endedAs o
      | (j, none) => σ.runSteps wd stage j calls (r.index + 1) rest := by
  cases reply with
  | done status output =>
      by_cases hz : status = 0
      · simp only [Worker.ran, hpt, JobInstance.afterRun, hz, if_true]
        exact foreseenAfter_nextStep _ up (r.index + 1) rest
      · simp only [Worker.ran, hpt, JobInstance.afterRun, hz, if_false]
        exact foreseenAfter_unwind _ up _
  | unreadable f =>
      simp only [Worker.ran, hpt, JobInstance.afterRun]
      exact foreseenAfter_unwind _ up _
  | raised f =>
      simp only [Worker.ran, hpt, JobInstance.afterRun, reduceCtorEq, if_false]
      cases f.kind <;> exact foreseenAfter_unwind _ up _
  | dropped =>
      simp only [Worker.ran, hpt, JobInstance.afterRun]
      exact foreseenAfter_unwind _ up _

/-- The first turn of a worker changes nothing of what will come of its instance. -/
theorem foreseen_begin {w : Worker} (hpt : w.point = .queued) (hs : w.inst.status = .pending) :
    σ.foreseenAfter wd stage [] (w.begin wd false) = σ.foreseen wd stage w [] := by
  have hbegin : w.begin wd false =
      (Worker.nextService { w with inst := w.inst.enter .startingServices } wd false []
        w.inst.job.services).after [.entered] := by
    simp only [Worker.begin, hs, ne_eq, not_true_eq_false, if_false, Bool.false_eq_true]
    rw [Worker.move_of_mayBecome (by rw [hs]; rfl)]
  rw [hbegin, foreseenAfter_after, foreseenAfter_nextService rfl, foreseen, hpt, carryOut]

/-- An answer changes nothing of what will come of an instance, if it is the one that was settled
beforehand. -/
theorem foreseen_answer (hσ : σ.IsCalm) {w : Worker} (hw : w.Sound) (hu : w.point.IsUndisturbed)
    {reply : Reply} (hreply : σ.replyTo? stage w.inst.identity calls w.point = some reply) :
    σ.foreseenAfter wd stage calls (w.act wd false reply.act) = σ.foreseen wd stage w calls := by
  cases hpt : w.point with
  | queued => simp [replyTo?, hpt] at hreply
  | ended aborted => simp [replyTo?, hpt] at hreply
  | starting up r rest halt =>
      rw [hpt] at hu hreply
      obtain rfl : halt = none := hu
      obtain rfl := Option.some.inj hreply
      have hs : w.inst.status = .startingServices := by simpa [hpt, Point.Fits] using hw.fits
      rw [foreseen, hpt]
      exact foreseenAfter_served hpt hs _
  | running up r rest halt =>
      rw [hpt] at hu hreply
      obtain rfl : halt = none := hu
      obtain rfl := Option.some.inj hreply
      rw [foreseen, hpt]
      exact foreseenAfter_ran hpt _
  | stopping service half rest o =>
      rw [hpt] at hreply
      obtain rfl := Option.some.inj hreply
      have hunwind : w.stopped (σ.stop stage w.inst.identity calls) = w.unwind rest o := by
        cases hstop : σ.stop stage w.inst.identity calls with
        | stopped => simp [Worker.stopped, hpt]
        | raised f => simp [Worker.stopped, hpt]
        | dropped => exact absurd hstop (hσ.stop stage w.inst.identity calls)
      rw [Reply.act, Worker.act, hunwind, foreseenAfter_unwind, foreseen, hpt]

/-! ### Nobody is disturbed -/

theorem isUndisturbed_unwind {w : Worker} {up : List String} {o : Outcome} (ho : o ≠ .aborted) :
    (w.unwind up o).worker.point.IsUndisturbed := by
  cases up with
  | nil =>
      cases o with
      | aborted => exact absurd rfl ho
      | succeeded => rfl
      | failed f => rfl
      | cancelled reason => rfl
  | cons name rest => exact ho

theorem isUndisturbed_nextStep {w : Worker} {halted : Bool} {up : List String} {n : Int}
    {steps : List Step} : (w.nextStep wd halted up n steps).worker.point.IsUndisturbed := by
  rcases w.nextStep_cases wd halted up n steps with ⟨o, ho, he⟩ | ⟨s, rest, r, _, _, _, he⟩
  · rw [he]
    exact isUndisturbed_unwind ho
  · rw [he]
    rfl

theorem isUndisturbed_nextService {w : Worker} {halted : Bool} {up : List String}
    {services : List Service} :
    (w.nextService wd halted up services).worker.point.IsUndisturbed := by
  rcases w.nextService_cases wd halted up services with
    ⟨_, he⟩ | ⟨o, _, ho, he⟩ | ⟨s, rest, r, _, _, _, he⟩
  · rw [he]
    exact isUndisturbed_nextStep
  · rw [he]
    exact isUndisturbed_unwind ho
  · rw [he]
    rfl

theorem isUndisturbed_begin {w : Worker} (hw : w.Sound) (hpt : w.point = .queued)
    (halted : Bool) : (w.begin wd halted).worker.point.IsUndisturbed := by
  rcases Worker.begin_cases wd halted hw hpt with ⟨_, he⟩ | ⟨_, _, he⟩ | ⟨_, _, he⟩
  · rw [he]
    rfl
  · rw [he]
    rfl
  · rw [he]
    exact isUndisturbed_nextService

theorem isUndisturbed_served {w : Worker} (hu : w.point.IsUndisturbed) (halted : Bool)
    (reply : StartReply) : (w.served wd halted reply).worker.point.IsUndisturbed := by
  rcases w.served_cases wd halted reply with ⟨_, he⟩ | ⟨up, r, rest, halt, hpt, hcases⟩
  · rw [he]
    exact hu
  · rw [hpt] at hu
    obtain rfl : halt = none := hu
    rcases hcases with ⟨habort, _⟩ | ⟨_, _, he⟩ | ⟨f, _, _, he⟩ | ⟨o, _, _, _, ho, he⟩
    · exact absurd habort (by simp)
    · rw [he]
      exact isUndisturbed_nextService
    · rw [he]
      exact (Worker.startOutcome_ne w r.name f).2
    · rw [he]
      exact isUndisturbed_unwind ho

theorem isUndisturbed_ran {w : Worker} (hu : w.point.IsUndisturbed) (halted : Bool)
    {reply : RunReply}
    (hreply : ∀ f, reply = .unreadable f → f.kind ≠ .foreign "CancelledError") :
    (w.ran wd halted reply).worker.point.IsUndisturbed := by
  rcases w.ran_cases wd halted reply with ⟨_, he⟩ | ⟨up, r, rest, halt, hpt, hcases⟩
  · rw [he]
    exact hu
  · rw [hpt] at hu
    obtain rfl : halt = none := hu
    rcases hcases with ⟨rs, o, ms, he, ho⟩ | ⟨rs, output, _, he⟩
    · rw [he]
      refine isUndisturbed_unwind fun habort => ?_
      rcases ho habort with hnone | ⟨f, hf, hk⟩
      · exact absurd hnone (by simp)
      · exact hreply f hf hk
    · rw [he]
      exact isUndisturbed_nextStep

theorem isUndisturbed_stopped {w : Worker} (hu : w.point.IsUndisturbed) {reply : StopReply}
    (hreply : reply ≠ .dropped) : (w.stopped reply).worker.point.IsUndisturbed := by
  rcases w.stopped_cases reply with ⟨_, he⟩ | ⟨service, half, rest, o, hpt, hcases⟩
  · rw [he]
    exact hu
  · rw [hpt] at hu
    rcases hcases with ⟨_, he⟩ | ⟨hdropped, _⟩
    · rw [he]
      exact isUndisturbed_unwind hu
    · exact absurd hdropped hreply

/-- Nobody is disturbed by an answer that was settled beforehand. -/
theorem isUndisturbed_answer (hσ : σ.IsCalm) {w : Worker} (hu : w.point.IsUndisturbed)
    {reply : Reply} (hreply : σ.replyTo? stage w.inst.identity calls w.point = some reply) :
    (w.act wd false reply.act).worker.point.IsUndisturbed := by
  cases hpt : w.point with
  | queued => simp [replyTo?, hpt] at hreply
  | ended aborted => simp [replyTo?, hpt] at hreply
  | starting up r rest halt =>
      rw [hpt] at hreply
      obtain rfl := Option.some.inj hreply
      exact isUndisturbed_served hu false _
  | running up r rest halt =>
      rw [hpt] at hreply
      obtain rfl := Option.some.inj hreply
      exact isUndisturbed_ran hu false (hσ.run stage w.inst.identity calls)
  | stopping service half rest o =>
      rw [hpt] at hreply
      obtain rfl := Option.some.inj hreply
      exact isUndisturbed_stopped hu (hσ.stop stage w.inst.identity calls)

end

end Replies

end Conveyor
