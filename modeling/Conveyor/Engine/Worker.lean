/-
**Workers: an instance on its way from its slot to its end.**

A worker starts the services of its instance one after the other, runs the steps one after the
other, and stops the services in reverse order, whatever happened before.  After each call it waits
for the answer; a turn of a worker leads from an answer to the next call, or to the end.

Main definitions:

* `Conveyor.Worker` — an instance and the point that it has reached;
* `Conveyor.Worker.begin` — the first turn, when the slot is given;
* `Conveyor.Worker.served`, `Conveyor.Worker.ran`, `Conveyor.Worker.stopped` — the turns that follow
  an answer;
* `Conveyor.Worker.escaped` — the turn that follows an exception without a text;
* `Conveyor.Worker.interrupt`, `Conveyor.Worker.abort` — calling off.
-/

import Conveyor.Engine.Call
import Conveyor.Report.Run

set_option autoImplicit false

namespace Conveyor

/-- Why a call that is under way was called off. -/
inductive Halt where
  /-- The run was cancelled. -/
  | cancel
  /-- The task of the run was aborted. -/
  | abort
  deriving DecidableEq, Repr

/-- How an instance comes out. -/
inductive Outcome where
  | succeeded
  | failed (f : Fault)
  | cancelled (reason : String)
  /-- The task of the instance was aborted. -/
  | aborted

/-- The point that a worker has reached.  `up` are the services that are up, the last one first. -/
inductive Point where
  /-- Waiting for a slot. -/
  | queued
  | starting (up : List String) (service : ResolvedService) (rest : List Service)
      (halt : Option Halt)
  | running (up : List String) (step : ResolvedStep) (rest : List Step) (halt : Option Halt)
  /-- Stopping a service; `half` says that it never started properly. -/
  | stopping (service : String) (half : Bool) (rest : List String) (outcome : Outcome)
  | ended (aborted : Bool)

/-- An instance and the point that it has reached. -/
structure Worker where
  inst : JobInstance
  point : Point := .queued
  /-- The statuses that the instance was refused. -/
  refused : List Refusal := []

/-- What a turn of a worker brings. -/
structure Turn where
  worker : Worker
  notes : List Note := []
  tally : List Measurement := []

/-- A turn with measurements that were made before it. -/
def Turn.after (ms : List Measurement) (t : Turn) : Turn := { t with tally := ms ++ t.tally }

/-- The reason of instances whose task was aborted. -/
def abortText : String := "Run task cancelled"

/-- How an instance comes out that meets a fault in its surroundings.  Faults of the engine's own
kinds stay as they are. -/
def Outcome.ofFault (identity : String) (f : Fault) : Outcome :=
  match f.kind with
  | .cancellation _ => .cancelled f.message
  | .resolution .. | .execution .. => .failed f
  | .foreign "CancelledError" => .aborted
  | _ => .failed (.wrapped identity f none)

namespace Point

/-- Whether a worker has come to its end. -/
def hasEnded : Point → Bool
  | .ended _ => true
  | _ => false

/-- Whether a worker waits for a slot. -/
def isQueued : Point → Bool
  | .queued => true
  | _ => false

/-- Whether a worker was ended by an abort. -/
def wasAborted : Point → Bool
  | .ended aborted => aborted
  | _ => false

/-- Whether a worker holds a slot. -/
def holdsSlot : Point → Bool
  | .starting .. | .running .. | .stopping .. => true
  | _ => false

end Point

namespace Worker

/-- The worker with its instance in another status. -/
def become (w : Worker) (p : JobInstance × Option Refusal) : Worker :=
  { w with inst := p.1, refused := w.refused ++ p.2.toList }

/-- The instance enters a status. -/
def move (w : Worker) (s : InstanceStatus) : Worker := w.become (w.inst.attempt s)

/-- The fault of an instance that may not go on after a cancel. -/
def cancelledText (w : Worker) : String := "Instance '" ++ w.inst.identity ++ "' cancelled"

/-- The fault of an instance whose call was called off. -/
def droppedText (w : Worker) : String :=
  "Instance '" ++ w.inst.identity ++ "' aborted by cancel request"

/-- The instance with its artifacts. -/
def collect (w : Worker) : Worker :=
  { w with inst :=
    { w.inst with producedArtifacts := dedupe (w.inst.job.artifacts.map Artifact.path) } }

/-- The end: the instance takes the status that it comes out with. -/
def conclude (w : Worker) (o : Outcome) : Turn :=
  let (done, aborted) := match o with
    | .succeeded => (((w.move .collectingArtifacts).collect).move .succeeded, false)
    | .failed f => (w.become (w.inst.fail f), false)
    | .cancelled reason => (w.become (w.inst.cancel reason), false)
    | .aborted =>
      (if w.inst.isTerminal then w else w.become (w.inst.cancel abortText), true)
  { worker := { done with point := .ended aborted }, tally := [.left] }

/-- Stops the services that are up, the last one first, and then comes to the end. -/
def unwind (w : Worker) (up : List String) (o : Outcome) : Turn :=
  match up with
  | [] => w.conclude o
  | name :: rest =>
    { worker := { w with point := .stopping name false rest o }, notes := [.called (.stop name)] }

/-- Where placeholders of an instance find their values. -/
def context (w : Worker) : Template.Context :=
  { bindings := w.inst.bindings, instanceId := some w.inst.identity }

/-- The record of a step that is about to run. -/
def recordStep (w : Worker) (r : ResolvedStep) : Worker :=
  { w with inst :=
    { w.inst with stepRecords :=
        w.inst.stepRecords ++ [{ index := r.index, kind := r.kind, command := r.command }] } }

/-- Changes the record of the step that ran last. -/
def modifyRecord (w : Worker) (f : StepRecord → StepRecord) : Worker :=
  { w with inst :=
    { w.inst with stepRecords := w.inst.stepRecords.modify (w.inst.stepRecords.length - 1) f } }

/-- Runs the next step.  `halted` says that the run was cancelled. -/
def nextStep (w : Worker) (workingDir : String) (halted : Bool) (up : List String) (index : Int) :
    List Step → Turn
  | [] => w.unwind up .succeeded
  | s :: rest =>
    if halted then w.unwind up (.cancelled w.cancelledText)
    else
      match s.resolve w.context index with
      | .error f => w.unwind up (.failed f)
      | .ok r =>
        { worker := { w.recordStep r with point := .running up r rest none }
          notes := [.called (.run r.command r.args workingDir)] }

/-- Starts the next service, or goes over to the steps. -/
def nextService (w : Worker) (workingDir : String) (halted : Bool) (up : List String) :
    List Service → Turn
  | [] => (w.move .runningSteps).nextStep workingDir halted up 0 w.inst.job.steps
  | s :: rest =>
    if halted then w.unwind up (.cancelled w.cancelledText)
    else
      match s.resolve w.context with
      | .error f => w.unwind up (.failed f)
      | .ok r =>
        { worker := { w with point := .starting up r rest none }
          notes := [.called (.start r)] }

/-- The first turn, when the slot is given.  An instance that was cancelled in the meantime ends at
once. -/
def begin (w : Worker) (workingDir : String) (halted : Bool) : Turn :=
  if w.inst.status ≠ .pending then { worker := { w with point := .ended false } }
  else if halted then
    { worker := { w.become (w.inst.cancel Fault.cancelText) with point := .ended false } }
  else
    ((w.move .startingServices).nextService workingDir halted [] w.inst.job.services).after
      [.entered]

/-- The fault of a service that does not start. -/
def startFault (w : Worker) (service text : String) : Fault :=
  { kind := .execution (some w.inst.identity) none none (some service)
    text := "Service '" ++ service ++ "' failed to start: " ++ text }

/-- How an instance comes out whose service does not start. -/
def startOutcome (w : Worker) (service : String) (f : Fault) : Outcome :=
  match f.kind with
  | .cancellation _ => .cancelled f.message
  | .serviceStart => .failed (w.startFault service f.text)
  | _ => .failed (w.startFault service f.message)

/-- The turn after the answer to starting a service.  After an abort the answer does not count. -/
def served (w : Worker) (workingDir : String) (halted : Bool) (reply : StartReply) : Turn :=
  match w.point with
  | .starting up r rest halt =>
    if halt = some .abort then w.unwind up .aborted
    else
      match reply with
      | .up => w.nextService workingDir halted (r.name :: up) rest
      | .down f => w.unwind up (w.startOutcome r.name f)
      | .half f =>
        { worker := { w with point := .stopping r.name true up (w.startOutcome r.name f) }
          notes := [.called (.stop r.name)] }
      | .dropped => w.unwind up (.cancelled w.droppedText)
  | _ => { worker := w }

/-- The fault of a step. -/
def stepFault (w : Worker) (r : ResolvedStep) (what : String) (exitStatus : Option Int) : Fault :=
  { kind := .execution (some w.inst.identity) (some r.index) exitStatus none
    text := "Step " ++ toString r.index ++ " ('" ++ r.command ++ "') " ++ what }

/-- The turn after the answer to running a command.  After an abort the answer does not count. -/
def ran (w : Worker) (workingDir : String) (halted : Bool) (reply : RunReply) : Turn :=
  match w.point with
  | .running up r rest halt =>
    let w := w.modifyRecord fun s => { s with timed := true }
    if halt = some .abort then w.unwind up .aborted
    else
      match reply with
      | .done status output =>
        let w := w.modifyRecord fun s => { s with exitStatus := some status, output }
        if status = 0 then
          (w.nextStep workingDir halted up (r.index + 1) rest).after [.step r.kind .succeeded]
        else
          (w.unwind up (.failed (w.stepFault r ("exited with status " ++ toString status)
            (some status)))).after [.step r.kind .failed]
      | .unreadable f => w.unwind up (.ofFault w.inst.identity f)
      | .raised f =>
        match f.kind with
        | .cancellation _ =>
          (w.unwind up (.cancelled f.message)).after [.step r.kind .cancelled]
        | _ =>
          (w.unwind up (.failed (w.stepFault r ("runtime error: " ++ f.message) none))).after
            [.step r.kind .error]
      | .dropped => (w.unwind up (.cancelled w.droppedText)).after [.step r.kind .cancelled]
  | _ => { worker := w }

/-- The turn of a worker whose stopping of a service is called off.  The other services are stopped
only if the service never started properly. -/
def dropStop (w : Worker) (half : Bool) (rest : List String) : Turn :=
  if half then w.unwind rest .aborted else w.conclude .aborted

/-- The turn after the answer to stopping a service. -/
def stopped (w : Worker) (reply : StopReply) : Turn :=
  match w.point with
  | .stopping _ half rest outcome =>
    match reply with
    | .stopped | .raised _ => w.unwind rest outcome
    | .dropped => w.dropStop half rest
  | _ => { worker := w }

/-- The turn after the stop of a service has raised an exception that has no text.  An exception is
noted by its text, so the instance meets the fault that telling it raises, in place of what it would
have come out with.  The other services are stopped only if the service never started properly. -/
def escaped (w : Worker) (f : Fault) : Turn :=
  match w.point with
  | .stopping _ half rest _ => w.unwind (if half then rest else []) (.ofFault w.inst.identity f)
  | _ => { worker := w }

/-! ### Calling off -/

/-- Calls off what a worker has under way after a cancel: the start of a service or a command. -/
def interrupt (w : Worker) : Turn :=
  match w.point with
  | .starting up r rest none =>
    { worker := { w with point := .starting up r rest (some .cancel) }
      notes := [.startInterrupted r.name] }
  | .running up r rest none =>
    { worker := { w with point := .running up r rest (some .cancel) }
      notes := [.runInterrupted r.command] }
  | _ => { worker := w }

/-- Aborts a worker.  What it has under way is called off, also the stop of a service. -/
def abort (w : Worker) : Turn :=
  match w.point with
  | .queued => { worker := { w with point := .ended true } }
  | .starting up r rest halt =>
    { worker := { w with point := .starting up r rest (some .abort) }
      notes := if halt.isNone then [.startInterrupted r.name] else [] }
  | .running up r rest halt =>
    { worker := { w with point := .running up r rest (some .abort) }
      notes := if halt.isNone then [.runInterrupted r.command] else [] }
  | .stopping _ half rest _ => w.dropStop half rest
  | .ended _ => { worker := w }

end Worker

end Conveyor
