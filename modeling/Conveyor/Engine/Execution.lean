/-
**Executions: the stages of a pipeline, one after the other.**

An execution has stages behind it, perhaps one stage that is open, and stages before it.  A stage
is open until all its workers have ended.

Main definitions:

* `Conveyor.OpenStage` — the stage that is being carried out, with its workers;
* `Conveyor.Execution` — where the execution of a pipeline stands;
* `Conveyor.Execution.report` — its report at any time;
* `Conveyor.Execution.next` — what the execution does next by itself.
-/

import Conveyor.Engine.Worker

set_option autoImplicit false

namespace Conveyor

/-- The stage that is being carried out. -/
structure OpenStage where
  name : String
  workers : List Worker
  /-- Whether a failure has called off the work that had not begun. -/
  aborted : Bool := false

namespace OpenStage

/-- A stage as it is opened: all its instances wait. -/
def ofReport (s : StageReport) : OpenStage :=
  { name := s.name, workers := s.instances.map fun i => { inst := i } }

/-- The report of an open stage. -/
def report (s : OpenStage) : StageReport :=
  { name := s.name, instances := s.workers.map Worker.inst, status := .running }

/-- The worker of an identity. -/
def worker? (s : OpenStage) (identity : String) : Option Worker :=
  s.workers.find? (·.inst.identity == identity)

/-- The stage with all its workers changed. -/
def mapWorkers (s : OpenStage) (f : Worker → Worker) : OpenStage :=
  { s with workers := s.workers.map f }

/-- The stage with a worker in the place of the one of the same identity. -/
def put (s : OpenStage) (w : Worker) : OpenStage :=
  s.mapWorkers fun v => if v.inst.identity = w.inst.identity then w else v

/-- Cancels the instances that were not started. -/
def cancelPending (s : OpenStage) (reason : String) : OpenStage :=
  s.mapWorkers fun w => { w with inst := StageReport.cancelIfPending reason w.inst }

/-- Notes how an instance came out: the first failure calls off the work that has not begun. -/
def noteOutcome (s : OpenStage) (failFast : Bool) (w : Worker) : OpenStage :=
  if w.point.hasEnded ∧ ¬w.point.wasAborted ∧ w.inst.status = .failed ∧ failFast ∧ ¬s.aborted then
    { s.cancelPending ("Cancelled by fail-fast: '" ++ w.inst.identity ++ "' failed") with
      aborted := true }
  else s

/-- Whether all workers have ended. -/
def isOver (s : OpenStage) : Bool := s.workers.all fun w => w.point.hasEnded

/-- Whether a worker was ended by an abort. -/
def wasAborted (s : OpenStage) : Bool := s.workers.any fun w => w.point.wasAborted

end OpenStage

/-- How an execution ended. -/
inductive Ending where
  | returned (s : Status)
  /-- Its task was aborted. -/
  | aborted
  deriving DecidableEq, Repr

/-- The status of a run that ended. -/
def Ending.status : Ending → Status
  | .returned s => s
  | .aborted => .cancelled

/-- Where the execution of a pipeline stands. -/
structure Execution where
  past : List StageReport := []
  current : Option OpenStage := none
  future : List StageReport := []
  /-- The stage whose failure skips the stages after it. -/
  haltedBy : Option String := none
  ending : Option Ending := none
  aggregated : List String := []

namespace Execution

/-- The stages with their instances. -/
def stages (e : Execution) : List StageReport :=
  e.past ++ e.current.toList.map OpenStage.report ++ e.future

/-- All instances in the order of creation. -/
def instances (e : Execution) : List JobInstance := e.stages.flatMap StageReport.instances

/-- The report of an execution. -/
def report (e : Execution) (runId pipelineName : String) : RunReport :=
  { runId, pipelineName, stages := e.stages
    status := match e.ending with
      | none => .running
      | some ending => ending.status
    aggregatedArtifacts := e.aggregated
    started := true
    finished := e.ending.isSome }

/-- Cancels the instances that were not started. -/
def cancelPending (e : Execution) (reason : String) : Execution :=
  { e with
    past := e.past.map (·.cancelPending reason)
    current := e.current.map (·.cancelPending reason)
    future := e.future.map (·.cancelPending reason) }

/-- The status of a run whose stages are over: a failure counts more than a cancel, and a cancel
more than success. -/
def finalStatus (e : Execution) : Status :=
  if e.stages.any (·.status == .failed) then .failed
  else if e.instances.any (·.status == .cancelled) then .cancelled
  else if e.stages.any (·.status == .cancelled) then .cancelled
  else .succeeded

/-- The execution as ended, with the artifacts of the instances that succeeded. -/
def finish (e : Execution) (ending : Ending) : Execution :=
  { e with
    ending := some ending
    aggregated := dedupe (e.instances.flatMap RunReport.contribution) }

/-- The measurements of an instance in a report. -/
def instanceTally (i : JobInstance) : List Measurement :=
  .instance i.stageName i.status ::
    (if i.hasDuration then [.instanceDuration i.stageName] else [])

/-- The measurements of an execution that ended. -/
def finalTally (e : Execution) (status : Status) : List Measurement :=
  .run status :: .runDuration :: e.instances.flatMap instanceTally

/-- A stage that is not carried out. -/
def skipped (s : StageReport) (reason : String) : StageReport :=
  { s.cancelPending reason with status := .cancelled }

/-- What an execution does next by itself. -/
inductive Next where
  /-- A worker was aborted: the execution ends. -/
  | concludeAborted
  /-- All workers of the open stage have ended. -/
  | close (s : OpenStage)
  | skip (s : StageReport) (reason : String) (rest : List StageReport)
  | openStage (s : StageReport) (rest : List StageReport)
  /-- No stage is left. -/
  | conclude

/-- What an execution does next by itself, if it need not wait.  `halted` says that the run was
cancelled. -/
def next (e : Execution) (halted : Bool) : Option Next :=
  match e.ending, e.current with
  | some _, _ => none
  | none, some s =>
    if s.wasAborted then some .concludeAborted
    else if s.isOver then some (.close s)
    else none
  | none, none =>
    match e.future with
    | [] => some .conclude
    | s :: rest =>
      if halted then some (.skip s Fault.cancelText rest)
      else
        match e.haltedBy with
        | some name =>
          some (.skip s ("Skipped: stage '" ++ name ++ "' failed with fail-fast") rest)
        | none => some (.openStage s rest)

/-- The execution with its open stage behind it. -/
def close (e : Execution) (failFast : Bool) (s : OpenStage) : Execution :=
  let done := s.report.finalize
  { e with
    past := e.past ++ [done]
    current := none
    haltedBy := if done.status = .failed ∧ failFast then some s.name else e.haltedBy }

/-- How many steps an execution can take by itself at most. -/
def weight (e : Execution) : Nat :=
  (if e.ending.isNone then 1 else 0) + (if e.current.isSome then 1 else 0) +
    total (e.future.map fun s => 2 + s.instances.length)

end Execution

end Conveyor
