/-
**Runs: a pipeline that is carried out with a number of slots.**

A run goes from answer to answer.  An answer is a turn of the worker that waited for it; after that
the run goes on by itself as long as it can: it closes and opens stages, and gives free slots to
those who wait.

Main definitions:

* `Conveyor.Run` — a run with its executions, its slots, its log of calls and its measurements;
* `Conveyor.Run.plan` — the stages of a run before it starts, or what is wrong with the pipeline;
* `Conveyor.Run.execute` — the run as started;
* `Conveyor.Run.served`, `Conveyor.Run.ran`, `Conveyor.Run.stopped` — the run after an answer;
* `Conveyor.Run.cancel`, `Conveyor.Run.abort` — calling off;
* `Conveyor.Run.settle` — the run when it has gone on as far as it can.
-/

import Conveyor.Config
import Conveyor.Engine.Execution
import Conveyor.Engine.Pool
import Conveyor.Structure

set_option autoImplicit false

namespace Conveyor

/-- A worker of a run: which execution, which stage, and which instance. -/
structure Ticket where
  execution : Nat
  stage : String
  identity : String
  deriving DecidableEq, Repr

/-- A pipeline that is carried out with a number of slots.  It may be executed more than once; its
executions share the slots and the request to cancel. -/
structure Run where
  id : String
  pipeline : Pipeline
  config : RunConfig
  pool : Pool Ticket
  cancelRequested : Bool := false
  executions : List Execution := []
  /-- The calls, the first one first. -/
  log : List (Ticket × Note) := []
  tally : List Measurement := []

namespace Run

/-- A run that was not started. -/
def create (id : String) (p : Pipeline) (c : RunConfig) : Run :=
  { id, pipeline := p, config := c, pool := { limit := c.concurrencyLimit } }

/-- A run that was not started, if its configuration gives it slots at all. -/
def make (id : String) (p : Pipeline) (c : RunConfig) : Except Fault Run := do
  let pool ← Pool.ofLimit c.concurrencyLimit
  return { id, pipeline := p, config := c, pool }

/-- The stages of a pipeline with their instances, or what is wrong with the pipeline. -/
def planOf (p : Pipeline) (c : RunConfig) : Except Fault (List StageReport) := do
  p.validate
  p.expand c.matrixCap

/-- The report of a run before it starts. -/
def plan (r : Run) : Except Fault RunReport := do
  let stages ← planOf r.pipeline r.config
  return { runId := r.id, pipelineName := r.pipeline.name, stages }

/-- The report of the execution that was started last. -/
def report? (r : Run) : Option RunReport :=
  r.executions.getLast?.map (·.report r.id r.pipeline.name)

/-- The run with one of its executions changed. -/
def modifyExecution (r : Run) (k : Nat) (f : Execution → Execution) : Run :=
  { r with executions := r.executions.modify k f }

/-- The tickets of the workers of an execution. -/
def ticketsOf (k : Nat) (e : Execution) : List Ticket :=
  e.current.toList.flatMap fun s =>
    s.workers.map fun w => { execution := k, stage := s.name, identity := w.inst.identity }

/-- The tickets of all workers. -/
def tickets (r : Run) : List Ticket := (r.executions.mapIdx ticketsOf).flatten

/-- The worker of a ticket with the stage it works in. -/
def worker? (r : Run) (t : Ticket) : Option (OpenStage × Worker) := do
  let e ← r.executions[t.execution]?
  let s ← e.current
  if s.name = t.stage then
    let w ← s.worker? t.identity
    return (s, w)
  else none

/-- A turn of a worker.  One that comes to its end gives its slot back. -/
def turn (r : Run) (t : Ticket) (f : Worker → Turn) : Run :=
  match r.worker? t with
  | none => r
  | some (s, w) =>
    if w.point.hasEnded then r
    else
      let made := f w
      let stage := (s.put made.worker).noteOutcome r.config.failFast made.worker
      let r := r.modifyExecution t.execution fun e => { e with current := some stage }
      { r with
        pool := if made.worker.point.hasEnded then r.pool.leave else r.pool
        log := r.log ++ made.notes.map (fun n => (t, n))
        tally := r.tally ++ made.tally }

/-! ### Calling off -/

/-- Cancels a run: instances that were not started are cancelled, and the starts of services and
the commands that are under way are called off.  A second cancel changes nothing. -/
def cancel (r : Run) (reason : String) : Run :=
  if r.cancelRequested then r
  else
    let r := { r with cancelRequested := true }
    let r := r.modifyExecution (r.executions.length - 1) (·.cancelPending reason)
    r.tickets.foldl (fun r t => r.turn t Worker.interrupt) r

/-- Aborts a worker.  One that waits for a slot leaves the queue, and has none to give back. -/
def abortWorker (r : Run) (t : Ticket) : Run :=
  match r.worker? t with
  | some (s, w) =>
    if w.point.isQueued then
      let r := r.modifyExecution t.execution fun e =>
        { e with current := some (s.put w.abort.worker) }
      { r with pool := r.pool.withdraw t }
    else r.turn t Worker.abort
  | none => r

/-- Aborts an execution: everything that its workers have under way is called off. -/
def abort (r : Run) (k : Nat) : Run :=
  match r.executions[k]? with
  | some e => if e.ending.isSome then r else (ticketsOf k e).foldl abortWorker r
  | none => r

/-! ### Going on -/

/-- An execution comes to its end. -/
def conclude (r : Run) (k : Nat) (ending : Ending) : Run :=
  match r.executions[k]? with
  | none => r
  | some e =>
    let e := e.finish ending
    let r := r.modifyExecution k fun _ => e
    { r with tally := r.tally ++ e.finalTally ending.status }

/-- The run after what one of its executions does by itself. -/
def perform (r : Run) (k : Nat) (e : Execution) : Execution.Next → Run
  | .concludeAborted => (r.cancel abortText).conclude k .aborted
  | .close s => r.modifyExecution k fun e => e.close r.config.failFast s
  | .skip s reason rest =>
    r.modifyExecution k fun e =>
      { e with past := e.past ++ [Execution.skipped s reason], future := rest }
  | .openStage s rest =>
    let r := r.modifyExecution k fun e => { e with current := some (.ofReport s), future := rest }
    let waiting := s.instances.map fun i => Ticket.mk k s.name i.identity
    { r with pool := r.pool.request waiting }
  | .conclude => r.conclude k (.returned e.finalStatus)

/-- What the first execution that need not wait does by itself; the executions are counted from
`k` on. -/
def nextOf (halted : Bool) (k : Nat) : List Execution → Option (Nat × Execution × Execution.Next)
  | [] => none
  | e :: rest =>
    match e.next halted with
    | some n => some (k, e, n)
    | none => nextOf halted (k + 1) rest

/-- The run after a free slot is given to the front of the queue. -/
def admit? (r : Run) : Option Run :=
  r.pool.admit?.map fun p =>
    { r with pool := p.2 }.turn p.1 fun w => w.begin r.config.workingDir r.cancelRequested

/-- The run after the next step that it takes by itself. -/
def step? (r : Run) : Option Run :=
  match nextOf r.cancelRequested 0 r.executions with
  | some (k, e, n) => some (r.perform k e n)
  | none => r.admit?

/-- How many steps a run can take by itself at most. -/
def weight (r : Run) : Nat :=
  r.pool.waiting.length + total (r.executions.map Execution.weight)

/-- The run after at most so many steps that it takes by itself. -/
def settleFor : Nat → Run → Run
  | 0, r => r
  | n + 1, r =>
    match r.step? with
    | some next => settleFor n next
    | none => r

/-- The run when it has gone on as far as it can. -/
def settle (r : Run) : Run := settleFor r.weight r

/-! ### Starting and answering -/

/-- An execution that has done nothing yet. -/
def opening (r : Run) (stages : List StageReport) : Execution :=
  let e : Execution := { future := stages }
  if r.cancelRequested then e.cancelPending "Run cancelled before start" else e

/-- The run with another execution that has done nothing yet, or what is wrong with its pipeline. -/
def launch (r : Run) : Except Fault Run := do
  let stages ← planOf r.pipeline r.config
  return { r with executions := r.executions ++ [r.opening stages] }

/-- The run with another execution, or what is wrong with its pipeline. -/
def execute (r : Run) : Except Fault Run := settle <$> r.launch

/-- The run after the answer to starting a service. -/
def served (r : Run) (t : Ticket) (reply : StartReply) : Run :=
  r.turn t fun w => w.served r.config.workingDir r.cancelRequested reply

/-- The run after the answer to running a command. -/
def ran (r : Run) (t : Ticket) (reply : RunReply) : Run :=
  r.turn t fun w => w.ran r.config.workingDir r.cancelRequested reply

/-- The run after the answer to stopping a service. -/
def stopped (r : Run) (t : Ticket) (reply : StopReply) : Run :=
  r.turn t fun w => w.stopped reply

/-- The run after the stop of a service has raised an exception that has no text. -/
def escaped (r : Run) (t : Ticket) (f : Fault) : Run := r.turn t fun w => w.escaped f

/-- Whether the call that a worker waits for was called off. -/
def isInterrupted (r : Run) (t : Ticket) : Bool :=
  match r.worker? t with
  | some (_, w) =>
    match w.point with
    | .starting _ _ _ halt | .running _ _ _ halt => halt.isSome
    | _ => false
  | none => false

end Run

end Conveyor
