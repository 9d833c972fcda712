/-
**Calls: what an instance asks of its surroundings, and what they answer.**

Main definitions:

* `Conveyor.Call` — a service to start, a command to run, a service to stop;
* `Conveyor.StartReply`, `Conveyor.RunReply`, `Conveyor.StopReply` — what may come back;
* `Conveyor.Note` — an entry of the log of calls;
* `Conveyor.Measurement` — what is counted while runs go on.
-/

import Conveyor.Fault
import Conveyor.Report.Status
import Conveyor.Resolution

set_option autoImplicit false

namespace Conveyor

/-- What an instance asks of its surroundings. -/
inductive Call where
  | start (service : ResolvedService)
  | run (command : String) (args : List (String × String)) (workingDir : String)
  | stop (service : String)
  deriving DecidableEq, Repr

/-- What comes of starting a service. -/
inductive StartReply where
  /-- The service is up. -/
  | up
  /-- The service is not up. -/
  | down (f : Fault)
  /-- The service did not start properly, but it has to be stopped. -/
  | half (f : Fault)
  /-- The call was called off. -/
  | dropped

/-- What comes of running a command. -/
inductive RunReply where
  | done (exitStatus : Int) (output : String)
  /-- There is a result, but its exit status cannot be read. -/
  | unreadable (f : Fault)
  | raised (f : Fault)
  /-- The call was called off. -/
  | dropped

/-- What comes of stopping a service. -/
inductive StopReply where
  | stopped
  /-- There was an exception that has a text. -/
  | raised (f : Fault)
  /-- The call was called off. -/
  | dropped

/-- An entry of the log of calls. -/
inductive Note where
  | called (c : Call)
  /-- The start of a service is called off. -/
  | startInterrupted (service : String)
  /-- A command that is under way is called off. -/
  | runInterrupted (command : String)
  deriving DecidableEq, Repr

/-- What became of a step. -/
inductive StepOutcome where
  | succeeded
  | failed
  | error
  | cancelled
  deriving DecidableEq, Repr

/-- The name of what became of a step. -/
def StepOutcome.name : StepOutcome → String
  | .succeeded => "succeeded"
  | .failed => "failed"
  | .error => "error"
  | .cancelled => "cancelled"

/-- What is counted while a run goes on. -/
inductive Measurement where
  /-- An instance takes up its work. -/
  | entered
  /-- An instance lays down its work. -/
  | left
  | step (kind : String) (outcome : StepOutcome)
  | run (status : Status)
  | runDuration
  | instance (stage : String) (status : InstanceStatus)
  | instanceDuration (stage : String)
  deriving DecidableEq, Repr

end Conveyor
