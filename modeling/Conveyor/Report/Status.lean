/-
**The statuses of instances, stages and runs.**

An instance starts its services, runs its steps and collects its artifacts.  It may fail once it
was started, and it may be cancelled as long as it has not ended.

Main definitions:

* `Conveyor.InstanceStatus` — the statuses of an instance;
* `Conveyor.InstanceStatus.mayBecome` — the status that may follow another one;
* `Conveyor.Status` — the statuses of stages and of runs.

Main results:

* `Conveyor.InstanceStatus.not_mayBecome_of_isTerminal` — an ended instance keeps its status.
-/

set_option autoImplicit false

namespace Conveyor

/-- The statuses of an instance. -/
inductive InstanceStatus where
  | pending
  | startingServices
  | runningSteps
  | collectingArtifacts
  | succeeded
  | failed
  | cancelled
  deriving DecidableEq, Repr, Inhabited

namespace InstanceStatus

/-- The name of a status. -/
def name : InstanceStatus → String
  | .pending => "pending"
  | .startingServices => "starting_services"
  | .runningSteps => "running_steps"
  | .collectingArtifacts => "collecting_artifacts"
  | .succeeded => "succeeded"
  | .failed => "failed"
  | .cancelled => "cancelled"

/-- All statuses. -/
def all : List InstanceStatus :=
  [.pending, .startingServices, .runningSteps, .collectingArtifacts, .succeeded, .failed,
    .cancelled]

/-- The status of a name. -/
def ofName? (s : String) : Option InstanceStatus := all.find? (·.name == s)

/-- Whether an instance has ended. -/
def isTerminal : InstanceStatus → Bool
  | .succeeded | .failed | .cancelled => true
  | _ => false

/-- Whether an instance holds a slot: it was started and has not ended. -/
def isActive : InstanceStatus → Bool
  | .startingServices | .runningSteps | .collectingArtifacts => true
  | _ => false

/-- The status that may follow another one. -/
def mayBecome : InstanceStatus → InstanceStatus → Bool
  | .pending, .startingServices | .pending, .cancelled => true
  | .startingServices, .runningSteps | .startingServices, .failed
  | .startingServices, .cancelled => true
  | .runningSteps, .collectingArtifacts | .runningSteps, .failed
  | .runningSteps, .cancelled => true
  | .collectingArtifacts, .succeeded | .collectingArtifacts, .failed
  | .collectingArtifacts, .cancelled => true
  | _, _ => false

/-- An ended instance keeps its status. -/
theorem not_mayBecome_of_isTerminal {s : InstanceStatus} (h : s.isTerminal = true)
    (t : InstanceStatus) : s.mayBecome t = false := by
  cases s <;> simp_all [isTerminal, mayBecome]

end InstanceStatus

/-- The statuses of stages and of runs. -/
inductive Status where
  | pending
  | running
  | succeeded
  | failed
  | cancelled
  deriving DecidableEq, Repr, Inhabited

namespace Status

/-- The name of a status. -/
def name : Status → String
  | .pending => "pending"
  | .running => "running"
  | .succeeded => "succeeded"
  | .failed => "failed"
  | .cancelled => "cancelled"

/-- All statuses. -/
def all : List Status := [.pending, .running, .succeeded, .failed, .cancelled]

/-- The status of a name. -/
def ofName? (s : String) : Option Status := all.find? (·.name == s)

/-- Whether a stage or a run has ended. -/
def isTerminal : Status → Bool
  | .succeeded | .failed | .cancelled => true
  | _ => false

end Status

end Conveyor
