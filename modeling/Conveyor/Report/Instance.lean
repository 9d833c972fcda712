/-
**Instances: one execution of a job for one choice of values.**

Main definitions:

* `Conveyor.StepRecord` — what came of a step;
* `Conveyor.JobInstance` — an instance with its status and its results;
* `Conveyor.JobInstance.transition` — the instance in another status, or a refusal;
* `Conveyor.JobInstance.fail`, `Conveyor.JobInstance.cancel` — the two ways to end early.

Main results:

* `Conveyor.JobInstance.transition_eq_ok_iff` — a status is taken when it may follow.
-/

import Conveyor.Definition.Tree
import Conveyor.Fault
import Conveyor.Report.Status

set_option autoImplicit false

namespace Conveyor

/-- What came of a step. -/
structure StepRecord where
  index : Int
  kind : String
  command : String
  exitStatus : Option Int := none
  output : String := ""
  /-- Whether the time that the step took is known. -/
  timed : Bool := false
  deriving DecidableEq, Repr, Inhabited

/-- An instance of a job with its status and its results. -/
structure JobInstance where
  identity : String
  stageName : String
  job : Job
  /-- The values of the axes, by name. -/
  bindings : List (String × String) := []
  /-- The place in the order of creation. -/
  index : Int := 0
  status : InstanceStatus := .pending
  producedArtifacts : List String := []
  stepRecords : List StepRecord := []
  error : Option String := none
  errorKind : Option String := none
  /-- Whether the instance was ever started. -/
  started : Bool := false
  /-- Whether the instance has ended. -/
  finished : Bool := false
  deriving DecidableEq, Repr, Inhabited

/-- A status that an instance may not take. -/
structure Refusal where
  identity : String
  origin : InstanceStatus
  target : InstanceStatus
  deriving DecidableEq, Repr

/-- A refusal as a fault. -/
def Refusal.fault (r : Refusal) : Fault :=
  { kind := .transition
    text := "Instance '" ++ r.identity ++ "' cannot move from " ++ r.origin.name ++ " to "
      ++ r.target.name }

namespace JobInstance

/-- Whether an instance has ended. -/
def isTerminal (i : JobInstance) : Bool := i.status.isTerminal

/-- Whether the time that an instance took is known. -/
def hasDuration (i : JobInstance) : Bool := i.started && i.finished

/-- An instance in a status, with what is known of its times. -/
def enter (i : JobInstance) (s : InstanceStatus) : JobInstance :=
  { i with
    status := s
    started := i.started || s == .startingServices
    finished := i.finished || s.isTerminal }

/-- The instance in another status, if that one may follow. -/
def transition (i : JobInstance) (s : InstanceStatus) : Except Refusal JobInstance :=
  if i.status.mayBecome s then .ok (i.enter s) else .error ⟨i.identity, i.status, s⟩

/-- The instance in another status, or as it was with a refusal. -/
def attempt (i : JobInstance) (s : InstanceStatus) : JobInstance × Option Refusal :=
  match i.transition s with
  | .ok j => (j, none)
  | .error r => (i, some r)

/-- The instance as failed.  The error is noted also when the status is refused. -/
def fail (i : JobInstance) (f : Fault) : JobInstance × Option Refusal :=
  { i with error := some f.message, errorKind := some f.kindName }.attempt .failed

/-- The instance as cancelled.  The reason is noted also when the status is refused. -/
def cancel (i : JobInstance) (reason : String) : JobInstance × Option Refusal :=
  { i with error := some reason, errorKind := some "CancellationError" }.attempt .cancelled

/-- A status is taken when it may follow. -/
theorem transition_eq_ok_iff {i j : JobInstance} {s : InstanceStatus} :
    i.transition s = .ok j ↔ i.status.mayBecome s = true ∧ j = i.enter s := by
  unfold transition
  split <;> rename_i h
  · simp only [Except.ok.injEq, h, true_and]
    exact eq_comm
  · simp [h]

@[simp] theorem status_enter (i : JobInstance) (s : InstanceStatus) : (i.enter s).status = s := rfl

end JobInstance

end Conveyor
