/-
**What is measured of runs.**

Main definitions:

* `Conveyor.Metrics.standard` — the metrics of runs, instances and steps;
* `Conveyor.Metrics.Registry.record` — notes a measurement of a pipeline.
-/

import Conveyor.Engine.Call
import Conveyor.Metrics.Registry

set_option autoImplicit false

namespace Conveyor.Metrics

def runsTotal : String := "devflow_runs_total"
def runDuration : String := "devflow_run_duration_seconds"
def instancesTotal : String := "devflow_instances_total"
def instanceDuration : String := "devflow_instance_duration_seconds"
def activeInstances : String := "devflow_active_instances"
def stepsTotal : String := "devflow_step_executions_total"

/-- The metrics of runs, instances and steps. -/
def standard : List Definition := [
  { name := runsTotal, help := "Total number of pipeline runs", kind := .counter
    labels := ["pipeline", "status"] },
  { name := runDuration, help := "Pipeline run duration in seconds", kind := .histogram
    labels := ["pipeline"], bounds := .list ([1, 5, 30, 60, 300, 600, 1800, 3600].map .float) },
  { name := instancesTotal, help := "Total number of job instances by terminal status"
    kind := .counter, labels := ["pipeline", "stage", "status"] },
  { name := instanceDuration, help := "Job instance duration in seconds", kind := .histogram
    labels := ["pipeline", "stage"]
    bounds := .list ([0.1, 1, 5, 30, 60, 300, 900, 1800].map .float) },
  { name := activeInstances, help := "Number of job instances holding a worker pool slot"
    kind := .gauge, labels := ["pipeline"] },
  { name := stepsTotal, help := "Total number of step executions", kind := .counter
    labels := ["pipeline", "kind", "outcome"] }]

namespace Registry

/-- A registry with the metrics of runs, instances and steps. -/
def ofStandard : Registry :=
  standard.foldl (fun r d => match r.register d with | .ok s => s | .error _ => r) {}

/-- Notes a measurement of a pipeline.  Durations are noted as `seconds`. -/
def record (r : Registry) (pipeline : String) (seconds : Float) (m : Measurement) : Registry :=
  let about := ("pipeline", pipeline)
  match m with
  | .entered => (r.add activeInstances [about] (.int 1)).1
  | .left => (r.lower activeInstances [about]).1
  | .step kind outcome =>
    (r.add stepsTotal [about, ("kind", kind), ("outcome", outcome.name)] (.int 1)).1
  | .run status => (r.add runsTotal [about, ("status", status.name)] (.int 1)).1
  | .runDuration => (r.observe runDuration [about] (.float seconds)).1
  | .instance stage status =>
    (r.add instancesTotal [about, ("stage", stage), ("status", status.name)] (.int 1)).1
  | .instanceDuration stage =>
    (r.observe instanceDuration [about, ("stage", stage)] (.float seconds)).1

/-- Notes measurements of a pipeline in order. -/
def recordAll (r : Registry) (pipeline : String) (seconds : Float) (ms : List Measurement) :
    Registry :=
  ms.foldl (fun r m => r.record pipeline seconds m) r

end Registry

end Conveyor.Metrics
