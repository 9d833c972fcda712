/-
**Reports as data.**

Times are not told: whoever writes a report says what stands for a time that is known.

Main definitions:

* `Conveyor.TimeSigns` — what stands for a time and for a duration;
* `Conveyor.RunReport.datum` — the report of a run as a datum.
-/

import Conveyor.Report.Run

set_option autoImplicit false

namespace Conveyor

/-- What stands for a time and for a duration that are known. -/
structure TimeSigns where
  time : Datum
  duration : Datum

/-- What stands for something known, or null. -/
def TimeSigns.shown (sign : Datum) (known : Bool) : Datum := if known then sign else .null

/-- Texts by name, as a datum. -/
def Datum.ofBindings (bs : List (String × String)) : Datum :=
  .object (bs.map fun b => (b.1, .text b.2))

/-- A step as a datum; `full` adds what the step wrote. -/
def StepRecord.datum (signs : TimeSigns) (full : Bool) (r : StepRecord) : Datum :=
  .object ([("index", .int r.index), ("kind", .text r.kind), ("command", .text r.command),
    ("exit_status", .ofInt? r.exitStatus),
    ("duration_seconds", TimeSigns.shown signs.duration r.timed)] ++
    (if full then [("output", .text r.output)] else []))

/-- An instance as a datum. -/
def JobInstance.datum (signs : TimeSigns) (full : Bool) (i : JobInstance) : Datum :=
  .object [("identity", .text i.identity), ("stage", .text i.stageName),
    ("job", .text i.job.name), ("bound_context", .ofBindings i.bindings),
    ("status", .text i.status.name), ("produced_artifacts", .texts i.producedArtifacts),
    ("steps", .list (i.stepRecords.map (StepRecord.datum signs full))),
    ("error", .ofText? i.error), ("error_type", .ofText? i.errorKind),
    ("duration_seconds", TimeSigns.shown signs.duration i.hasDuration)]

/-- A stage as a datum. -/
def StageReport.datum (signs : TimeSigns) (full : Bool) (s : StageReport) : Datum :=
  .object [("name", .text s.name), ("status", .text s.status.name),
    ("instances", .list (s.instances.map (JobInstance.datum signs full)))]

/-- The report of a run as a datum. -/
def RunReport.datum (signs : TimeSigns) (full : Bool) (r : RunReport) : Datum :=
  .object [("run_id", .text r.runId), ("pipeline", .text r.pipelineName),
    ("status", .text r.status.name), ("aggregated_artifacts", .texts r.aggregatedArtifacts),
    ("stages", .list (r.stages.map (StageReport.datum signs full))),
    ("error", .ofText? r.error),
    ("started_at", TimeSigns.shown signs.time r.started),
    ("finished_at", TimeSigns.shown signs.time r.finished),
    ("duration_seconds", TimeSigns.shown signs.duration r.hasDuration)]

end Conveyor
